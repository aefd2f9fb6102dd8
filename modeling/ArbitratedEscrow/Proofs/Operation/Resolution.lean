import ArbitratedEscrow.Proofs.Operation.Offer
import ArbitratedEscrow.Proofs.Operation.Progress

/-!
# There is always a step

A party is told to dismiss a contract only once it is resolved, and to wait only
while the other party has to sign. Any other action names a step that furthers
the contract, without declining or denying anything. So in a sound ledger a
contract is resolved, or one of its parties can further it (`Ledger.Sound.due`).
-/

namespace ArbitratedEscrow

namespace Operation

variable {settings : Settings} {operation : Operation} {id : ContractId}

theorem guarded_of_furthers (further : operation.furthers = some id) :
    operation.guardedContract = some id := by
  cases operation <;> first | exact further | cases further

theorem files_nothing (further : operation.furthers = some id) (answer : Answer) :
    operation.filed? answer = none := by
  cases operation <;> first | rfl | cases further

end Operation

/-- Actions other than waiting and dismissing name a step that furthers the contract. -/
theorem ContractAction.exists_names {action : ContractAction} (id : ContractId) (pot : Amount)
    (active : action ≠ .awaitCounterparty) (unfinished : action ≠ .dismiss) :
    ∃ operation : Operation, operation.furthers = some id ∧ action.Names pot operation := by
  cases action with
  | issue | acceptOrDecline => exact ⟨.signContract id ⟨""⟩, rfl, trivial⟩
  | sendToArbiter => exact ⟨.certifyContract id, rfl, trivial⟩
  | broadcastFunding => exact ⟨.broadcastFunding id, rfl, trivial⟩
  | awaitFundingConfirmation => exact ⟨.confirmFunding id, rfl, trivial⟩
  | requestPayout => exact ⟨.proposePayout id pot 0, rfl, Nat.add_zero _⟩
  | signPayout | acceptOrDenyPayout => exact ⟨.signPayout id (.password ⟨""⟩), rfl, trivial⟩
  | sendPayoutToArbiter => exact ⟨.certifyPayout id, rfl, trivial⟩
  | broadcastPayout => exact ⟨.broadcastPayout id, rfl, trivial⟩
  | awaitPayoutConfirmation => exact ⟨.confirmPayout id, rfl, trivial⟩
  | awaitCounterparty => exact False.elim (active rfl)
  | dismiss => exact False.elim (unfinished rfl)

/-- What is resolved for one is resolved for everyone. -/
theorem Contract.resolved_for_all {lookup : Lookup} {contract : Contract} {viewer : PlayerId}
    (resolved : contract.status lookup viewer = .resolved) (other : PlayerId) :
    contract.status lookup other = .resolved := by
  obtain ⟨funded, payout, found, seen⟩ := Contract.status_eq_iff.mp resolved
  have confirmed : payout.transaction = .confirmed := Payout.status_eq_iff.mp seen
  exact Contract.status_eq_iff.mpr ⟨funded, payout, found, Payout.status_eq_iff.mpr confirmed⟩

namespace Ledger.Sound

variable {ledger : Ledger} {id : ContractId} {contract : Contract} {viewer : PlayerId}

theorem withSelected (sound : ledger.Sound) {player : Player}
    (known : ledger.player? viewer = some player) :
    (ledger.withSelected (some viewer)).Sound :=
  sound.of_same (sound.wellFormed.select (if_pos (Directory.contains_iff.mpr ⟨player, known⟩)))
    rfl rfl

/-- There is no payout on what a party sees live. -/
theorem unpaid_of_live (sound : ledger.Sound) (stored : ledger.contract? id = some contract)
    {seat : Seat} (live : contract.status ledger.lookup (contract.player seat) = .live) :
    ledger.payout? id = none := by
  refine Option.eq_none_iff_forall_ne_some.mpr fun payout paid => ?_
  have keyed := sound.wellFormed.contract_keyed stored
  have parent : ledger.lookup.contract payout.contract = some contract :=
    (sound.wellFormed.payout_keyed paid).symm ▸ stored
  have invalid := (Contract.status_eq_iff.mp live).2 payout (keyed.symm ▸ paid)
  exact (sound.payout paid stored).status_ne_invalid (sound.contract stored) parent seat invalid

theorem due (sound : ledger.Sound) (stored : ledger.contract? id = some contract)
    {player : Player} (known : ledger.player? (contract.player .one) = some player) :
    (∀ viewer, contract.status ledger.lookup viewer = .resolved) ∨
      ∃ seat operation, Operation.furthers operation = some id ∧
        (contract.status ledger.lookup (contract.player seat)).nextAction.Names contract.amount
          operation := by
  have whole := sound.contract stored
  generalize seen : contract.status ledger.lookup (contract.player .one) = status
  by_cases waits : status.nextAction = .awaitCounterparty
  · right
    have sees : (ledger.withSelected (some (contract.player .one))).Sees id (contract.player .one)
        contract status := ⟨rfl, stored, Contract.status_eq_iff.mp seen⟩
    have answered : contract.status ledger.lookup (contract.player .two) = .received ∨
        contract.status ledger.lookup (contract.player .two) = .payoutReceived :=
      ((sound.withSelected known).answer_of_await (whole.seatOf_player .one) sees waits).imp
        And.right And.right
    rcases answered with received | received
    · exact ⟨.two, .signContract id ⟨""⟩, rfl, by rw [received]; trivial⟩
    · exact ⟨.two, .signPayout id (.password ⟨""⟩), rfl, by rw [received]; trivial⟩
  · by_cases done : status.nextAction = .dismiss
    · left
      have terminal := (ContractStatus.isTerminal_iff_nextAction status).mpr done
      have valid : status ≠ .invalid := seen ▸ whole.status_ne_invalid ledger.lookup _
      have resolved : status = .resolved := by
        cases status <;> first | rfl | exact False.elim (valid rfl) | cases terminal
      exact Contract.resolved_for_all (seen.trans resolved)
    · right
      obtain ⟨operation, further, named⟩ :=
        ContractAction.exists_names id contract.amount waits done
      exact ⟨.one, operation, further, by rwa [seen]⟩

end Ledger.Sound

end ArbitratedEscrow
