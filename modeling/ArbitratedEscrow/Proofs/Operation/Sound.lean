import ArbitratedEscrow.Proofs.Archive.RoundTrip
import ArbitratedEscrow.Proofs.Lifecycle.Sound
import ArbitratedEscrow.Proofs.Operation.Effect

/-!
# Moves keep a ledger sound

In a sound ledger every contract is sound and every payout authorised by its
contract. A payout stands on a contract that no patch can apply to any more, and
it is only removed together with it: so contract and payout never come apart.
A new contract must not replace another one.
-/

namespace ArbitratedEscrow

structure Ledger.Sound (ledger : Ledger) : Prop where
  wellFormed : ledger.WellFormed
  contract : ∀ {id contract}, ledger.contract? id = some contract → contract.Sound
  payout : ∀ {id payout contract}, ledger.payout? id = some payout →
    ledger.contract? id = some contract → payout.Authorised contract

namespace Ledger

variable {ledger after : Ledger}

theorem sound_empty : empty.Sound where
  wellFormed := wellFormed_empty
  contract stored := by cases stored
  payout stored := by cases stored

namespace Sound

/-- Players do not count. -/
theorem of_same (sound : ledger.Sound) (wellFormed : after.WellFormed)
    (contracts : after.contracts = ledger.contracts) (payouts : after.payouts = ledger.payouts) :
    after.Sound where
  wellFormed := wellFormed
  contract {id found} stored := by
    rw [contract?, contracts] at stored
    exact sound.contract stored
  payout {id found parent} stored backed := by
    rw [payout?, payouts] at stored
    rw [contract?, contracts] at backed
    exact sound.payout stored backed

theorem addContract (sound : ledger.Sound) {contract : Contract} (added : contract.Sound)
    (unpaid : ledger.payout? contract.id = none) : (ledger.addContract contract).Sound where
  wellFormed := sound.wellFormed.addContract contract
  contract {id found} stored := by
    rw [contract?_addContract] at stored
    split at stored
    · cases stored
      exact added
    · exact sound.contract stored
  payout {id found parent} stored backed := by
    have before : ledger.payout? id = some found := stored
    rw [contract?_addContract] at backed
    split at backed
    · rename_i same
      rw [← same, unpaid] at before
      cases before
    · exact sound.payout before backed

theorem removeContract (sound : ledger.Sound) (removed : ContractId) :
    (ledger.removeContract removed).Sound where
  wellFormed := sound.wellFormed.removeContract removed
  contract {id found} stored := by
    rw [contract?_removeContract] at stored
    split at stored
    · cases stored
    · exact sound.contract stored
  payout {id found parent} stored backed := by
    rw [payout?_removeContract] at stored
    rw [contract?_removeContract] at backed
    split at stored
    · cases stored
    · rename_i different
      rw [if_neg different] at backed
      exact sound.payout stored backed

theorem withPayout (sound : ledger.Sound) {payout : Payout} {contract : Contract}
    (backed : ledger.contract? payout.contract = some contract)
    (authorised : payout.Authorised contract) : (ledger.withPayout payout).Sound where
  wellFormed := sound.wellFormed.withPayout backed
  contract := sound.contract
  payout {id found parent} stored under := by
    rw [payout?_withPayout] at stored
    split at stored
    · rename_i same
      cases stored
      cases backed.symm.trans (same ▸ under)
      exact authorised
    · exact sound.payout stored under

theorem removePayout (sound : ledger.Sound) (removed : ContractId) :
    (ledger.removePayout removed).Sound where
  wellFormed := sound.wellFormed.removePayout removed
  contract := sound.contract
  payout {id found parent} stored backed := by
    rw [payout?_removePayout] at stored
    split at stored
    · cases stored
    · exact sound.payout stored backed

/-- Seconds do not count either. -/
theorem wholeSeconds (sound : ledger.Sound) : ledger.wholeSeconds.Sound where
  wellFormed := sound.wellFormed.wholeSeconds
  contract {id found} stored := by
    rw [contract?_wholeSeconds] at stored
    obtain ⟨contract, original, rfl⟩ := Option.map_eq_some_iff.mp stored
    have whole := sound.contract original
    exact ⟨whole.different, whole.positive, whole.players_first, whole.complete_first⟩
  payout {id found parent} stored backed := by
    rw [payout?_wholeSeconds] at stored
    rw [contract?_wholeSeconds] at backed
    obtain ⟨payout, original, rfl⟩ := Option.map_eq_some_iff.mp stored
    obtain ⟨contract, beneath, rfl⟩ := Option.map_eq_some_iff.mp backed
    have whole := sound.payout original beneath
    exact ⟨whole.funded, whole.split, whole.not_all, whole.arbitrated, whole.two_signed⟩

/-- There is no payout on a contract that is not funded. -/
theorem payout?_of_not_funded (sound : ledger.Sound) {id : ContractId} {contract : Contract}
    (stored : ledger.contract? id = some contract) (unfunded : ¬ contract.Funded) :
    ledger.payout? id = none :=
  Option.eq_none_iff_forall_ne_some.mpr fun _ paid => unfunded (sound.payout paid stored).funded

theorem payout?_of_not_stored (sound : ledger.Sound) {id : ContractId}
    (unstored : ledger.contract? id = none) : ledger.payout? id = none := by
  refine Option.eq_none_iff_forall_ne_some.mpr fun payout paid => ?_
  obtain ⟨contract, stored⟩ := sound.wellFormed.payout_backed paid
  rw [unstored] at stored
  cases stored

/-- Whoever is selected sees a contract with a payout where the payout is. -/
theorem theStatus_withSelected (sound : ledger.Sound) {id : ContractId} {contract : Contract}
    {payout : Payout} (stored : ledger.contract? id = some contract)
    (paid : ledger.payout? id = some payout) (selected : Option PlayerId) :
    (ledger.withSelected selected).theStatus id =
      ((ledger.withSelected selected).thePayoutStatus id).map ContractStatus.ofPayout := by
  have keyed := sound.wellFormed.contract_keyed stored
  have found : ledger.lookup.payout contract.id = some payout := keyed.symm ▸ paid
  have theContract : (ledger.withSelected selected).theContract id = .ok contract :=
    theContract_eq_ok.mpr stored
  have thePayout : (ledger.withSelected selected).thePayout id = .ok payout :=
    thePayout_eq_ok.mpr paid
  cases selected with
  | none => rfl
  | some viewer =>
    have seen : contract.status ledger.lookup viewer =
        .ofPayout (payout.status ledger.lookup viewer) :=
      Contract.status_of_funded (sound.payout paid stored).funded found
    rw [theStatus, thePayoutStatus, theContract, thePayout]
    exact congrArg Except.ok seen

end Sound

end Ledger

namespace Operation

variable {settings : Settings} {now : Instant} {desk after : Desk} {operation : Operation}
  {answer : Answer} {request : Wallet.Request} {id : ContractId}

/-- A contract that a patch is granted for is not funded yet, and sound with the patch. -/
theorem sound_of_grants {ledger : Ledger} {patch : Contract.Patch} {contract : Contract}
    (grants : Grants settings ledger operation request (.patchContract id patch))
    (stored : ledger.contract? id = some contract) (sound : contract.Sound) :
    ¬ contract.Funded ∧ (contract.apply patch).Sound := by
  cases grants with
  | signContract sees allowed seated =>
    cases stored.symm.trans sees.stored
    obtain ⟨_, unsigned⟩ := sees.unsigned_contract allowed seated
    refine ⟨fun funded => ?_, sound.sign _ unsigned⟩
    rw [funded.1] at unsigned
    cases unsigned
  | certifyContract sees =>
    cases stored.symm.trans sees.stored
    have players : contract.signatures = ⟨true, true, false⟩ := sees.shown
    refine ⟨fun funded => ?_, sound.certify players⟩
    cases players.symm.trans funded.1
  | broadcastFunding sees =>
    cases stored.symm.trans sees.stored
    obtain ⟨complete, unbroadcast⟩ := sees.shown
    refine ⟨fun funded => ?_, sound.fund complete _⟩
    cases unbroadcast.symm.trans funded.2
  | confirmFunding sees =>
    cases stored.symm.trans sees.stored
    obtain ⟨complete, broadcast⟩ := sees.shown
    refine ⟨fun funded => ?_, sound.fund complete _⟩
    cases broadcast.symm.trans funded.2

/-- A payout that a patch is granted for is still authorised with the patch. -/
theorem authorised_of_grants {ledger : Ledger} (sound : ledger.Sound) {patch : Payout.Patch}
    {payout : Payout} {contract : Contract}
    (grants : Grants settings ledger operation request (.patchPayout id patch))
    (stored : ledger.payout? id = some payout) (backed : ledger.contract? id = some contract) :
    (payout.apply patch).Authorised contract := by
  have authorised := sound.payout stored backed
  cases grants with
  | signPayout sees allowed seated =>
    obtain ⟨_, found, same, isOpen, _, unsigned⟩ :=
      sees.unsigned_payout sound.wellFormed allowed seated
    cases stored.symm.trans same
    exact authorised.sign _ _ isOpen.1 unsigned
  | certifyPayout sees _ _ =>
    obtain ⟨_, found, same, isOpen, one, _, token⟩ := sees.tokenSigned_payout sound.wellFormed
    cases stored.symm.trans same
    exact authorised.certify isOpen.1 one token
  | broadcastPayout sees =>
    obtain ⟨_, found, same, ⟨_, quorum⟩, _⟩ := sees.payout sound.wellFormed sees.shown
    cases stored.symm.trans same
    exact authorised.send quorum _
  | confirmPayout sees =>
    obtain ⟨_, found, same, broadcast, _⟩ := sees.payout sound.wellFormed sees.shown
    cases stored.symm.trans same
    have broadcast : payout.transaction = .broadcast := broadcast
    exact authorised.send (authorised.quorum_of_out (by rw [broadcast]; rintro ⟨⟩)) _

theorem Move.sound (sound : desk.ledger.Sound)
    (move : Move settings now desk operation answer after)
    (unstored : ∀ {id}, operation.filed? answer = some id → desk.ledger.contract? id = none) :
    after.ledger.Sound := by
  have wellFormed := move.wellFormed sound.wellFormed
  cases move with
  | settle settles => cases settles <;> exact sound.of_same wellFormed rfl rfl
  | claim | register | add | removePlayer => exact sound.of_same wellFormed rfl rfl
  | file different positive =>
    exact sound.addContract (.new different positive _ _ now)
      (sound.payout?_of_not_stored (unstored rfl))
  | patchContract grants stored =>
    obtain ⟨unfunded, patched⟩ := sound_of_grants grants stored (sound.contract stored)
    have keyed := sound.wellFormed.contract_keyed stored
    have unpaid := sound.payout?_of_not_funded stored unfunded
    exact sound.addContract patched (keyed ▸ unpaid)
  | removeContract => exact sound.removeContract _
  | filePayout sees split => exact sound.withPayout sees.stored (.new sees.shown.1 split now)
  | patchPayout grants stored =>
    obtain ⟨contract, backed⟩ := sound.wellFormed.payout_backed stored
    have keyed := sound.wellFormed.payout_keyed stored
    exact sound.withPayout (keyed.symm ▸ backed) (authorised_of_grants sound grants stored backed)
  | removePayout => exact sound.removePayout _

end Operation

end ArbitratedEscrow
