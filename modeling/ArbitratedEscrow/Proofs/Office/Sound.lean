import ArbitratedEscrow.Proofs.Office.Invariant
import ArbitratedEscrow.Proofs.Operation.Sound

/-!
# Runs keep the ledger sound

Whatever happens to an office, in whatever order and whoever is selected, its
ledger stays sound as long as no contract is filed in another one's place.
So no payout goes out without two signatures on a split of the whole pot, and
the two ways to tell where a funded contract stands agree.
-/

namespace ArbitratedEscrow.Office

variable (settings : Settings) (ids : IdSource) (events : List Event)

theorem holds_sound (fresh : Fresh (history settings (opening ids) events)) :
    (after settings (opening ids) events).Holds Ledger.Sound := by
  induction events using List.reverseRecOn with
  | nil => exact holds_opening ids Ledger.sound_empty
  | append_singleton events event ih =>
    have before := ih (fresh_of_concat fresh)
    rw [after_concat]
    refine before.turn Ledger.Sound.wholeSeconds ?_ (turn_after settings ids events event)
    intro operation now outcome answer desk operated succeeded move
    refine move.sound before.here fun files => unstored_of_fresh fresh ?_
    exact (Entry.filed?_eq operated succeeded).trans files

/-- A payout stands on a funded contract, shares out its pot, and is sent by two signatures. -/
theorem payout_authorised (fresh : Fresh (history settings (opening ids) events))
    {id : ContractId} {payout : Payout}
    (paid : (ledgerAfter settings ids events).payout? id = some payout) :
    payout.contract = id ∧ ∃ contract,
      (ledgerAfter settings ids events).contract? id = some contract ∧
        payout.Authorised contract := by
  have sound := (holds_sound settings ids events fresh).here
  obtain ⟨contract, stored⟩ := sound.wellFormed.payout_backed paid
  exact ⟨sound.wellFormed.payout_keyed paid, contract, stored, sound.payout paid stored⟩

theorem payout_authorised_wager :
    ∃ payout, (ledgerAfter (.forNetwork .regtest) wagerIds wager).payout? wagerId = some payout ∧
      payout.transaction = .broadcast ∧ ∃ contract, payout.Authorised contract := by
  obtain ⟨_, contract, _, authorised⟩ :=
    payout_authorised (.forNetwork .regtest) wagerIds wager fresh_wager stored_wager.2
  exact ⟨_, stored_wager.2, rfl, contract, authorised⟩

/--
Contracts reach sound states only, which nobody sees as invalid. Their payouts
stand on confirmed funding, no party sees one as invalid, and whoever is
selected sees the contract where the payout is.
-/
theorem contract_sound (fresh : Fresh (history settings (opening ids) events))
    {id : ContractId} {contract : Contract}
    (stored : (ledgerAfter settings ids events).contract? id = some contract) :
    contract.Sound ∧
      (∀ viewer, contract.status (ledgerAfter settings ids events).lookup viewer ≠ .invalid) ∧
      ∀ payout, (ledgerAfter settings ids events).payout? id = some payout →
        contract.funding = .confirmed ∧
          (∀ seat, payout.status (ledgerAfter settings ids events).lookup (contract.player seat) ≠
            .invalid) ∧
          ∀ selected, ((ledgerAfter settings ids events).withSelected selected).theStatus id =
            (((ledgerAfter settings ids events).withSelected selected).thePayoutStatus id).map
              ContractStatus.ofPayout := by
  have sound : (ledgerAfter settings ids events).Sound :=
    (holds_sound settings ids events fresh).here
  have whole := sound.contract stored
  refine ⟨whole, whole.status_ne_invalid _, fun payout paid => ?_⟩
  have authorised := sound.payout paid stored
  have keyed := sound.wellFormed.payout_keyed paid
  exact ⟨authorised.funded.2, authorised.status_ne_invalid whole (keyed.symm ▸ stored),
    sound.theStatus_withSelected stored paid⟩

theorem contract_sound_wager :
    ∃ contract, (ledgerAfter (.forNetwork .regtest) wagerIds wager).contract? wagerId =
        some contract ∧ contract.Sound ∧ contract.funding = .confirmed := by
  obtain ⟨sound, _, payouts⟩ :=
    contract_sound (.forNetwork .regtest) wagerIds wager fresh_wager stored_wager.1
  exact ⟨_, stored_wager.1, sound, (payouts _ stored_wager.2).1⟩

end ArbitratedEscrow.Office
