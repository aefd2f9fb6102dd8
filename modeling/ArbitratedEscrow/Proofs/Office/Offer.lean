import ArbitratedEscrow.Proofs.Office.Sound
import ArbitratedEscrow.Proofs.Operation.Offer

/-!
# Offers are good

Wherever a run leads, a party can take those steps of a contract's life that are
open in the status which the party sees, and no others; what the next action
names can be done at once. A party that is told to wait can hand over to the
other one, who then has something to do.
-/

namespace ArbitratedEscrow.Office

variable {settings : Settings} {σ : Type}
  {call : Wallet.Request → σ → Except EscrowError String × σ} {wallet : σ} {now : Instant}
  {desk : Desk} {id : ContractId} {contract : Contract} {viewer : PlayerId} {seat : Seat}

theorem run_select {chosen : PlayerId} {player : Player}
    (known : desk.ledger.player? chosen = some player) :
    (Operation.select chosen).run call settings now wallet desk =
      (.ok .done, wallet, desk.withLedger (desk.ledger.withSelected (some chosen))) := by
  have selects : desk.ledger.select chosen = .ok (desk.ledger.withSelected (some chosen)) :=
    if_pos (Directory.contains_iff.mpr ⟨player, known⟩)
  rw [Operation.run, Operation.check, selects]
  rfl

/-- A party, once selected, can do what is then due. -/
theorem succeeds_after_select (sound : desk.ledger.Sound) {other : PlayerId}
    (stored : desk.ledger.contract? id = some contract)
    (seated : contract.seatOf other = some seat) {player : Player}
    (known : desk.ledger.player? other = some player) :
    let answered := contract.status desk.ledger.lookup other
    let handed := desk.withLedger (desk.ledger.withSelected (some other))
    handed.ledger.theStatus id = .ok answered ∧
      ∀ operation : Operation, operation.actsOn = some id → operation.AcceptedBy call wallet →
        answered.nextAction.Names contract.amount operation →
          operation.Succeeds call settings now wallet handed := by
  intro answered handed
  have wellFormed : handed.ledger.WellFormed :=
    sound.wellFormed.select (if_pos (Directory.contains_iff.mpr ⟨player, known⟩))
  have there : handed.ledger.Sees id other contract answered :=
    ⟨rfl, stored, Contract.status_eq_iff.mp rfl⟩
  refine ⟨Ledger.theStatus_eq_ok.mpr ⟨_, _, there⟩, ?_⟩
  intro operation acts accepted named
  exact Operation.succeeds_of_names wellFormed there seated acts accepted named

/--
For a party to a contract, of the guarded steps on it exactly the open ones
succeed with a wallet that accepts them, and so does each step that the next
action names. If that is to wait, then the other party can be selected, if known,
has been left something to answer, and can do so.
-/
theorem offers_acceptable (settings : Settings) (ids : IdSource) (events : List Event)
    (fresh : Fresh (history settings (opening ids) events)) {id : ContractId}
    {contract : Contract} {viewer : PlayerId} {seat : Seat}
    (stored : (ledgerAfter settings ids events).contract? id = some contract)
    (selected : (ledgerAfter settings ids events).selected = some viewer)
    (seated : contract.seatOf viewer = some seat) {σ : Type}
    (call : Wallet.Request → σ → Except EscrowError String × σ) (wallet : σ) (now : Instant) :
    let ledger := ledgerAfter settings ids events
    let desk := (after settings (opening ids) events).desk
    let other := contract.player seat.other
    ∃ status, ledger.theStatus id = .ok status ∧
      (∀ operation : Operation, operation.guardedContract = some id →
        operation.AcceptedBy call wallet →
          (operation.Succeeds call settings now wallet desk ↔
            operation.OpenIn contract.amount status)) ∧
      (∀ operation : Operation, operation.actsOn = some id → operation.AcceptedBy call wallet →
        status.nextAction.Names contract.amount operation →
          operation.Succeeds call settings now wallet desk) ∧
      (status.nextAction = .awaitCounterparty →
        let answered := contract.status ledger.lookup other
        ((status = .signed ∧ answered = .received) ∨
          (status = .payoutSigned ∧ answered = .payoutReceived)) ∧
        ∀ player, ledger.player? other = some player →
          let handed := desk.withLedger (ledger.withSelected (some other))
          (Operation.select other).run call settings now wallet desk =
              (.ok .done, wallet, handed) ∧
            handed.ledger.theStatus id = .ok answered ∧
            ∀ operation : Operation, operation.actsOn = some id →
              operation.AcceptedBy call wallet →
                answered.nextAction.Names contract.amount operation →
                  operation.Succeeds call settings now wallet handed) := by
  intro ledger desk other
  have sound : ledger.Sound := (holds_sound settings ids events fresh).here
  have sees : ledger.Sees id viewer contract (contract.status ledger.lookup viewer) :=
    ⟨selected, stored, Contract.status_eq_iff.mp rfl⟩
  refine ⟨_, Ledger.theStatus_eq_ok.mpr ⟨_, _, sees⟩, ?_, ?_, ?_⟩
  · intro operation guarded accepted
    exact Operation.succeeds_iff_openIn sound.wellFormed sees seated guarded accepted
  · intro operation acts accepted named
    exact Operation.succeeds_of_names sound.wellFormed sees seated acts accepted named
  · intro waits
    refine ⟨sound.answer_of_await seated sees waits, fun player known => ?_⟩
    have across := (sound.contract stored).seatOf_player seat.other
    exact ⟨run_select known, succeeds_after_select sound stored across known⟩

def willing : Wallet.Request → Unit → Except EscrowError String × Unit :=
  always (.ok (Wallet.Reply.accepted none).text)

theorem acceptedBy_willing (operation : Operation) : operation.AcceptedBy willing () :=
  fun _ => ⟨Wallet.Reply.accepted none, rfl⟩

def halfSigned : List Event := wager.take 5

theorem stored_halfSigned :
    let ledger := ledgerAfter (.forNetwork .regtest) wagerIds halfSigned
    Fresh (history (.forNetwork .regtest) (opening wagerIds) halfSigned) ∧
      ledger.contract? wagerId =
        some ⟨wagerId, ⟨(wagerIds.nth 0).text⟩, ⟨(wagerIds.nth 1).text⟩, 100, "a wager",
          ⟨true, false, false⟩, .unbroadcast, .epoch⟩ ∧
      ledger.selected = some ⟨(wagerIds.nth 0).text⟩ ∧
      ledger.player? ⟨(wagerIds.nth 1).text⟩ =
        some (Player.new "bob" false (wagerIds.nth 1)) ∧
      ledger.theStatus wagerId = .ok .signed := by
  decide +kernel

/-- Alice has signed the wager and has to wait; Bob can decline it as soon as he is selected. -/
theorem offers_acceptable_wager :
    let ledger := ledgerAfter (.forNetwork .regtest) wagerIds halfSigned
    let desk := (after (.forNetwork .regtest) (opening wagerIds) halfSigned).desk
    ledger.theStatus wagerId = .ok .signed ∧
      ¬ (Operation.declineContract wagerId).Succeeds willing (.forNetwork .regtest) .epoch ()
        desk ∧
      (Operation.declineContract wagerId).Succeeds willing (.forNetwork .regtest) .epoch ()
        (desk.withLedger (ledger.withSelected (some ⟨(wagerIds.nth 1).text⟩))) := by
  intro ledger desk
  obtain ⟨fresh, stored, selected, known, signed⟩ := stored_halfSigned
  have seated : Contract.seatOf ⟨wagerId, ⟨(wagerIds.nth 0).text⟩, ⟨(wagerIds.nth 1).text⟩, 100,
      "a wager", ⟨true, false, false⟩, .unbroadcast, .epoch⟩ ⟨(wagerIds.nth 0).text⟩ =
      some Seat.one := if_pos rfl
  obtain ⟨status, told, opens, _, hands⟩ := offers_acceptable (.forNetwork .regtest) wagerIds
    halfSigned fresh stored selected seated willing () .epoch
  cases signed.symm.trans told
  obtain ⟨answer, handed⟩ := hands rfl
  obtain ⟨_, _, answers⟩ := handed _ known
  refine ⟨signed, fun declined => ?_, ?_⟩
  · cases (opens _ rfl (acceptedBy_willing _)).mp declined
  · rcases answer with ⟨_, received⟩ | ⟨impossible, _⟩
    · rw [received] at answers
      exact answers _ rfl (acceptedBy_willing _) trivial
    · cases impossible

end ArbitratedEscrow.Office
