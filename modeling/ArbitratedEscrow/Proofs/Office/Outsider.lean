import ArbitratedEscrow.Proofs.Office.Offer

/-!
# What can be undone, and by whom

Two steps of a contract's life are refusals, and a proposal replaces a payout
that is in its way. Their guards are statuses, and a player without a seat has a
status too. For parties the guards do what they are there for: a party refuses
only what the party has not signed, and a party's proposal replaces nothing. An
outsider can decline a contract that one player has signed, deny a payout that
nobody has signed, and replace one that one player has signed.

None of this asks for fresh identifiers.
-/

namespace ArbitratedEscrow

namespace Payout

/-- The arbiter has not signed alone. -/
def Countersigned (payout : Payout) : Prop :=
  payout.signatures.arbiter = true → payout.signatures.playerCount ≠ 0

theorem countersigned_sign (payout : Payout) (seat : Seat) (withToken : Option Bool) :
    (payout.apply { Payout.Patch.sign seat with withToken }).Countersigned := by
  intro _ uncounted
  cases seat <;> simp [apply, Patch.sign, Signatures.playerCount] at uncounted

variable {lookup : Lookup} {payout : Payout} {viewer : PlayerId}

theorem Countersigned.blank_of_uncounted (countersigned : payout.Countersigned)
    (uncounted : payout.signatures.playerCount = 0) : payout.signatures = .blank := by
  have arbiter : payout.signatures.arbiter = false :=
    Bool.eq_false_iff.mpr fun signed => countersigned signed uncounted
  revert uncounted arbiter
  generalize payout.signatures = signatures
  obtain ⟨one, two, arbiter⟩ := signatures
  cases one <;> cases two <;> cases arbiter <;> decide

/-- A party can tell where such a payout stands. -/
theorem Countersigned.not_invalid (countersigned : payout.Countersigned) {contract : Contract}
    (parent : lookup.contract payout.contract = some contract)
    (different : contract.playerOne ≠ contract.playerTwo) {seat : Seat}
    (seated : contract.seatOf viewer = some seat) : ¬ payout.Shows lookup viewer .invalid := by
  intro invalid
  obtain ⟨own, others⟩ := unsigned_of_invalid parent different seated invalid
  obtain ⟨_, _, _, marked⟩ := invalid
  exact marked (countersigned.blank_of_uncounted
    (Signatures.playerCount_of_unsigned own others))

/-- What nobody can tell anything about has one signature, by a player. -/
theorem Countersigned.alone_of_invalid (countersigned : payout.Countersigned)
    (invalid : payout.Shows lookup viewer .invalid) :
    payout.transaction = .unbroadcast ∧ payout.signatures.arbiter = false ∧
      payout.signatures.playerCount = 1 := by
  obtain ⟨⟨inside, short⟩, _, _, marked⟩ := invalid
  have counted : payout.signatures.playerCount ≠ 0 := fun uncounted =>
    marked (countersigned.blank_of_uncounted uncounted)
  refine ⟨inside, ?_⟩
  clear countersigned marked
  revert short counted
  generalize payout.signatures = signatures
  obtain ⟨one, two, arbiter⟩ := signatures
  cases one <;> cases two <;> cases arbiter <;> decide

end Payout

namespace Operation

variable {settings : Settings} {now : Instant} {desk after : Desk} {operation : Operation}
  {answer : Answer}

theorem countersigned_of_grants {ledger : Ledger} {request : Wallet.Request} {id : ContractId}
    {patch : Payout.Patch} {payout : Payout} (wellFormed : ledger.WellFormed)
    (grants : Grants settings ledger operation request (.patchPayout id patch))
    (stored : ledger.payout? id = some payout) (countersigned : payout.Countersigned) :
    (payout.apply patch).Countersigned := by
  cases grants with
  | signPayout => exact payout.countersigned_sign _ _
  | certifyPayout sees =>
    obtain ⟨_, found, same, _, one, _⟩ := sees.tokenSigned_payout wellFormed
    cases stored.symm.trans same
    intro _ uncounted
    have uncounted : payout.signatures.playerCount = 0 := uncounted
    rw [one] at uncounted
    cases uncounted
  | broadcastPayout | confirmPayout => exact countersigned

/-- The parties of a contract differ when it is filed, and no patch changes them. -/
theorem Move.different
    (different : ∀ id contract, desk.ledger.contract? id = some contract →
      contract.playerOne ≠ contract.playerTwo)
    (move : Move settings now desk operation answer after) (id : ContractId) (contract : Contract)
    (stored : after.ledger.contract? id = some contract) :
    contract.playerOne ≠ contract.playerTwo := by
  cases move with
  | settle settles => cases settles <;> exact different id contract stored
  | claim | register | add | removePlayer | filePayout | patchPayout | removePayout =>
    exact different id contract stored
  | file apart =>
    rw [Desk.file, Ledger.contract?_addContract] at stored
    split at stored
    · cases stored
      exact apart
    · exact different id contract stored
  | patchContract _ before =>
    rw [Desk.withLedger, Ledger.contract?_addContract] at stored
    split at stored
    · cases stored
      have apart := different _ _ before
      exact apart
    · exact different id contract stored
  | removeContract =>
    rw [Desk.withLedger, Ledger.contract?_removeContract] at stored
    split at stored
    · cases stored
    · exact different id contract stored

end Operation

namespace Office

variable (settings : Settings) (ids : IdSource) (events : List Event)

theorem holds_countersigned :
    (after settings (opening ids) events).Holds fun ledger => ∀ id payout,
      ledger.payout? id = some payout → payout.Countersigned := by
  induction events using List.reverseRecOn with
  | nil => exact holds_opening ids fun _ _ paid => by cases paid
  | append_singleton events event ih =>
    have wellFormed := (holds_wellFormed settings ids events).here
    rw [after_concat]
    refine ih.turn ?_ ?_ (turn_after settings ids events event)
    · intro ledger countersigned id payout paid
      rw [Ledger.payout?_wholeSeconds] at paid
      obtain ⟨whole, stored, rfl⟩ := Option.map_eq_some_iff.mp paid
      have before := countersigned id whole stored
      exact before
    · intro operation now outcome answer desk _ _ move id payout paid
      cases Operation.onPayout_of_move wellFormed move paid with
      | left before => exact ih.here id payout before
      | patched grants before =>
        exact Operation.countersigned_of_grants wellFormed grants before (ih.here id _ before)
      | filed =>
        intro signed
        cases signed

theorem holds_different :
    (after settings (opening ids) events).Holds fun ledger => ∀ id contract,
      ledger.contract? id = some contract → contract.playerOne ≠ contract.playerTwo := by
  induction events using List.reverseRecOn with
  | nil => exact holds_opening ids fun _ _ stored => by cases stored
  | append_singleton events event ih =>
    rw [after_concat]
    refine ih.turn ?_ (fun _ _ move => move.different ih.here)
      (turn_after settings ids events event)
    intro ledger different id contract stored
    rw [Ledger.contract?_wholeSeconds] at stored
    obtain ⟨whole, before, rfl⟩ := Option.map_eq_some_iff.mp stored
    have apart := different id whole before
    exact apart

variable {σ : Type} (call : Wallet.Request → σ → Except EscrowError String × σ) (wallet : σ)
  (now : Instant)

/--
A party's proposal succeeds only where there is no payout. Where one is replaced,
it has been signed by one player and nobody else, and whoever replaces it has no
seat at the contract.
-/
theorem proposal_replaces (id : ContractId) (one two : Amount)
    (proposed : (Operation.proposePayout id one two).Succeeds call settings now wallet
      (after settings (opening ids) events).desk) :
    let ledger := ledgerAfter settings ids events
    ∃ viewer contract, ledger.selected = some viewer ∧ ledger.contract? id = some contract ∧
      (∀ seat, contract.seatOf viewer = some seat → ledger.payout? id = none) ∧
      ∀ payout, ledger.payout? id = some payout →
        payout.transaction = .unbroadcast ∧ payout.signatures.arbiter = false ∧
          payout.signatures.playerCount = 1 := by
  intro ledger
  have wellFormed : ledger.WellFormed := (holds_wellFormed settings ids events).here
  have countersigned : ∀ id payout, ledger.payout? id = some payout → payout.Countersigned :=
    (holds_countersigned settings ids events).here
  obtain ⟨_, _, grants⟩ :=
    Operation.grants_of_succeeds wellFormed rfl (by rintro _ ⟨⟩) proposed
  cases grants with
  | @proposePayout _ _ _ viewer contract sees _ =>
    have invalid : ∀ payout, ledger.payout? id = some payout →
        payout.Shows ledger.lookup viewer .invalid := by
      intro payout paid
      have found : ledger.lookup.payout contract.id = some payout :=
        (wellFormed.contract_keyed sees.stored).symm ▸ paid
      exact Payout.status_eq_iff.mp (sees.shown.2 payout found)
    refine ⟨viewer, contract, sees.selected, sees.stored, fun seat seated => ?_,
      fun payout paid => (countersigned id payout paid).alone_of_invalid (invalid payout paid)⟩
    refine Option.eq_none_iff_forall_ne_some.mpr fun payout paid => ?_
    have parent : ledger.lookup.contract payout.contract = some contract :=
      (wellFormed.payout_keyed paid).symm ▸ sees.stored
    exact (countersigned id payout paid).not_invalid parent
      ((holds_different settings ids events).here id contract sees.stored) seated
      (invalid payout paid)

/-! ### The wager and Carol -/

def funded : List Event := wager.take 10

/-- Bob can propose a payout of the wager, and there was none. -/
theorem proposal_replaces_wager :
    (Operation.proposePayout wagerId 60 40).Succeeds willing (.forNetwork .regtest) .epoch ()
        (after (.forNetwork .regtest) (opening wagerIds) funded).desk ∧
      (ledgerAfter (.forNetwork .regtest) wagerIds funded).payout? wagerId = none := by
  have there : (ledgerAfter (.forNetwork .regtest) wagerIds funded).selected =
        some ⟨(wagerIds.nth 1).text⟩ ∧
      (ledgerAfter (.forNetwork .regtest) wagerIds funded).contract? wagerId =
        some ⟨wagerId, ⟨(wagerIds.nth 0).text⟩, ⟨(wagerIds.nth 1).text⟩, 100, "a wager",
          ⟨true, true, true⟩, .confirmed, .epoch⟩ ∧
      ((Operation.proposePayout wagerId 60 40).run willing (.forNetwork .regtest) .epoch ()
        (after (.forNetwork .regtest) (opening wagerIds) funded).desk).1 =
          .ok (.payout (Payout.new wagerId 60 40 .epoch)) := by
    decide +kernel
  have proposed : (Operation.proposePayout wagerId 60 40).Succeeds willing (.forNetwork .regtest)
      .epoch () (after (.forNetwork .regtest) (opening wagerIds) funded).desk := ⟨_, there.2.2⟩
  obtain ⟨viewer, contract, selected, stored, party, _⟩ :=
    proposal_replaces (.forNetwork .regtest) wagerIds funded willing () .epoch wagerId 60 40 proposed
  obtain rfl := Option.some.inj (there.1.symm.trans selected)
  obtain rfl := Option.some.inj (there.2.1.symm.trans stored)
  exact ⟨proposed, party .two (by decide +kernel)⟩

/-- Carol joins, who has no seat at the wager, and is selected. -/
def intrusion : List Event :=
  [.operation (.addPlayer "carol") .epoch (.ok (Wallet.Reply.accepted none).text),
    .operation (.select ⟨(wagerIds.nth 3).text⟩) .epoch (.error .storage)]

def intruded : List Event := wager.take 12 ++ intrusion

/-- Carol's proposal goes through, and the payout that Bob has signed is gone. -/
theorem signed_payout_replaced :
    let desk := (after (.forNetwork .regtest) (opening wagerIds) intruded).desk
    let ran := (Operation.proposePayout wagerId 50 50).run willing (.forNetwork .regtest) .epoch ()
      desk
    desk.ledger.payout? wagerId =
        some ⟨wagerId, 60, 40, ⟨false, true, false⟩, true, .unbroadcast, .epoch⟩ ∧
      ran.1 = .ok (.payout (Payout.new wagerId 50 50 .epoch)) ∧
      ran.2.2.ledger.payout? wagerId = some (Payout.new wagerId 50 50 .epoch) := by
  decide +kernel

/-! ### Refusals -/

/--
A party that declines a contract has not signed it, and the other party has. A
party that denies a payout has not signed it. Someone without a seat gets no further than
to decline what one player has signed, and to deny what nobody has.
-/
theorem refusal_by_party (id : ContractId) :
    let ledger := ledgerAfter settings ids events
    let desk := (after settings (opening ids) events).desk
    ((Operation.declineContract id).Succeeds call settings now wallet desk →
      ∃ viewer contract, ledger.selected = some viewer ∧ ledger.contract? id = some contract ∧
        contract.HalfSigned ∧
        ∀ seat, contract.seatOf viewer = some seat →
          contract.signatures.of seat = false ∧ contract.signatures.of seat.other = true) ∧
    ((Operation.denyPayout id).Succeeds call settings now wallet desk →
      ∃ viewer contract payout, ledger.selected = some viewer ∧
        ledger.contract? id = some contract ∧ ledger.payout? id = some payout ∧ payout.Open ∧
        (∀ seat, contract.seatOf viewer = some seat → payout.signatures.of seat = false) ∧
        (contract.seatOf viewer = none → payout.signatures = .blank)) := by
  intro ledger desk
  have wellFormed : ledger.WellFormed := (holds_wellFormed settings ids events).here
  constructor
  · intro declined
    obtain ⟨_, _, grants⟩ :=
      Operation.grants_of_succeeds wellFormed rfl (by rintro _ ⟨⟩) declined
    cases grants with
    | @declineContract _ viewer contract sees =>
      obtain ⟨half, _⟩ := sees.shown
      refine ⟨viewer, contract, sees.selected, sees.stored, half, fun seat seated => ?_⟩
      have free := (sees.unsigned_contract (Or.inr rfl) seated).1
      refine ⟨free, ?_⟩
      by_contra unsigned
      have nobody : contract.signatures.playerCount = 0 :=
        Signatures.playerCount_of_unsigned free (by simpa using unsigned)
      rw [half.2] at nobody
      cases nobody
  · intro denied
    obtain ⟨_, _, grants⟩ :=
      Operation.grants_of_succeeds wellFormed rfl (by rintro _ ⟨⟩) denied
    cases grants with
    | @denyPayout _ viewer contract status sees allowed =>
      rcases allowed with rfl | rfl
      · obtain ⟨_, payout, paid, ⟨isOpen, unsigned, across⟩, parent⟩ :=
          sees.payout wellFormed sees.shown
        refine ⟨viewer, contract, payout, sees.selected, sees.stored, paid, isOpen,
          fun seat seated => ?_, fun unseated => ?_⟩
        · exact (Payout.seat_free_of_signedAcross parent seated unsigned across).1
        · simp [Payout.signedAcross, parent, Contract.counterparty, unseated] at across
      · obtain ⟨_, payout, paid, ⟨isOpen, _, _, blank⟩, _⟩ :=
          sees.payout wellFormed sees.shown
        refine ⟨viewer, contract, payout, sees.selected, sees.stored, paid, isOpen,
          fun seat _ => ?_, fun _ => blank⟩
        rw [blank]
        cases seat <;> rfl

/-- Bob can decline the wager, which he has not signed and Alice has. -/
theorem refusal_by_party_wager :
    let bob : PlayerId := ⟨(wagerIds.nth 1).text⟩
    let desk := (after (.forNetwork .regtest) (opening wagerIds) (wager.take 6)).desk
    (Operation.declineContract wagerId).Succeeds willing (.forNetwork .regtest) .epoch () desk ∧
      ∃ contract, (ledgerAfter (.forNetwork .regtest) wagerIds (wager.take 6)).contract? wagerId =
          some contract ∧
        contract.seatOf bob = some .two ∧ contract.signatures.of .two = false ∧
        contract.signatures.of .one = true := by
  intro bob desk
  have there : (ledgerAfter (.forNetwork .regtest) wagerIds (wager.take 6)).selected = some bob ∧
      (ledgerAfter (.forNetwork .regtest) wagerIds (wager.take 6)).contract? wagerId =
        some ⟨wagerId, ⟨(wagerIds.nth 0).text⟩, bob, 100, "a wager", ⟨true, false, false⟩,
          .unbroadcast, .epoch⟩ ∧
      ((Operation.declineContract wagerId).run willing (.forNetwork .regtest) .epoch () desk).1 =
        .ok .done := by
    decide +kernel
  have declined : (Operation.declineContract wagerId).Succeeds willing (.forNetwork .regtest)
      .epoch () desk := ⟨_, there.2.2⟩
  obtain ⟨viewer, contract, selected, stored, _, party⟩ :=
    (refusal_by_party (.forNetwork .regtest) wagerIds (wager.take 6) willing () .epoch wagerId).1
      declined
  obtain rfl := Option.some.inj (there.1.symm.trans selected)
  obtain rfl := Option.some.inj (there.2.1.symm.trans stored)
  have seated : Contract.seatOf ⟨wagerId, ⟨(wagerIds.nth 0).text⟩, bob, 100, "a wager",
      ⟨true, false, false⟩, .unbroadcast, .epoch⟩ bob = some .two := by
    decide +kernel
  exact ⟨declined, _, stored, seated, party .two seated⟩

/-- Carol can decline what Alice has signed, and deny a payout of the wager. -/
theorem refusal_by_outsider :
    let carol : PlayerId := ⟨(wagerIds.nth 3).text⟩
    let signed := (after (.forNetwork .regtest) (opening wagerIds) (halfSigned ++ intrusion)).desk
    let proposed :=
      (after (.forNetwork .regtest) (opening wagerIds) (wager.take 11 ++ intrusion)).desk
    (signed.ledger.selected = some carol ∧
        (signed.ledger.contract? wagerId).map (·.seatOf carol) = some none ∧
        ((Operation.declineContract wagerId).run willing (.forNetwork .regtest) .epoch ()
          signed).1 = .ok .done) ∧
      proposed.ledger.selected = some carol ∧
        (proposed.ledger.contract? wagerId).map (·.seatOf carol) = some none ∧
        ((Operation.denyPayout wagerId).run willing (.forNetwork .regtest) .epoch ()
          proposed).1 = .ok .done := by
  decide +kernel

end Office

end ArbitratedEscrow
