import ArbitratedEscrow.Proofs.Lifecycle.Locality

/-!
# What the two parties see

The two parties of a contract see it in one status, save while it waits for one of
them: the contract itself, or the payout that it has come to, is signed by one
player and nobody else. The one who has signed is told so, and the other one is
told that it is there to be signed (`Contract.parties_agree`). The payout may stand
under a contract of another identifier, as long as that one has the same parties.
-/

namespace ArbitratedEscrow

@[simp] theorem Seat.other_other (seat : Seat) : seat.other.other = seat := by
  cases seat <;> rfl

namespace Signatures

variable {signatures : Signatures}

theorem exists_alone (one : signatures.playerCount = 1) :
    ∃ seat, signatures.of seat = true ∧ signatures.of seat.other = false := by
  obtain ⟨first, second, arbiter⟩ := signatures
  cases first <;> cases second <;> cases one
  · exact ⟨.two, rfl, rfl⟩
  · exact ⟨.one, rfl, rfl⟩

theorem of_eq_false (none : signatures.playerCount = 0) (seat : Seat) :
    signatures.of seat = false := by
  obtain ⟨first, second, arbiter⟩ := signatures
  cases first <;> cases second <;> cases none
  cases seat <;> rfl

/-- Short of a quorum, a signature of a player is the only one. -/
theorem playerCount_of_not_quorum (short : ¬ signatures.Quorum)
    (shared : ¬ (signatures.arbiter = false ∧ signatures.playerCount = 1)) :
    signatures.playerCount = 0 := by
  obtain ⟨first, second, arbiter⟩ := signatures
  revert short shared
  cases first <;> cases second <;> cases arbiter <;> decide

end Signatures

/-! ### Payouts -/

namespace Payout

variable {lookup : Lookup} {contract : Contract} {payout : Payout} {seat : Seat}

/-- One player has signed, nobody else, and the transaction is not out. -/
def HalfSigned (payout : Payout) : Prop :=
  payout.transaction = .unbroadcast ∧ payout.signatures.arbiter = false ∧
    payout.signatures.playerCount = 1

theorem HalfSigned.isOpen (half : payout.HalfSigned) : payout.Open := by
  obtain ⟨unbroadcast, uncertified, one⟩ := half
  refine ⟨unbroadcast, fun quorum => ?_⟩
  rcases quorum with two | ⟨_, certified⟩
  · rw [one] at two
    cases two
  · rw [uncertified] at certified
    cases certified

/-- A party has signed a payout if the party's seat has, and likewise the party across. -/
theorem signed_of_party (different : contract.playerOne ≠ contract.playerTwo)
    (parent : (lookup.contract payout.contract).map Contract.player = some contract.player)
    (seat : Seat) :
    payout.signedByViewer lookup (contract.player seat) = payout.signatures.of seat ∧
      payout.signedAcross lookup (contract.player seat) = payout.signatures.of seat.other := by
  obtain ⟨held, found, same⟩ := Option.map_eq_some_iff.mp parent
  have held_different : held.playerOne ≠ held.playerTwo := by
    have one : held.playerOne = contract.playerOne := congrFun same .one
    have two : held.playerTwo = contract.playerTwo := congrFun same .two
    rwa [one, two]
  have seated : held.seatOf (contract.player seat) = some seat := by
    rw [Contract.seatOf_congr same]
    exact Contract.seatOf_player_of_ne different seat
  exact ⟨Signable.signedBy_payout_eq found seated, signedAcross_eq found held_different seated⟩

theorem status_of_halfSigned (different : contract.playerOne ≠ contract.playerTwo)
    (parent : (lookup.contract payout.contract).map Contract.player = some contract.player)
    (half : payout.HalfSigned) (signed : payout.signatures.of seat = true) :
    payout.status lookup (contract.player seat) =
        (if payout.withToken then .weSignedWithToken else .weSigned) ∧
      payout.status lookup (contract.player seat.other) = .theySigned := by
  have alone : payout.signatures.of seat.other = false :=
    (Signatures.alone_of_not_quorum half.isOpen.2 signed).1
  obtain ⟨own, _⟩ := signed_of_party different parent seat
  obtain ⟨others, across⟩ := signed_of_party different parent seat.other
  rw [Seat.other_other] at across
  refine ⟨?_, status_eq_iff.mpr ⟨half.isOpen, others.trans alone, across.trans signed⟩⟩
  cases token : payout.withToken with
  | true => exact status_eq_iff.mpr ⟨half.isOpen, own.trans signed, token⟩
  | false => exact status_eq_iff.mpr ⟨half.isOpen, own.trans signed, token⟩

/-- As long as neither or both have signed, or the arbiter has, it is the same to both parties. -/
theorem status_of_not_halfSigned (different : contract.playerOne ≠ contract.playerTwo)
    (parent : (lookup.contract payout.contract).map Contract.player = some contract.player)
    (whole : ¬ payout.HalfSigned) :
    payout.status lookup (contract.player .one) = payout.status lookup (contract.player .two) := by
  obtain ⟨ownOne, acrossOne⟩ := signed_of_party different parent .one
  obtain ⟨ownTwo, acrossTwo⟩ := signed_of_party different parent .two
  have unsigned : payout.Open → ∀ seat, payout.signatures.of seat = false := by
    intro isOpen
    refine Signatures.of_eq_false (Signatures.playerCount_of_not_quorum isOpen.2 ?_)
    exact fun half => whole ⟨isOpen.1, half⟩
  refine status_ext rfl rfl rfl rfl (fun isOpen => ?_) (fun isOpen => ?_)
  · rw [ownOne, ownTwo, unsigned isOpen, unsigned isOpen]
  · rw [acrossOne, acrossTwo, unsigned isOpen, unsigned isOpen]

end Payout

/-! ### Contracts -/

namespace Contract

variable {lookup : Lookup} {contract : Contract} {seat : Seat}

/-- The contract is funded, and one player has signed its payout and nobody else. -/
def HalfPaid (lookup : Lookup) (contract : Contract) : Prop :=
  contract.Funded ∧ ∃ payout, lookup.payout contract.id = some payout ∧ payout.HalfSigned

theorem status_of_halfSigned (lookup : Lookup) (different : contract.playerOne ≠ contract.playerTwo)
    (half : contract.HalfSigned) (signed : contract.signatures.of seat = true) :
    contract.status lookup (contract.player seat) = .signed ∧
      contract.status lookup (contract.player seat.other) = .received := by
  have short : ¬ contract.signatures.Quorum := by
    obtain ⟨uncertified, one⟩ := half
    simp [Signatures.Quorum, one, uncertified]
  have alone := (Signatures.alone_of_not_quorum short signed).1
  have own : contract.signedByViewer lookup (contract.player seat) = contract.signatures.of seat :=
    Signable.signedBy_contract_eq (seatOf_player_of_ne different seat)
  have others : contract.signedByViewer lookup (contract.player seat.other) =
      contract.signatures.of seat.other :=
    Signable.signedBy_contract_eq (seatOf_player_of_ne different seat.other)
  exact ⟨status_eq_iff.mpr ⟨half, own.trans signed⟩, status_eq_iff.mpr ⟨half, others.trans alone⟩⟩

theorem status_of_halfPaid (different : contract.playerOne ≠ contract.playerTwo)
    {payout : Payout} (found : lookup.payout contract.id = some payout)
    (parent : (lookup.contract payout.contract).map Contract.player = some contract.player)
    (funded : contract.Funded) (half : payout.HalfSigned)
    (signed : payout.signatures.of seat = true) :
    contract.status lookup (contract.player seat) =
        (if payout.withToken then .payoutSignedWithToken else .payoutSigned) ∧
      contract.status lookup (contract.player seat.other) = .payoutReceived := by
  obtain ⟨own, others⟩ := Payout.status_of_halfSigned different parent half signed
  rw [status_of_funded funded found, status_of_funded funded found, own, others]
  cases payout.withToken with
  | true => exact ⟨rfl, rfl⟩
  | false => exact ⟨rfl, rfl⟩

/-- It does not matter which of the two is asked first. -/
theorem status_ne_of_seat (seat : Seat)
    (different : contract.status lookup (contract.player seat) ≠
      contract.status lookup (contract.player seat.other)) :
    contract.status lookup contract.playerOne ≠ contract.status lookup contract.playerTwo := by
  cases seat with
  | one => exact different
  | two => exact different.symm

theorem status_ne_of_halfSigned (different : contract.playerOne ≠ contract.playerTwo)
    (half : contract.HalfSigned) :
    contract.status lookup contract.playerOne ≠ contract.status lookup contract.playerTwo := by
  obtain ⟨seat, signed, _⟩ := Signatures.exists_alone half.2
  obtain ⟨own, others⟩ := status_of_halfSigned lookup different half signed
  refine status_ne_of_seat seat ?_
  rw [own, others]
  decide

theorem status_ne_of_halfPaid (different : contract.playerOne ≠ contract.playerTwo)
    (parent : ∀ payout, lookup.payout contract.id = some payout →
      (lookup.contract payout.contract).map Contract.player = some contract.player)
    (half : contract.HalfPaid lookup) :
    contract.status lookup contract.playerOne ≠ contract.status lookup contract.playerTwo := by
  obtain ⟨funded, payout, found, half⟩ := half
  obtain ⟨seat, signed, _⟩ := Signatures.exists_alone half.2.2
  obtain ⟨own, others⟩ :=
    status_of_halfPaid different found (parent payout found) funded half signed
  refine status_ne_of_seat seat ?_
  rw [own, others]
  cases payout.withToken <;> decide

/-- What waits for neither of the parties, or for both, looks the same to them. -/
theorem status_eq_of_whole (different : contract.playerOne ≠ contract.playerTwo)
    (parent : ∀ payout, lookup.payout contract.id = some payout →
      (lookup.contract payout.contract).map Contract.player = some contract.player)
    (whole : ¬ contract.HalfSigned) (unpaid : ¬ contract.HalfPaid lookup) :
    contract.status lookup contract.playerOne = contract.status lookup contract.playerTwo := by
  refine status_ext rfl rfl rfl (fun half => False.elim (whole half)) fun funded => ?_
  refine Option.map_congr fun payout found => ?_
  refine Payout.status_of_not_halfSigned different (parent payout found) fun half => ?_
  exact unpaid ⟨funded, payout, found, half⟩

/--
The two parties of a contract see it in the same status, unless the contract is
signed by just one player, or is funded and has a payout that is. In these cases the
player who has signed is told so, with the token if there was one, and the other
player has received it.
-/
theorem parties_agree (different : contract.playerOne ≠ contract.playerTwo)
    (parent : ∀ payout, lookup.payout contract.id = some payout →
      (lookup.contract payout.contract).map Contract.player = some contract.player) :
    (contract.status lookup contract.playerOne = contract.status lookup contract.playerTwo ↔
      ¬ (contract.HalfSigned ∨ contract.HalfPaid lookup)) ∧
    ∀ seat : Seat,
      (contract.HalfSigned → contract.signatures.of seat = true →
        contract.status lookup (contract.player seat) = .signed ∧
          contract.status lookup (contract.player seat.other) = .received) ∧
      ∀ payout, contract.Funded → lookup.payout contract.id = some payout → payout.HalfSigned →
        payout.signatures.of seat = true →
        contract.status lookup (contract.player seat) =
            (if payout.withToken then .payoutSignedWithToken else .payoutSigned) ∧
          contract.status lookup (contract.player seat.other) = .payoutReceived := by
  refine ⟨⟨?_, fun whole => ?_⟩, fun seat => ⟨?_, ?_⟩⟩
  · rintro same (half | half)
    · exact status_ne_of_halfSigned different half same
    · exact status_ne_of_halfPaid different parent half same
  · exact status_eq_of_whole different parent (mt Or.inl whole) (mt Or.inr whole)
  · exact status_of_halfSigned lookup different
  · intro payout funded found half signed
    exact status_of_halfPaid different found (parent payout found) funded half signed

/-- Bob has signed with a token, so the payout waits for Alice, though a draft names its parties. -/
theorem parties_agree_bet :
    let payout := Payout.ofBet ⟨false, true, false⟩ true .unbroadcast
    let funded := bet ⟨true, true, true⟩ .confirmed
    let draft := { bet .blank .unbroadcast with id := ⟨"draft"⟩ }
    let lookup : Lookup := ⟨fun _ => some draft, fun _ => some payout⟩
    funded.HalfPaid lookup ∧
      funded.status lookup ⟨"alice"⟩ ≠ funded.status lookup ⟨"bob"⟩ ∧
      funded.status lookup ⟨"bob"⟩ = .payoutSignedWithToken ∧
      funded.status lookup ⟨"alice"⟩ = .payoutReceived ∧
      draft.status lookup ⟨"alice"⟩ = draft.status lookup ⟨"bob"⟩ := by
  intro payout funded draft lookup
  have isFunded : funded.Funded := ⟨rfl, rfl⟩
  have half : payout.HalfSigned := ⟨rfl, rfl, rfl⟩
  have halfPaid : funded.HalfPaid lookup := ⟨isFunded, payout, rfl, half⟩
  obtain ⟨agree, seats⟩ := @parties_agree lookup funded (by decide) fun payout found => by
    cases found
    rfl
  obtain ⟨drafts_agree, _⟩ := @parties_agree lookup draft (by decide) fun payout found => by
    cases found
    rfl
  obtain ⟨signer, receiver⟩ := (seats .two).2 payout isFunded rfl half rfl
  refine ⟨halfPaid, fun same => agree.mp same (Or.inr halfPaid), signer, receiver, ?_⟩
  refine drafts_agree.mpr ?_
  rintro (⟨_, one⟩ | ⟨⟨complete, _⟩, _⟩)
  · cases one
  · cases complete

end Contract

end ArbitratedEscrow
