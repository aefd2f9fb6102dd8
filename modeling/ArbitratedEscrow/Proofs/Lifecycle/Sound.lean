import ArbitratedEscrow.Proofs.Lifecycle.Standing

/-!
# Sound contracts and authorised payouts

The sets of signatures and transaction states that make sense, for a contract by
itself and for a payout with its contract, and the patches that keep within
them. A status is never invalid on what is sound, save that a player without a
seat does not know what to make of a payout with one signature.
-/

namespace ArbitratedEscrow

structure Contract.Sound (contract : Contract) : Prop where
  different : contract.playerOne ≠ contract.playerTwo
  positive : 0 < contract.amount.toNat
  players_first : contract.signatures.arbiter = true →
    contract.signatures.playerOne = true ∧ contract.signatures.playerTwo = true
  complete_first : contract.funding ≠ .unbroadcast → contract.signatures = ⟨true, true, true⟩

/-- What must be the case for a payout to go out, and before. -/
structure Payout.Authorised (contract : Contract) (payout : Payout) : Prop where
  funded : contract.Funded
  split : payout.amountOne.toNat + payout.amountTwo.toNat = contract.amount.toNat
  not_all : payout.signatures ≠ ⟨true, true, true⟩
  arbitrated : payout.signatures.arbiter = true →
    payout.signatures.playerCount = 1 ∧ payout.withToken = true
  two_signed : payout.transaction ≠ .unbroadcast →
    (payout.signatures.playerCount = 2 ∧ payout.signatures.arbiter = false) ∨
      (payout.signatures.playerCount = 1 ∧ payout.signatures.arbiter = true)

namespace Signatures

variable {signatures : Signatures}

/-- A quorum that is not of all three is of two. -/
theorem two_of_quorum (quorum : signatures.Quorum) (not_all : signatures ≠ ⟨true, true, true⟩) :
    (signatures.playerCount = 2 ∧ signatures.arbiter = false) ∨
      (signatures.playerCount = 1 ∧ signatures.arbiter = true) := by
  obtain ⟨one, two, arbiter⟩ := signatures
  revert quorum not_all
  cases one <;> cases two <;> cases arbiter <;> decide

theorem playerCount_of_unsigned {seat : Seat} (one : signatures.of seat = false)
    (other : signatures.of seat.other = false) : signatures.playerCount = 0 := by
  obtain ⟨_, _, _⟩ := signatures
  cases seat <;> cases one <;> cases other <;> rfl

theorem blank_of_unsigned {seat : Seat} (one : signatures.of seat = false)
    (other : signatures.of seat.other = false) (arbiter : signatures.arbiter = false) :
    signatures = .blank := by
  obtain ⟨_, _, _⟩ := signatures
  cases seat <;> cases one <;> cases other <;> cases arbiter <;> rfl

end Signatures

/-! ### Contracts -/

namespace Contract.Sound

variable {contract : Contract} {seat : Seat}

theorem new {playerOne playerTwo : PlayerId} {amount : Amount}
    (different : playerOne ≠ playerTwo) (positive : amount ≠ 0) (description : String)
    (nonce : Uuid) (now : Instant) :
    (Contract.new playerOne playerTwo amount description nonce now).Sound where
  different := different
  positive := by
    have nonzero : amount.toNat ≠ 0 := fun zero => positive (UInt64.toNat_inj.mp zero)
    exact Nat.pos_of_ne_zero nonzero
  players_first signed := by cases signed
  complete_first out := False.elim (out rfl)

/-- As long as the arbiter has not signed, nothing can be out, and players may sign. -/
theorem sign (sound : contract.Sound) (seat : Seat)
    (unsigned : contract.signatures.arbiter = false) : (contract.apply (.sign seat)).Sound where
  different := sound.different
  positive := sound.positive
  players_first signed := by
    have signed : contract.signatures.arbiter = true := by cases seat <;> exact signed
    rw [unsigned] at signed
    cases signed
  complete_first out := by
    have out : contract.funding ≠ .unbroadcast := by cases seat <;> exact out
    rw [sound.complete_first out] at unsigned
    cases unsigned

theorem certify (sound : contract.Sound) (players : contract.signatures = ⟨true, true, false⟩) :
    (contract.apply { arbiterSigned := some true }).Sound where
  different := sound.different
  positive := sound.positive
  players_first _ := by simp [apply, players]
  complete_first _ := by simp [apply, players]

theorem fund (sound : contract.Sound) (complete : contract.signatures = ⟨true, true, true⟩)
    (status : TxStatus) : (contract.apply { funding := some status }).Sound where
  different := sound.different
  positive := sound.positive
  players_first _ := by simp [apply, complete]
  complete_first _ := by simp [apply, complete]

theorem seatOf_player (sound : contract.Sound) (seat : Seat) :
    contract.seatOf (contract.player seat) = some seat :=
  Contract.seatOf_player_of_ne sound.different seat

theorem status_ne_invalid (sound : contract.Sound) (lookup : Lookup) (viewer : PlayerId) :
    contract.status lookup viewer ≠ .invalid := by
  intro invalid
  obtain ⟨signed, incomplete⟩ := Contract.status_eq_iff.mp invalid
  obtain ⟨one, two⟩ := sound.players_first signed
  refine incomplete (Signatures.complete_iff.mp ?_)
  rw [Signatures.complete, one, two, signed]
  rfl

end Contract.Sound

/-! ### Payouts -/

/-- What a party can make nothing of, neither player has signed. -/
theorem Payout.unsigned_of_invalid {lookup : Lookup} {payout : Payout} {contract : Contract}
    {viewer : PlayerId} {seat : Seat} (parent : lookup.contract payout.contract = some contract)
    (different : contract.playerOne ≠ contract.playerTwo)
    (seated : contract.seatOf viewer = some seat) (invalid : payout.Shows lookup viewer .invalid) :
    payout.signatures.of seat = false ∧ payout.signatures.of seat.other = false := by
  obtain ⟨_, unsigned, apart, _⟩ := invalid
  exact ⟨(Signable.signedBy_payout_eq parent seated).symm.trans unsigned,
    (signedAcross_eq parent different seated).symm.trans apart⟩

namespace Payout.Authorised

variable {contract : Contract} {payout : Payout}

theorem new {id : ContractId} {amountOne amountTwo : Amount} (funded : contract.Funded)
    (split : amountOne.toNat + amountTwo.toNat = contract.amount.toNat) (now : Instant) :
    (Payout.new id amountOne amountTwo now).Authorised contract where
  funded := funded
  split := split
  not_all signed := by cases signed
  arbitrated signed := by cases signed
  two_signed out := False.elim (out rfl)

/-- As long as nothing is out and the arbiter has not signed, players may sign. -/
theorem sign (authorised : payout.Authorised contract) (seat : Seat) (withToken : Option Bool)
    (unbroadcast : payout.transaction = .unbroadcast)
    (unsigned : payout.signatures.arbiter = false) :
    (payout.apply { Payout.Patch.sign seat with withToken }).Authorised contract := by
  have still : (payout.apply { Payout.Patch.sign seat with withToken }).signatures.arbiter =
      false := by
    cases seat <;> exact unsigned
  have inside : (payout.apply { Payout.Patch.sign seat with withToken }).transaction =
      .unbroadcast := by
    cases seat <;> exact unbroadcast
  refine ⟨authorised.funded, authorised.split, fun all => ?_, fun signed => ?_, fun out => ?_⟩
  · rw [all] at still
    cases still
  · rw [still] at signed
    cases signed
  · exact False.elim (out inside)

/-- The arbiter may sign what one player has signed by token. -/
theorem certify (authorised : payout.Authorised contract)
    (unbroadcast : payout.transaction = .unbroadcast) (one : payout.signatures.playerCount = 1)
    (token : payout.withToken = true) :
    (payout.apply { arbiterSigned := some true }).Authorised contract where
  funded := authorised.funded
  split := authorised.split
  not_all all := by
    have two : payout.signatures.playerCount = 2 := congrArg Signatures.playerCount all
    rw [one] at two
    cases two
  arbitrated _ := ⟨one, token⟩
  two_signed out := False.elim (out unbroadcast)

/-- A payout may go out, or further, as soon as two have signed. -/
theorem send (authorised : payout.Authorised contract) (quorum : payout.signatures.Quorum)
    (status : TxStatus) : (payout.apply { transaction := some status }).Authorised contract where
  funded := authorised.funded
  split := authorised.split
  not_all := authorised.not_all
  arbitrated := authorised.arbitrated
  two_signed _ := Signatures.two_of_quorum quorum authorised.not_all

theorem quorum_of_out (authorised : payout.Authorised contract)
    (out : payout.transaction ≠ .unbroadcast) : payout.signatures.Quorum := by
  rcases authorised.two_signed out with ⟨two, _⟩ | one
  · exact Or.inl two
  · exact Or.inr one

/-- Either party can tell where a payout stands. -/
theorem status_ne_invalid {lookup : Lookup} (authorised : payout.Authorised contract)
    (sound : contract.Sound) (parent : lookup.contract payout.contract = some contract)
    (seat : Seat) : payout.status lookup (contract.player seat) ≠ .invalid := by
  intro invalid
  have invalid := Payout.status_eq_iff.mp invalid
  have seated := sound.seatOf_player seat
  obtain ⟨own, others⟩ := unsigned_of_invalid parent sound.different seated invalid
  have arbiter : payout.signatures.arbiter = false := by
    by_contra signed
    obtain ⟨one, _⟩ := authorised.arbitrated (by simpa using signed)
    rw [Signatures.playerCount_of_unsigned own others] at one
    cases one
  obtain ⟨_, _, _, marked⟩ := invalid
  exact marked (Signatures.blank_of_unsigned own others arbiter)

end Payout.Authorised

end ArbitratedEscrow
