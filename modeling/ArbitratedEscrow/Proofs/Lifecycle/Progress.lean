import ArbitratedEscrow.Proofs.Lifecycle.Standing

/-!
# Progress

Signatures are added to those that are there, and a transaction goes from one
status to the next. A later record of a contract or a payout is `Onward` from an
earlier one if that is all that has happened to it, with at most one step of the
transaction; `progress` counts the signatures and the steps.
-/

namespace ArbitratedEscrow

namespace Signatures

def add (signatures : Signatures) : Seat → Signatures
  | .one => { signatures with playerOne := true }
  | .two => { signatures with playerTwo := true }

def certify (signatures : Signatures) : Signatures := { signatures with arbiter := true }

def count (signatures : Signatures) : Nat :=
  signatures.playerCount + signatures.arbiter.toNat

structure Within (earlier later : Signatures) : Prop where
  player : ∀ seat, earlier.of seat = true → later.of seat = true
  arbiter : earlier.arbiter = true → later.arbiter = true

variable {signatures : Signatures} {seat : Seat}

theorem within_refl (signatures : Signatures) : signatures.Within signatures :=
  ⟨fun _ signed => signed, fun signed => signed⟩

theorem within_add (signatures : Signatures) (seat : Seat) :
    signatures.Within (signatures.add seat) where
  player held signed := by cases seat <;> cases held <;> first | rfl | exact signed
  arbiter signed := by cases seat <;> exact signed

theorem within_certify (signatures : Signatures) : signatures.Within signatures.certify where
  player held signed := by cases held <;> exact signed
  arbiter _ := rfl

theorem count_add (unsigned : signatures.of seat = false) :
    (signatures.add seat).count = signatures.count + 1 := by
  obtain ⟨one, two, arbiter⟩ := signatures
  revert unsigned
  cases seat <;> cases one <;> cases two <;> cases arbiter <;> decide

theorem count_certify (unsigned : signatures.arbiter = false) :
    signatures.certify.count = signatures.count + 1 := by
  obtain ⟨one, two, arbiter⟩ := signatures
  revert unsigned
  cases one <;> cases two <;> cases arbiter <;> decide

theorem count_le (signatures : Signatures) : signatures.count ≤ 3 := by
  obtain ⟨one, two, arbiter⟩ := signatures
  cases one <;> cases two <;> cases arbiter <;> decide

end Signatures

namespace TxStatus

/-- The same status or the next one. -/
def Onward (earlier later : TxStatus) : Prop :=
  later.rank = earlier.rank ∨ later.rank = earlier.rank + 1

theorem rank_le (status : TxStatus) : status.rank ≤ 2 := by
  cases status <;> decide

end TxStatus

/-- A contract on the same terms that has not come back, and no more than a step further. -/
structure Contract.Onward (earlier later : Contract) : Prop where
  id : later.id = earlier.id
  player : later.player = earlier.player
  amount : later.amount = earlier.amount
  description : later.description = earlier.description
  createdAt : later.createdAt = earlier.createdAt
  signatures : earlier.signatures.Within later.signatures
  funding : earlier.funding.Onward later.funding

/-- A payout of the same split that has not come back, and no more than a step further. -/
structure Payout.Onward (earlier later : Payout) : Prop where
  contract : later.contract = earlier.contract
  amountOne : later.amountOne = earlier.amountOne
  amountTwo : later.amountTwo = earlier.amountTwo
  createdAt : later.createdAt = earlier.createdAt
  signatures : earlier.signatures.Within later.signatures
  withToken : earlier.withToken = true → later.withToken = true
  transaction : earlier.transaction.Onward later.transaction

theorem Contract.onward_refl (contract : Contract) : contract.Onward contract :=
  ⟨rfl, rfl, rfl, rfl, rfl, Signatures.within_refl _, Or.inl rfl⟩

theorem Payout.onward_refl (payout : Payout) : payout.Onward payout :=
  ⟨rfl, rfl, rfl, rfl, Signatures.within_refl _, fun token => token, Or.inl rfl⟩

/-- How far a contract has come. -/
def Contract.progress (contract : Contract) : Nat :=
  contract.signatures.count + contract.funding.rank

/-- How far a payout has come; to have been proposed is the first step. -/
def Payout.progress (payout : Payout) : Nat :=
  1 + payout.signatures.count + payout.transaction.rank

theorem Contract.progress_le (contract : Contract) : contract.progress ≤ 5 := by
  have signed := contract.signatures.count_le
  have sent := contract.funding.rank_le
  rw [progress]
  omega

theorem Payout.progress_le (payout : Payout) : payout.progress ≤ 6 := by
  have signed := payout.signatures.count_le
  have sent := payout.transaction.rank_le
  rw [progress]
  omega

end ArbitratedEscrow
