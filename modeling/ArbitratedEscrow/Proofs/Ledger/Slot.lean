import ArbitratedEscrow.Proofs.Ledger.Lookup

/-!
# Slots of the ledger

Under the identifier of a contract a ledger has a slot, with the contract and
its payout in it as far as they are there. A slot can be filled in another way
without touching any other slot (`Ledger.withSlot`), and slots can be filled in
any order.
-/

namespace ArbitratedEscrow

namespace Directory

variable {κ α : Type} [Key κ] {d : Directory κ α} {j k : κ} {a b : Option α}

/-- Puts a value under a key in place of any other, or nothing. -/
def update (d : Directory κ α) (k : κ) : Option α → Directory κ α
  | some a => d.insert k a
  | none => d.erase k

@[simp] theorem get?_update : (d.update k a).get? j = if k = j then a else d.get? j := by
  cases a with
  | some a => exact get?_insert _ _ _ _
  | none => exact get?_erase _ _ _

theorem update_get? : d.update k (d.get? k) = d := by
  refine ext_get? fun j => ?_
  rw [get?_update]
  split
  · rename_i same
    rw [same]
  · rfl

@[simp] theorem update_update : (d.update k a).update k b = d.update k b := by
  refine ext_get? fun j => ?_
  simp only [get?_update]
  split <;> rfl

theorem update_comm (different : j ≠ k) : (d.update j a).update k b = (d.update k b).update j a := by
  refine ext_get? fun i => ?_
  simp only [get?_update]
  by_cases second : k = i
  · have first : j ≠ i := second ▸ different
    simp only [second, first, if_true, if_false]
  · simp only [second, if_false]

end Directory

structure Slot where
  contract? : Option Contract
  payout? : Option Payout

def Slot.dated (slot : Slot) (now : Instant) : Slot :=
  { slot with payout? := slot.payout?.map fun payout => { payout with createdAt := now } }

namespace Ledger

def slot (ledger : Ledger) (id : ContractId) : Slot := ⟨ledger.contract? id, ledger.payout? id⟩

def withSlot (ledger : Ledger) (id : ContractId) (slot : Slot) : Ledger :=
  { ledger with
    contracts := ledger.contracts.update id slot.contract?
    payouts := ledger.payouts.update id slot.payout? }

variable {ledger other : Ledger} {id another : ContractId} {fill refill : Slot}

theorem slot_withSlot :
    (ledger.withSlot id fill).slot another = if id = another then fill else ledger.slot another := by
  simp only [Ledger.slot, withSlot, contract?, payout?, Directory.get?_update]
  split <;> rfl

@[simp] theorem slot_withSlot_self : (ledger.withSlot id fill).slot id = fill := by
  rw [slot_withSlot, if_pos rfl]

theorem slot_withSlot_of_ne (different : id ≠ another) :
    (ledger.withSlot id fill).slot another = ledger.slot another := by
  rw [slot_withSlot, if_neg different]

@[simp] theorem withSlot_slot : ledger.withSlot id (ledger.slot id) = ledger := by
  simp only [withSlot, Ledger.slot, contract?, payout?, Directory.update_get?]

@[simp] theorem withSlot_withSlot :
    (ledger.withSlot id fill).withSlot id refill = ledger.withSlot id refill := by
  simp only [withSlot, Directory.update_update]

theorem withSlot_comm (different : id ≠ another) :
    (ledger.withSlot id fill).withSlot another refill =
      (ledger.withSlot another refill).withSlot id fill := by
  simp only [withSlot, Directory.update_comm different]

theorem withSlot_payout? (contract? : Option Contract) :
    ledger.withSlot id ⟨contract?, ledger.payout? id⟩ =
      { ledger with contracts := ledger.contracts.update id contract? } := by
  simp only [withSlot, payout?, Directory.update_get?]

theorem withSlot_contract? (payout? : Option Payout) :
    ledger.withSlot id ⟨ledger.contract? id, payout?⟩ =
      { ledger with payouts := ledger.payouts.update id payout? } := by
  simp only [withSlot, contract?, Directory.update_get?]

/-- Two ledgers have the same selected player and the same slot for an identifier. -/
structure AgreesAt (ledger other : Ledger) (id : ContractId) : Prop where
  selected : ledger.selected = other.selected
  slot : ledger.slot id = other.slot id

theorem AgreesAt.contract? (agrees : ledger.AgreesAt other id) :
    ledger.contract? id = other.contract? id :=
  congrArg Slot.contract? agrees.slot

theorem AgreesAt.payout? (agrees : ledger.AgreesAt other id) :
    ledger.payout? id = other.payout? id :=
  congrArg Slot.payout? agrees.slot

/-- What is done to one slot goes unnoticed at the others. -/
theorem agreesAt_withSlot (different : id ≠ another) :
    ledger.AgreesAt (ledger.withSlot id fill) another :=
  ⟨rfl, (slot_withSlot_of_ne different).symm⟩

end Ledger

end ArbitratedEscrow
