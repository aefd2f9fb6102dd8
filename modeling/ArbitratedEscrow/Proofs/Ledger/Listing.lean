import Mathlib.Data.List.Induction
import ArbitratedEscrow.Proofs.Ledger.Made
import ArbitratedEscrow.Proofs.Lifecycle.Locality

/-!
# The order in which contracts are listed

Contracts are listed oldest first, those of one instant by identifier. The archive
keeps the second in which a contract was created and no fraction of it, so a ledger
that comes back lists its contracts by seconds, and those of one second by
identifier, whichever of them was the older. It lists them as before exactly if no
two of them have changed places within a second (`Ledger.listing_restored`).
-/

namespace ArbitratedEscrow

/-- Sorting leaves what it does not tell apart in the order in which it was. -/
theorem stable_mergeSort {α : Type} (le : α → α → Bool) {before : α → α → Prop}
    (trans : ∀ a b c, le a b → le b c → le a c) (total : ∀ a b, le a b || le b a) {l : List α}
    (ascending : l.Pairwise before) :
    (l.mergeSort le).Pairwise fun a b => le a b = true ∧ (le b a = true → before a b) := by
  induction l with
  | nil =>
    rw [List.mergeSort_nil]
    exact .nil
  | cons first rest ih =>
    obtain ⟨leads, ascending⟩ := List.pairwise_cons.mp ascending
    -- the first element is put where it belongs in the rest, in front of its equals
    obtain ⟨front, back, sorted, sorted_rest, lesser⟩ := List.mergeSort_cons trans total first rest
    have least : (first :: back).Pairwise fun a b => le a b = true :=
      (List.pairwise_append.mp (sorted ▸ List.pairwise_mergeSort trans total (first :: rest))).2.1
    have ih := ih ascending
    rw [sorted_rest] at ih
    obtain ⟨ih_front, ih_back, across⟩ := List.pairwise_append.mp ih
    rw [sorted]
    refine List.pairwise_append.mpr ⟨ih_front, List.pairwise_cons.mpr ⟨?_, ih_back⟩, ?_⟩
    · intro b member
      have listed : b ∈ rest :=
        List.mem_mergeSort.mp (sorted_rest ▸ List.mem_append_right front member)
      exact ⟨List.rel_of_pairwise_cons least member, fun _ => leads b listed⟩
    · intro a member b later
      rcases List.mem_cons.mp later with rfl | later
      · have not_le : le b a = false := by simpa using lesser a member
        have le_or := total b a
        rw [not_le, Bool.false_or] at le_or
        exact ⟨le_or, fun le => by rw [not_le] at le; cases le⟩
      · exact across a member b later

/-! ### Instants -/

namespace Instant

variable {a b c : Instant}

theorem notAfter_iff :
    a.notAfter b = true ↔ a.seconds < b.seconds ∨ (a.seconds = b.seconds ∧ a.nanos ≤ b.nanos) := by
  simp [notAfter]

theorem notAfter_trans (first : a.notAfter b = true) (second : b.notAfter c = true) :
    a.notAfter c = true := by
  rw [notAfter_iff] at *
  omega

theorem notAfter_total (a b : Instant) : (a.notAfter b || b.notAfter a) = true := by
  rw [Bool.or_eq_true, notAfter_iff, notAfter_iff]
  omega

end Instant

/-! ### Contracts -/

namespace Contract

variable {a b : Contract}

/-- One contract is older than another one, or as old and has the lesser identifier. -/
def Precedes (a b : Contract) : Prop :=
  a.createdAt.notAfter b.createdAt = true ∧
    (b.createdAt.notAfter a.createdAt = true → Key.Before a.id b.id)

/-- One contract is from an earlier second, or from the same one and has the lesser identifier. -/
def BySecond (a b : Contract) : Prop :=
  a.createdAt.seconds < b.createdAt.seconds ∨
    (a.createdAt.seconds = b.createdAt.seconds ∧ Key.Before a.id b.id)

instance : Decidable (a.Precedes b) := inferInstanceAs (Decidable (_ ∧ _))

theorem Precedes.asymm (first : a.Precedes b) : ¬ b.Precedes a := by
  intro second
  exact Key.not_before_self a.id ((first.2 second.1).trans (second.2 first.1))

theorem Precedes.seconds_le (first : a.Precedes b) :
    a.createdAt.seconds ≤ b.createdAt.seconds := by
  have older := Instant.notAfter_iff.mp first.1
  omega

/-- What the archive has cut off the instants, the order cannot depend on. -/
theorem precedes_wholeSecond : a.wholeSecond.Precedes b.wholeSecond ↔ a.BySecond b := by
  have cut : ∀ c d : Contract, c.wholeSecond.createdAt.notAfter d.wholeSecond.createdAt = true ↔
      c.createdAt.seconds ≤ d.createdAt.seconds := by
    intro c d
    rw [Instant.notAfter_iff]
    change c.createdAt.seconds < d.createdAt.seconds ∨
      (c.createdAt.seconds = d.createdAt.seconds ∧ 0 ≤ 0) ↔ _
    omega
  rw [Precedes, BySecond, cut, cut]
  change _ ∧ (_ → Key.Before a.id b.id) ↔ _
  constructor
  · rintro ⟨le, told⟩
    rcases Int.lt_or_eq_of_le le with lt | same
    · exact Or.inl lt
    · exact Or.inr ⟨same, told (Int.le_of_eq same.symm)⟩
  · rintro (lt | ⟨same, told⟩)
    · exact ⟨Int.le_of_lt lt, fun le => absurd lt (Int.not_lt.mpr le)⟩
    · exact ⟨Int.le_of_eq same, fun _ => told⟩

end Contract

namespace Ledger

variable {ledger : Ledger}

def listing (ledger : Ledger) : List ContractId := ledger.contractList.map Contract.id

theorem mem_contractList {contract : Contract} :
    contract ∈ ledger.contractList ↔ ∃ id, ledger.contract? id = some contract :=
  ledger.perm_contractList.mem_iff.trans Directory.mem_values_iff

namespace WellFormed

theorem ids_ascending (wellFormed : ledger.WellFormed) :
    ledger.contracts.values.Pairwise fun a b => Key.Before a.id b.id := by
  refine List.pairwise_map.mpr (ledger.contracts.ascending.imp_of_mem ?_)
  intro a b first second before
  have first_keyed : a.2.id = a.1 :=
    wellFormed.contract_keyed (Directory.get?_eq_some_iff.mpr first)
  have second_keyed : b.2.id = b.1 :=
    wellFormed.contract_keyed (Directory.get?_eq_some_iff.mpr second)
  rwa [first_keyed, second_keyed]

/-- Contracts are listed oldest first, those of one instant by identifier. -/
theorem contractList_sorted (wellFormed : ledger.WellFormed) :
    ledger.contractList.Pairwise Contract.Precedes :=
  stable_mergeSort (fun a b : Contract => a.createdAt.notAfter b.createdAt)
    (fun _ _ _ => Instant.notAfter_trans) (fun _ _ => Instant.notAfter_total _ _)
    wellFormed.ids_ascending

/-- There is one way only to list the contracts in that order. -/
theorem contractList_eq (wellFormed : ledger.WellFormed) {contracts : List Contract}
    (same : contracts.Perm ledger.contracts.values)
    (sorted : contracts.Pairwise Contract.Precedes) : ledger.contractList = contracts :=
  (ledger.perm_contractList.trans same.symm).eq_of_pairwise
    (fun _ _ _ _ first second => absurd second first.asymm) wellFormed.contractList_sorted sorted

theorem listing_nodup (wellFormed : ledger.WellFormed) : ledger.listing.Nodup :=
  (ledger.perm_contractList.map Contract.id).nodup_iff.mpr
    (Directory.nodup_keys wellFormed.contract_keyed)

theorem mem_listing (wellFormed : ledger.WellFormed) {id : ContractId} :
    id ∈ ledger.listing ↔ ∃ contract, ledger.contract? id = some contract := by
  rw [listing, List.mem_map]
  constructor
  · rintro ⟨contract, listed, rfl⟩
    obtain ⟨id, stored⟩ := mem_contractList.mp listed
    exact ⟨contract, wellFormed.contract_keyed stored ▸ stored⟩
  · rintro ⟨contract, stored⟩
    exact ⟨contract, mem_contractList.mpr ⟨id, stored⟩, wellFormed.contract_keyed stored⟩

/-- The listed contracts are found under the listed identifiers. -/
theorem contract?_listing (wellFormed : ledger.WellFormed) :
    ledger.listing.map ledger.contract? = ledger.contractList.map some := by
  rw [listing, List.map_map]
  refine List.map_congr_left fun contract listed => ?_
  obtain ⟨id, stored⟩ := mem_contractList.mp listed
  rwa [Function.comp_apply, wellFormed.contract_keyed stored]

end WellFormed

/-! ### After a restart -/

theorem perm_contractList_wholeSeconds :
    ledger.wholeSeconds.contractList.Perm (ledger.contractList.map Contract.wholeSecond) := by
  refine (perm_contractList _).trans ?_
  rw [wholeSeconds, Directory.values_map]
  exact (ledger.perm_contractList.map _).symm

namespace WellFormed

/-- The order of the identifiers is the order of the contracts. -/
theorem listing_wholeSeconds_iff (wellFormed : ledger.WellFormed) :
    ledger.wholeSeconds.listing = ledger.listing ↔
      ledger.wholeSeconds.contractList = ledger.contractList.map Contract.wholeSecond := by
  constructor
  · intro same
    have found := wellFormed.wholeSeconds.contract?_listing
    have cut : ledger.wholeSeconds.contract? =
        Option.map Contract.wholeSecond ∘ ledger.contract? :=
      funext contract?_wholeSeconds
    rw [same, cut, ← List.map_map, wellFormed.contract?_listing, List.map_map] at found
    have found : (ledger.contractList.map Contract.wholeSecond).map some =
        ledger.wholeSeconds.contractList.map some := by
      rw [List.map_map]
      exact found
    exact ((List.map_inj_right fun _ _ => Option.some.inj).mp found).symm
  · intro same
    rw [listing, same, List.map_map]
    rfl

/-- The order comes through unless contracts of one second were not in that of their identifiers. -/
theorem listing_wholeSeconds_iff_pairwise (wellFormed : ledger.WellFormed) :
    ledger.wholeSeconds.listing = ledger.listing ↔
      ledger.contractList.Pairwise fun a b =>
        a.createdAt.seconds = b.createdAt.seconds → Key.Before a.id b.id := by
  rw [wellFormed.listing_wholeSeconds_iff]
  constructor
  · intro same
    have sorted := wellFormed.wholeSeconds.contractList_sorted
    rw [same, List.pairwise_map] at sorted
    refine sorted.imp fun {a b} precedes second => ?_
    rcases Contract.precedes_wholeSecond.mp precedes with lt | ⟨_, before⟩
    · omega
    · exact before
  · intro ordered
    refine wellFormed.wholeSeconds.contractList_eq ?_ ?_
    · exact perm_contractList_wholeSeconds.symm.trans (perm_contractList _)
    · refine List.pairwise_map.mpr ((wellFormed.contractList_sorted.and ordered).imp ?_)
      rintro a b ⟨precedes, told⟩
      refine Contract.precedes_wholeSecond.mpr ?_
      rcases Int.lt_or_eq_of_le precedes.seconds_le with lt | same
      · exact Or.inl lt
      · exact Or.inr ⟨same, told same⟩

theorem contractList_wholeSeconds_sorted (wellFormed : ledger.WellFormed) :
    ledger.wholeSeconds.contractList.Pairwise Contract.BySecond := by
  have whole : ∀ c ∈ ledger.wholeSeconds.contractList, c.wholeSecond = c := by
    intro c listed
    obtain ⟨original, _, rfl⟩ := List.mem_map.mp (perm_contractList_wholeSeconds.mem_iff.mp listed)
    rfl
  refine wellFormed.wholeSeconds.contractList_sorted.imp_of_mem ?_
  intro a b first second precedes
  rw [← whole a first, ← whole b second] at precedes
  exact Contract.precedes_wholeSecond.mp precedes

end WellFormed

/--
A ledger that edits and archives have made lists each of its contracts once, oldest
first. When it is kept and loaded, the same contracts come back, listed by the second
in which they were created and within a second by identifier. The identifiers come
in the same order as before if and only if those of each second did so before.
-/
theorem listing_restored (made : ledger.Made) (archive : Archive) :
    ∃ kept after, archive.keep? ledger = some kept ∧ (∀ now, kept.load? now = some after) ∧
      ledger.listing.Nodup ∧
      (∀ id, id ∈ ledger.listing ↔ ∃ contract, ledger.contract? id = some contract) ∧
      ledger.contractList.Pairwise Contract.Precedes ∧
      after.contractList.Perm (ledger.contractList.map Contract.wholeSecond) ∧
      after.contractList.Pairwise Contract.BySecond ∧
      (after.listing = ledger.listing ↔ ledger.contractList.Pairwise fun a b =>
        a.createdAt.seconds = b.createdAt.seconds → Key.Before a.id b.id) := by
  have wellFormed := made.wellFormed
  obtain ⟨kept, keeps, loads⟩ := Archive.keep_load wellFormed archive
  exact ⟨kept, ledger.wholeSeconds, keeps, loads, wellFormed.listing_nodup,
    fun _ => wellFormed.mem_listing, wellFormed.contractList_sorted,
    perm_contractList_wholeSeconds, wellFormed.contractList_wholeSeconds_sorted,
    wellFormed.listing_wholeSeconds_iff_pairwise⟩

theorem tenths_fit (second : Fin 60) (count : Fin 10) :
    Instant.earliest ≤ second.val ∧ second.val ≤ Instant.latest ∧
      count.val * 100000000 < 1000000000 := by
  rw [Instant.earliest, Instant.latest]
  omega

/-- So many tenths after a second of the first minute of 1970. -/
def tenths (second : Fin 60) (count : Fin 10) : Instant where
  seconds := second.val
  nanos := count.val * 100000000
  not_early := (tenths_fit second count).1
  not_late := (tenths_fit second count).2.1
  nanos_fit := Or.inl (tenths_fit second count).2.2

def dated (id : String) (createdAt : Instant) : Contract :=
  { Contract.bet .blank .unbroadcast with id := ⟨id⟩, createdAt }

def filing (contracts : List Contract) : Ledger :=
  contracts.foldl (fun ledger contract => (ledger.edit (.addContract contract)).2) empty

theorem made_filing (contracts : List Contract) : (filing contracts).Made := by
  induction contracts using List.reverseRecOn with
  | nil => exact .empty
  | append_singleton contracts contract ih =>
    rw [filing, List.foldl_append]
    exact .edited ih _

/-- One bet, and two more in the next second, made in the order of their identifiers. -/
def unhurried : Ledger :=
  filing [dated "c" (tenths 0 9), dated "a" (tenths 1 1), dated "b" (tenths 1 5)]

theorem listing_restored_unhurried :
    unhurried.Made ∧ ∃ kept after, Archive.empty.keep? unhurried = some kept ∧
      (∀ now, kept.load? now = some after) ∧
      unhurried.listing = [⟨"c"⟩, ⟨"a"⟩, ⟨"b"⟩] ∧ after.listing = [⟨"c"⟩, ⟨"a"⟩, ⟨"b"⟩] := by
  have made : unhurried.Made := made_filing _
  have listed : unhurried.contractList =
      [dated "c" (tenths 0 9), dated "a" (tenths 1 1), dated "b" (tenths 1 5)] :=
    made.wellFormed.contractList_eq (by decide +kernel) (by decide +kernel)
  obtain ⟨kept, after, keeps, loads, _, _, _, _, _, restored⟩ := listing_restored made .empty
  have ordered : unhurried.listing = [⟨"c"⟩, ⟨"a"⟩, ⟨"b"⟩] := by
    rw [listing, listed]
    rfl
  refine ⟨made, kept, after, keeps, loads, ordered, (restored.mpr ?_).trans ordered⟩
  rw [listed]
  decide +kernel

/-- Two bets within a second, the later one under the lesser identifier. -/
def hurried : Ledger := filing [dated "b" (tenths 0 1), dated "a" (tenths 0 2)]

/-- The older of two bets comes first before a restart, and last after it. -/
theorem listing_reversed :
    hurried.Made ∧ ∃ kept after, Archive.empty.keep? hurried = some kept ∧
      (∀ now, kept.load? now = some after) ∧
      hurried.listing = [⟨"b"⟩, ⟨"a"⟩] ∧ after.listing = [⟨"a"⟩, ⟨"b"⟩] := by
  have made : hurried.Made := made_filing _
  obtain ⟨kept, keeps, loads⟩ := Archive.keep_load made.wellFormed .empty
  have listed : hurried.contractList = [dated "b" (tenths 0 1), dated "a" (tenths 0 2)] :=
    made.wellFormed.contractList_eq (by decide +kernel) (by decide +kernel)
  have cut : hurried.wholeSeconds.contractList = [dated "a" (tenths 0 0), dated "b" (tenths 0 0)] :=
    made.wellFormed.wholeSeconds.contractList_eq (by decide +kernel) (by decide +kernel)
  refine ⟨made, kept, hurried.wholeSeconds, keeps, loads, ?_, ?_⟩
  · rw [listing, listed]
    rfl
  · rw [listing, cut]
    rfl

end Ledger

end ArbitratedEscrow
