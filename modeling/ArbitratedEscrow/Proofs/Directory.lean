import Mathlib.Data.List.Nodup
import ArbitratedEscrow.Directory

/-!
# More on directories

What filing a whole list does to lookups, and a map over the values. Both are
needed to follow a ledger through the archive: its rows come back in another
order, which makes no difference as long as no two of them share a key.
-/

namespace ArbitratedEscrow.Directory

variable {κ α : Type} [Key κ]

theorem contains_iff {d : Directory κ α} {k : κ} :
    d.contains k = true ↔ ∃ a, d.get? k = some a :=
  Option.isSome_iff_exists

theorem not_contains_iff {d : Directory κ α} {k : κ} :
    d.contains k = false ↔ d.get? k = none :=
  Option.isSome_eq_false_iff.trans Option.isNone_iff_eq_none

/-- The second of two values under one key replaces the first. -/
theorem insert_erase (d : Directory κ α) (k : κ) (a : α) :
    (d.erase k).insert k a = d.insert k a := by
  refine ext_get? fun k' => ?_
  rw [get?_insert, get?_insert, get?_erase]
  by_cases same : k = k'
  · rw [if_pos same, if_pos same]
  · rw [if_neg same, if_neg same, if_neg same]

/-! ### Filing a list -/

theorem get?_foldl_insert (key : α → κ) (values : List α)
    (distinct : (values.map key).Nodup) (d : Directory κ α) (k : κ) (a : α) :
    (values.foldl (fun d a => d.insert (key a) a) d).get? k = some a ↔
      (a ∈ values ∧ key a = k) ∨ (k ∉ values.map key ∧ d.get? k = some a) := by
  induction values generalizing d with
  | nil => simp
  | cons first rest ih =>
    obtain ⟨absent, distinct⟩ := List.nodup_cons.mp distinct
    rw [List.foldl_cons, ih distinct, get?_insert]
    by_cases same : key first = k
    · subst same
      have elsewhere : ∀ b ∈ rest, key b ≠ key first := fun b member equal =>
        absent (equal ▸ List.mem_map_of_mem member)
      constructor
      · rintro (⟨member, equal⟩ | ⟨_, filed⟩)
        · exact Or.inl ⟨List.mem_cons_of_mem first member, equal⟩
        · have : first = a := by simpa using filed
          exact Or.inl ⟨this ▸ List.mem_cons_self, this ▸ rfl⟩
      · rintro (⟨member, equal⟩ | ⟨unlisted, _⟩)
        · rcases List.mem_cons.mp member with rfl | member
          · exact Or.inr ⟨absent, by simp⟩
          · exact False.elim (elsewhere a member equal)
        · exact False.elim (unlisted (by simp))
    · have other : ∀ b, key b = k → b ≠ first := fun b equal first_eq =>
        same (first_eq ▸ equal)
      rw [if_neg same]
      constructor
      · rintro (⟨member, equal⟩ | ⟨unlisted, filed⟩)
        · exact Or.inl ⟨List.mem_cons_of_mem first member, equal⟩
        · exact Or.inr ⟨by simpa [Ne.symm same] using unlisted, filed⟩
      · rintro (⟨member, equal⟩ | ⟨unlisted, filed⟩)
        · rcases List.mem_cons.mp member with rfl | member
          · exact False.elim (other _ equal rfl)
          · exact Or.inl ⟨member, equal⟩
        · exact Or.inr ⟨by simpa [Ne.symm same] using unlisted, filed⟩

theorem get?_ofList {key : α → κ} {values : List α} (distinct : (values.map key).Nodup)
    {k : κ} {a : α} : (ofList key values).get? k = some a ↔ a ∈ values ∧ key a = k := by
  have filed := get?_foldl_insert key values distinct empty k a
  simpa [ofList] using filed

/-! ### Values -/

def map {β : Type} (f : α → β) (d : Directory κ α) : Directory κ β :=
  ⟨d.entries.map fun entry => (entry.1, f entry.2), List.pairwise_map.mpr d.ascending⟩

@[simp] theorem get?_map {β : Type} (f : α → β) (d : Directory κ α) (k : κ) :
    (d.map f).get? k = (d.get? k).map f := by
  have lookup_map : ∀ entries : List (κ × α),
      lookup k (entries.map fun entry => (entry.1, f entry.2)) = (lookup k entries).map f := by
    intro entries
    induction entries with
    | nil => rfl
    | cons head rest ih =>
      obtain ⟨k', a⟩ := head
      by_cases same : k' = k
      · simp [lookup, same]
      · simpa [lookup, same] using ih
  exact lookup_map d.entries

@[simp] theorem values_map {β : Type} (f : α → β) (d : Directory κ α) :
    (d.map f).values = d.values.map f := by
  simp [map, values, Function.comp_def]

theorem map_map {β γ : Type} (f : α → β) (g : β → γ) (d : Directory κ α) :
    (d.map f).map g = d.map (g ∘ f) := by
  refine ext_get? fun k => ?_
  rw [get?_map, get?_map, get?_map, Option.map_map]

theorem map_congr {β : Type} {f g : α → β} {d : Directory κ α}
    (same : ∀ k a, d.get? k = some a → f a = g a) : d.map f = d.map g := by
  refine ext_get? fun k => ?_
  rw [get?_map, get?_map]
  exact Option.map_congr (same k)

theorem map_insert {β : Type} (f : α → β) (d : Directory κ α) (k : κ) (a : α) :
    (d.insert k a).map f = (d.map f).insert k (f a) := by
  refine ext_get? fun k' => ?_
  rw [get?_map, get?_insert, get?_insert, get?_map]
  split <;> rfl

theorem map_erase {β : Type} (f : α → β) (d : Directory κ α) (k : κ) :
    (d.erase k).map f = (d.map f).erase k := by
  refine ext_get? fun k' => ?_
  rw [get?_map, get?_erase, get?_erase, get?_map]
  split <;> rfl

/-- What is filed under a key makes up for all differences there. -/
theorem insert_congr {d e : Directory κ α} {k : κ} (a : α)
    (same : ∀ k', k ≠ k' → d.get? k' = e.get? k') : d.insert k a = e.insert k a := by
  refine ext_get? fun k' => ?_
  rw [get?_insert, get?_insert]
  split
  · rfl
  · rename_i different
    exact same k' different

/-- Values that are filed under keys of their own have distinct keys. -/
theorem nodup_keys {d : Directory κ α} {key : α → κ}
    (keyed : ∀ {k a}, d.get? k = some a → key a = k) : (d.values.map key).Nodup := by
  have same : d.values.map key = d.entries.map (·.1) := by
    rw [values, List.map_map]
    refine List.map_congr_left fun entry member => ?_
    exact keyed (get?_eq_some_iff.mpr member)
  rw [same, List.nodup_map_iff_inj_on]
  · intro a first b second equal
    have left := get?_eq_some_iff.mpr first
    have right := get?_eq_some_iff.mpr second
    rw [equal, right] at left
    exact Prod.ext equal (Option.some.inj left).symm
  · exact d.ascending.imp fun before equal => before.ne (congrArg Prod.fst equal)

/-- A directory comes back from its values in whatever order they are filed. -/
theorem ofList_values {d : Directory κ α} {key : α → κ} {values : List α}
    (keyed : ∀ {k a}, d.get? k = some a → key a = k) (same : values.Perm d.values) :
    ofList key values = d := by
  have distinct : (values.map key).Nodup := (same.map key).nodup_iff.mpr (nodup_keys keyed)
  refine ext_get? fun k => Option.ext fun a => ?_
  rw [get?_ofList distinct, same.mem_iff, mem_values_iff]
  constructor
  · rintro ⟨⟨k', found⟩, rfl⟩
    rwa [keyed found]
  · intro found
    exact ⟨⟨k, found⟩, keyed found⟩

end ArbitratedEscrow.Directory
