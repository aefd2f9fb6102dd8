/-!
# Directories

A directory files values under keys that are told apart by a text. Its entries
stand in the order of those texts, which is code-point order and so the byte
order of their UTF-8 forms, and no key occurs twice. Hence a directory is
determined by its lookups (`Directory.ext_get?`), and what each operation does
is said by what it does to lookups.
-/

namespace ArbitratedEscrow

/-- A type of keys that are told apart by a text. -/
class Key (κ : Type) where
  text : κ → String
  text_injective : ∀ {a b : κ}, text a = text b → a = b

namespace Key

variable {κ : Type} [Key κ]

instance (priority := low) : DecidableEq κ := fun a b =>
  if same : text a = text b then isTrue (text_injective same)
  else isFalse fun equal => same (congrArg text equal)

def Before (a b : κ) : Prop := text a < text b

instance (a b : κ) : Decidable (Before a b) := inferInstanceAs (Decidable (text a < text b))

theorem not_before_self (a : κ) : ¬ Before a a := String.lt_irrefl _

theorem Before.trans {a b c : κ} (first : Before a b) (second : Before b c) : Before a c :=
  String.lt_trans first second

theorem Before.ne {a b : κ} (before : Before a b) : a ≠ b := by
  rintro rfl
  exact not_before_self _ before

theorem eq_of_not_before {a b : κ} (left : ¬ Before a b) (right : ¬ Before b a) : a = b :=
  text_injective (String.le_antisymm (String.not_lt.1 right) (String.not_lt.1 left))

end Key

/-- Values filed under keys, in the order of the keys. -/
structure Directory (κ α : Type) [Key κ] where
  entries : List (κ × α)
  ascending : entries.Pairwise fun a b => Key.Before a.1 b.1

namespace Directory

variable {κ α : Type} [Key κ]

@[ext] theorem ext {d e : Directory κ α} (same : d.entries = e.entries) : d = e := by
  cases d
  cases e
  cases same
  rfl

instance [DecidableEq α] : DecidableEq (Directory κ α) := fun d e =>
  if same : d.entries = e.entries then isTrue (ext same)
  else isFalse fun equal => same (congrArg entries equal)

def empty : Directory κ α := ⟨[], .nil⟩

instance : EmptyCollection (Directory κ α) := ⟨empty⟩

instance : Inhabited (Directory κ α) := ⟨empty⟩

/-- The value that a list of entries files under a key. -/
def lookup (k : κ) : List (κ × α) → Option α
  | [] => none
  | (k', a) :: rest => if k' = k then some a else lookup k rest

def get? (d : Directory κ α) (k : κ) : Option α := lookup k d.entries

def contains (d : Directory κ α) (k : κ) : Bool := (d.get? k).isSome

def values (d : Directory κ α) : List α := d.entries.map (·.2)

/-- Files a value in an ascending list of entries, in place of the key's old one. -/
def place (k : κ) (a : α) : List (κ × α) → List (κ × α)
  | [] => [(k, a)]
  | (k', a') :: rest =>
    if Key.Before k k' then (k, a) :: (k', a') :: rest
    else if k' = k then (k, a) :: rest
    else (k', a') :: place k a rest

theorem mem_place {k : κ} {a : α} {entry : κ × α} {entries : List (κ × α)}
    (member : entry ∈ place k a entries) : entry = (k, a) ∨ entry ∈ entries := by
  induction entries with
  | nil => simpa [place] using member
  | cons head rest ih =>
    obtain ⟨k', a'⟩ := head
    rw [place] at member
    split at member
    · simpa using member
    · split at member
      · rcases List.mem_cons.1 member with same | later
        · exact Or.inl same
        · exact Or.inr (List.mem_cons_of_mem _ later)
      · rcases List.mem_cons.1 member with same | later
        · exact Or.inr (same ▸ List.mem_cons_self)
        · rcases ih later with same | old
          · exact Or.inl same
          · exact Or.inr (List.mem_cons_of_mem _ old)

theorem place_ascending {k : κ} {a : α} {entries : List (κ × α)}
    (ascending : entries.Pairwise fun x y => Key.Before x.1 y.1) :
    (place k a entries).Pairwise fun x y => Key.Before x.1 y.1 := by
  induction entries with
  | nil => simp [place]
  | cons head rest ih =>
    obtain ⟨k', a'⟩ := head
    have head_before := (List.pairwise_cons.1 ascending).1
    have rest_ascending := (List.pairwise_cons.1 ascending).2
    rw [place]
    split
    · rename_i before
      refine List.pairwise_cons.2 ⟨fun entry member => ?_, ascending⟩
      rcases List.mem_cons.1 member with same | later
      · exact same ▸ before
      · exact Key.Before.trans before (head_before entry later)
    · split
      · rename_i same
        subst same
        exact List.pairwise_cons.2 ⟨head_before, rest_ascending⟩
      · rename_i not_before different
        refine List.pairwise_cons.2 ⟨fun entry member => ?_, ih rest_ascending⟩
        rcases mem_place member with same | old
        · subst same
          exact Decidable.byContradiction fun not_after =>
            different (Key.eq_of_not_before not_after not_before)
        · exact head_before entry old

/-- Files a value under a key, in place of the key's old one. -/
def insert (d : Directory κ α) (k : κ) (a : α) : Directory κ α :=
  ⟨place k a d.entries, place_ascending d.ascending⟩

def erase (d : Directory κ α) (k : κ) : Directory κ α :=
  ⟨d.entries.filter fun entry => entry.1 ≠ k, d.ascending.filter _⟩

/-- Files each value of a list under its own key, later values in place of earlier ones. -/
def ofList (key : α → κ) (values : List α) : Directory κ α :=
  values.foldl (fun d a => d.insert (key a) a) empty

/-! ### Lookups -/

theorem lookup_place (k k' : κ) (a : α) (entries : List (κ × α)) :
    lookup k' (place k a entries) = if k = k' then some a else lookup k' entries := by
  induction entries with
  | nil => simp [place, lookup]
  | cons head rest ih =>
    obtain ⟨k₀, a₀⟩ := head
    rw [place]
    split
    · simp [lookup]
    · split
      · rename_i same
        subst same
        by_cases equal : k₀ = k' <;> simp [lookup, equal]
      · rename_i different
        by_cases equal : k₀ = k'
        · subst equal
          simp [lookup, Ne.symm different]
        · simp [lookup, equal, ih]

theorem lookup_filter_ne (k k' : κ) (entries : List (κ × α)) :
    lookup k' (entries.filter fun entry => entry.1 ≠ k) =
      if k = k' then none else lookup k' entries := by
  induction entries with
  | nil => simp [lookup]
  | cons head rest ih =>
    obtain ⟨k₀, a₀⟩ := head
    by_cases dropped : k₀ = k
    · subst dropped
      by_cases equal : k₀ = k' <;> simp_all [lookup]
    · by_cases equal : k₀ = k'
      · subst equal
        simp [lookup, dropped, Ne.symm dropped]
      · simp_all [lookup]

@[simp] theorem get?_empty (k : κ) : (empty : Directory κ α).get? k = none := rfl

theorem get?_insert (d : Directory κ α) (k k' : κ) (a : α) :
    (d.insert k a).get? k' = if k = k' then some a else d.get? k' :=
  lookup_place k k' a d.entries

theorem get?_erase (d : Directory κ α) (k k' : κ) :
    (d.erase k).get? k' = if k = k' then none else d.get? k' :=
  lookup_filter_ne k k' d.entries

theorem lookup_eq_some_iff {entries : List (κ × α)}
    (ascending : entries.Pairwise fun x y => Key.Before x.1 y.1) {k : κ} {a : α} :
    lookup k entries = some a ↔ (k, a) ∈ entries := by
  induction entries with
  | nil => simp [lookup]
  | cons head rest ih =>
    obtain ⟨k', a'⟩ := head
    have head_before := (List.pairwise_cons.1 ascending).1
    rw [lookup]
    by_cases equal : k' = k
    · subst equal
      have absent : (k', a) ∉ rest := fun member =>
        Key.not_before_self k' (head_before _ member)
      simp [absent, eq_comm]
    · simp [equal, Ne.symm equal, ih (List.pairwise_cons.1 ascending).2]

theorem get?_eq_some_iff {d : Directory κ α} {k : κ} {a : α} :
    d.get? k = some a ↔ (k, a) ∈ d.entries :=
  lookup_eq_some_iff d.ascending

theorem mem_values_iff {d : Directory κ α} {a : α} :
    a ∈ d.values ↔ ∃ k, d.get? k = some a := by
  simp [values, get?_eq_some_iff]

/-- Two directories with the same lookups are the same. -/
theorem ext_get? {d e : Directory κ α} (same : ∀ k, d.get? k = e.get? k) : d = e := by
  have same_members : ∀ entry, entry ∈ d.entries ↔ entry ∈ e.entries := by
    rintro ⟨k, a⟩
    rw [← get?_eq_some_iff, ← get?_eq_some_iff, same]
  have distinct : ∀ f : Directory κ α, f.entries.Nodup := fun f =>
    f.ascending.imp fun before equal => before.ne (congrArg Prod.fst equal)
  have perm : d.entries.Perm e.entries :=
    (List.perm_ext_iff_of_nodup (distinct d) (distinct e)).2 same_members
  refine ext (perm.eq_of_pairwise ?_ d.ascending e.ascending)
  intro a b _ _ before after
  exact absurd (before.trans after) (Key.not_before_self _)

end Directory

end ArbitratedEscrow
