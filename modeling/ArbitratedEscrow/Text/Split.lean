/-!
# Parts of a text

`split` cuts a text at each occurrence of a mark, so that no part holds the mark.
Parts without the mark that are joined by it are found again.
-/

namespace ArbitratedEscrow.Text

/-- The parts of a text between marks, of which there is at least one. -/
def split (mark : Char) : List Char → List (List Char)
  | [] => [[]]
  | c :: rest =>
    if c = mark then [] :: split mark rest
    else
      match split mark rest with
      | [] => [[c]]
      | part :: parts => (c :: part) :: parts

def join (mark : Char) : List (List Char) → List Char
  | [] => []
  | [part] => part
  | part :: parts => part ++ mark :: join mark parts

theorem split_eq_splitOn (mark : Char) (s : List Char) : split mark s = s.splitOn mark := by
  induction s with
  | nil => rfl
  | cons c rest ih =>
    rw [split, List.splitOn_cons_eq_if_modifyHead, ih]
    simp only [beq_iff_eq]
    split
    · rfl
    · split
      · rename_i empty
        exact absurd empty (List.splitOn_ne_nil mark rest)
      · rename_i shape
        rw [shape, List.modifyHead_cons]

theorem join_eq_intercalate (mark : Char) (parts : List (List Char)) :
    join mark parts = [mark].intercalate parts := by
  fun_induction join mark parts with
  | case1 => rfl
  | case2 => exact List.intercalate_singleton.symm
  | case3 part parts more ih =>
    have later : parts ≠ [] := fun none => more none
    rw [List.intercalate_cons_of_ne_nil later, ih, List.append_assoc, List.singleton_append]

theorem split_join {mark : Char} {parts : List (List Char)} (some : parts ≠ [])
    (free : ∀ part ∈ parts, mark ∉ part) : split mark (join mark parts) = parts := by
  rw [split_eq_splitOn, join_eq_intercalate]
  exact List.splitOn_intercalate mark free some

theorem not_mem_of_mem_split {mark : Char} {s part : List Char} (member : part ∈ split mark s) :
    mark ∉ part := by
  induction s generalizing part with
  | nil => simp_all [split]
  | cons c rest ih =>
    rw [split] at member
    split at member
    · rcases List.mem_cons.1 member with same | later
      · simp [same]
      · exact ih later
    · rename_i different
      split at member
      · rw [List.mem_singleton.1 member, List.mem_singleton]
        exact Ne.symm different
      · rename_i head parts shape
        rcases List.mem_cons.1 member with same | later
        · subst same
          intro found
          rcases List.mem_cons.1 found with equal | inside
          · exact different equal.symm
          · exact ih (shape ▸ List.mem_cons_self) inside
        · exact ih (shape ▸ List.mem_cons_of_mem _ later)

end ArbitratedEscrow.Text
