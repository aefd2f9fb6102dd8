import ArbitratedEscrow.Proofs.Json.RoundTrip

/-!
# Values come back from texts in lines

Line breaks and indentation stand in front of tokens only, where blanks do not
count. So a text with one member to a line has the tokens of the text without
blanks, and spells the same tree.
-/

namespace ArbitratedEscrow.Json

variable {s rest : List Char} {tokens : List Token}

theorem readTokens_blanks {blanks : List Char} (all : ∀ c ∈ blanks, isSpace c = true)
    (fuel : Nat) : readTokens fuel (blanks ++ s) = readTokens fuel s := by
  cases fuel with
  | zero => rfl
  | succ fuel => simp only [readTokens, List.dropWhile_append_of_pos all]

theorem Yields.blanks (blanks : List Char) (all : ∀ c ∈ blanks, isSpace c = true)
    (later : Yields s tokens rest) : Yields (blanks ++ s) tokens rest where
  reads fuel := (readTokens_blanks all _).trans (later.reads fuel)
  longer := by
    have shorter := later.longer
    rw [List.length_append]
    omega

theorem Yields.blank (later : Yields s tokens rest) : Yields (' ' :: s) tokens rest :=
  later.blanks [' '] (by simp [isSpace])

theorem isSpace_of_mem_newline {depth : Nat} {c : Char} (member : c ∈ newline depth) :
    isSpace c = true := by
  rcases List.mem_cons.mp member with rfl | blank
  · rfl
  · rw [List.eq_of_mem_replicate blank]
    rfl

theorem Yields.newline (depth : Nat) (later : Yields s tokens rest) :
    Yields (newline depth ++ s) tokens rest :=
  later.blanks _ fun _ => isSpace_of_mem_newline

theorem ends_writeItemLines (depth : Nat) (items : List Json) (rest : List Char) :
    Number.Ends (writeItemLines depth items ++ rest) := by
  intro c head
  cases items with
  | nil => rw [writeItemLines, newline] at head; cases head; decide
  | cons item items => rw [writeItemLines] at head; cases head; decide

theorem ends_writeMemberLines (depth : Nat) (members : List (String × Json)) (rest : List Char) :
    Number.Ends (writeMemberLines depth members ++ rest) := by
  intro c head
  cases members with
  | nil => rw [writeMemberLines, newline] at head; cases head; decide
  | cons member members => rw [writeMemberLines] at head; cases head; decide

mutual

/-- The text of a value in lines starts with the tokens of the value's tree. -/
theorem yields_writeLines (rest : List Char) (ends : Number.Ends rest) (depth : Nat) :
    ∀ (value : Json) {tree : Tree}, value.tree? = some tree →
      Yields (writeLines depth value ++ rest) tree.tokens rest
  | .null, _, spelled => yields_write rest ends .null spelled
  | .bool b, _, spelled => yields_write rest ends (.bool b) spelled
  | .int n, _, spelled => yields_write rest ends (.int n) spelled
  | .string s, _, spelled => yields_write rest ends (.string s) spelled
  | .array [], _, spelled => yields_write rest ends (.array []) spelled
  | .object [], _, spelled => yields_write rest ends (.object []) spelled
  | .array (item :: items), tree, spelled => by
    obtain ⟨trees, all_spelled, rfl⟩ := Option.map_eq_some_iff.mp spelled
    obtain ⟨first, others, first_spelled, others_spelled, rfl⟩ := itemTrees?_cons all_spelled
    have later := (yields_writeLines _ (ends_writeItemLines depth items rest) (depth + 1) item
      first_spelled).trans (yields_writeItemLines rest depth items others_spelled)
    simp only [writeLines, List.cons_append, List.append_assoc]
    exact .cons rfl rfl ⟨[], rfl⟩ (later.newline (depth + 1))
  | .object ((name, value) :: members), tree, spelled => by
    obtain ⟨trees, all_spelled, rfl⟩ := Option.map_eq_some_iff.mp spelled
    obtain ⟨first, others, first_spelled, others_spelled, rfl⟩ := memberTrees?_cons all_spelled
    have later := (yields_writeLines _ (ends_writeMemberLines depth members rest) (depth + 1) value
      first_spelled).trans (yields_writeMemberLines rest depth members others_spelled)
    simp only [writeLines, List.cons_append, List.append_assoc]
    exact .cons rfl rfl ⟨[], rfl⟩ ((yields_name name later.blank).newline (depth + 1))

theorem yields_writeItemLines (rest : List Char) (depth : Nat) : ∀ (items : List Json)
    {trees : List Tree}, itemTrees? items = some trees →
      Yields (writeItemLines depth items ++ rest) (Tree.itemTokens trees) rest
  | [], _, rfl => by
    have close : Yields (']' :: rest) [.closeArray] rest := .cons rfl rfl ⟨[], rfl⟩ (.refl rest)
    simp only [writeItemLines, List.append_assoc]
    exact close.newline depth
  | item :: items, trees, spelled => by
    obtain ⟨first, others, first_spelled, others_spelled, rfl⟩ := itemTrees?_cons spelled
    have later := (yields_writeLines _ (ends_writeItemLines depth items rest) (depth + 1) item
      first_spelled).trans (yields_writeItemLines rest depth items others_spelled)
    simp only [writeItemLines, List.cons_append, List.append_assoc]
    exact .cons rfl rfl ⟨[], rfl⟩ (later.newline (depth + 1))

theorem yields_writeMemberLines (rest : List Char) (depth : Nat) :
    ∀ (members : List (String × Json)) {trees : List (Option String × Tree)},
      memberTrees? members = some trees →
        Yields (writeMemberLines depth members ++ rest) (Tree.memberTokens trees) rest
  | [], _, rfl => by
    have close : Yields ('\x7d' :: rest) [.closeObject] rest := .cons rfl rfl ⟨[], rfl⟩ (.refl rest)
    simp only [writeMemberLines, List.append_assoc]
    exact close.newline depth
  | (name, value) :: members, trees, spelled => by
    obtain ⟨first, others, first_spelled, others_spelled, rfl⟩ := memberTrees?_cons spelled
    have later := (yields_writeLines _ (ends_writeMemberLines depth members rest) (depth + 1) value
      first_spelled).trans (yields_writeMemberLines rest depth members others_spelled)
    simp only [writeMemberLines, List.cons_append, List.append_assoc]
    exact .cons rfl rfl ⟨[], rfl⟩ ((yields_name name later.blank).newline (depth + 1))

end

/-- The text of a value in lines is parsed as the value's tree. -/
theorem parse_writeLines {value : Json} {tree : Tree} (spelled : value.tree? = some tree) :
    Tree.parse (writeLines 0 value) = some tree := by
  have yields := yields_writeLines [] (by rintro c ⟨⟩) 0 value spelled
  rw [List.append_nil] at yields
  exact parse_of_yields yields

end ArbitratedEscrow.Json
