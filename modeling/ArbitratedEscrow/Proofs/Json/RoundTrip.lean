import ArbitratedEscrow.Json.Tree
import ArbitratedEscrow.Proofs.Json.Token

/-!
# Values come back from their texts

The text of a value spells the value's tree: first the characters are read as
the tokens of the tree (`yields_write`), then the tree is built from its tokens
(`Tree.build_tokens`). Doubles are left out, since they are not spelled by
their digits alone.
-/

namespace ArbitratedEscrow.Json

/-! ### Trees and their tokens -/

namespace Tree

mutual

def tokens : Tree → List Token
  | null => [.null]
  | bool b => [.bool b]
  | number n => [.number n]
  | text s => [.text s]
  | array [] => [.openArray, .closeArray]
  | array (item :: items) => .openArray :: tokens item ++ itemTokens items
  | object [] => [.openObject, .closeObject]
  | object ((name, value) :: members) =>
    .openObject :: .text name :: .colon :: tokens value ++ memberTokens members

def itemTokens : List Tree → List Token
  | [] => [.closeArray]
  | item :: items => .comma :: tokens item ++ itemTokens items

def memberTokens : List (Option String × Tree) → List Token
  | [] => [.closeObject]
  | (name, value) :: members =>
    .comma :: .text name :: .colon :: tokens value ++ memberTokens members

end

/-- The first item of an array is read like any other value. -/
theorem build_firstItem (tree : Tree) (around : List Unclosed) (rest : List Token) :
    build .firstItem around (tree.tokens ++ rest) =
      build .value (.array [] :: around) (tree.tokens ++ rest) := by
  cases tree with
  | null | bool | number | text => simp only [tokens, List.cons_append, build]
  | array items => cases items <;> simp only [tokens, List.cons_append, build]
  | object members => rcases members with _ | ⟨⟨name, value⟩, members⟩ <;>
      simp only [tokens, List.cons_append, build]

mutual

/-- A tree is built from its tokens, whatever is around it and comes after it. -/
theorem build_tokens (around : List Unclosed) (rest : List Token) : ∀ tree : Tree,
    build .value around (tree.tokens ++ rest) = build (.after tree) around rest
  | null | bool _ | number _ | text _ | array [] | object [] => by
    simp only [tokens, List.cons_append, List.nil_append, build]
  | array (item :: items) => by
    rw [tokens, List.append_assoc, List.cons_append, build, build_firstItem,
      build_tokens _ _ item, build_itemTokens]
    rfl
  | object ((name, value) :: members) => by
    rw [tokens]
    simp only [List.cons_append, List.append_assoc, build]
    rw [build_tokens _ _ value, build_memberTokens]
    rfl

/-- Further items are put after those that were read, here in reverse. -/
theorem build_itemTokens (around : List Unclosed) (rest : List Token) (item : Tree)
    (before : List Tree) : ∀ items : List Tree,
    build (.after item) (.array before :: around) (itemTokens items ++ rest) =
      build (.after (.array ((item :: before).reverse ++ items))) around rest
  | [] => by simp only [itemTokens, List.cons_append, List.nil_append, build, List.append_nil]
  | next :: items => by
    rw [itemTokens, List.append_assoc, List.cons_append, build, build_tokens _ _ next,
      build_itemTokens _ _ _ _ items, List.reverse_cons, List.append_assoc]
    rfl

theorem build_memberTokens (around : List Unclosed) (rest : List Token) (name : Option String)
    (value : Tree) (before : List (Option String × Tree)) :
    ∀ members : List (Option String × Tree),
    build (.after value) (.object before name :: around) (memberTokens members ++ rest) =
      build (.after (.object (((name, value) :: before).reverse ++ members))) around rest
  | [] => by simp only [memberTokens, List.cons_append, List.nil_append, build, List.append_nil]
  | (nextName, next) :: members => by
    rw [memberTokens]
    simp only [List.cons_append, List.append_assoc, build]
    rw [build_tokens _ _ next, build_memberTokens _ _ _ _ _ members, List.reverse_cons,
      List.append_assoc]
    rfl

end

end Tree

/-! ### Texts and their tokens -/

/-- Whether a text starts with some tokens, in no fewer characters, and goes on with a rest. -/
structure Yields (s : List Char) (tokens : List Token) (rest : List Char) : Prop where
  reads : ∀ fuel, readTokens (tokens.length + fuel) s = (readTokens fuel rest).map (tokens ++ ·)
  longer : tokens.length + rest.length ≤ s.length

namespace Yields

variable {s middle rest : List Char} {c : Char} {token : Token} {tokens more : List Token}

theorem refl (s : List Char) : Yields s [] s where
  reads fuel := by simp
  longer := by simp

theorem trans (first : Yields s tokens middle) (second : Yields middle more rest) :
    Yields s (tokens ++ more) rest where
  reads fuel := by
    rw [List.length_append, Nat.add_assoc, first.reads, second.reads, Option.map_map]
    congr 1
    funext later
    exact (List.append_assoc ..).symm
  longer := by
    have front := first.longer
    have back := second.longer
    rw [List.length_append]
    omega

theorem cons (visible : isSpace c = false) (reads : Token.read (c :: s) = some (token, middle))
    (goes_on : middle <:+ s) (later : Yields middle tokens rest) :
    Yields (c :: s) (token :: tokens) rest where
  reads fuel := by
    have start : (c :: s).dropWhile isSpace = c :: s := by
      rw [List.dropWhile_cons, visible]
      rfl
    rw [List.length_cons, Nat.add_right_comm, readTokens, start]
    simp only [reads, later.reads, Option.bind_eq_bind, Option.bind_some]
    cases readTokens fuel rest <;> rfl
  longer := by
    have back := later.longer
    have shorter := goes_on.length_le
    rw [List.length_cons, List.length_cons]
    omega

/-- The tokens of a text that spells nothing after them. -/
theorem tokens_eq (yields : Yields s tokens []) : Json.tokens s = some tokens := by
  -- each token has taken a character, so that the fuel is not used up
  obtain ⟨spare, enough⟩ : ∃ spare, s.length + 1 = tokens.length + (spare + 1) :=
    ⟨s.length - tokens.length, by have := yields.longer; omega⟩
  rw [Json.tokens, enough, yields.reads]
  simp [readTokens]

end Yields

/-! ### Values and their texts -/

variable {rest after : List Char} {tokens : List Token}

theorem yields_quote (s : String) (later : Yields rest tokens after) :
    Yields (quote s.toList ++ rest) (.text (some s) :: tokens) after := by
  have text : quote s.toList ++ rest = '"' :: (s.toList.flatMap escape ++ '"' :: rest) := by
    simp only [quote, List.cons_append, List.append_assoc, List.nil_append]
  have reads : Token.read ('"' :: (s.toList.flatMap escape ++ '"' :: rest)) =
      some (.text (some s), rest) := by
    simp only [Token.read, readString_quote, String.ofList_toList]
    rfl
  rw [text]
  exact .cons rfl reads ⟨s.toList.flatMap escape ++ ['"'], by simp⟩ later

theorem yields_name (name : String) (later : Yields rest tokens after) :
    Yields (quote name.toList ++ ':' :: rest) (.text (some name) :: .colon :: tokens) after := by
  have colon : Yields (':' :: rest) (.colon :: tokens) after := .cons rfl rfl ⟨[], rfl⟩ later
  exact yields_quote name colon

/-- What starts like a number is read as one. -/
theorem read_number {c : Char} (starts : c = '-' ∨ c.isDigit = true) (s : List Char) :
    Token.read (c :: s) =
      (Number.read (c :: s)).map fun (number, after) => (.number number, after) := by
  have other : ∀ d : Char, d ≠ '-' → d.isDigit = false → c ≠ d := by
    rintro d sign digit rfl
    rcases starts with minus | also
    · exact sign minus
    · cases digit.symm.trans also
  rw [Token.read]
  all_goals
    rintro _ ⟨⟩
    exact other _ (by decide) (by decide) rfl

theorem yields_int (n : Int) (ends : Number.Ends rest) (later : Yields rest tokens after) :
    Yields (Text.signedDigits n ++ rest) (.number (.ofInt n) :: tokens) after := by
  have read := Number.read_signedDigits n ends
  obtain ⟨c, cs, spelled, starts⟩ : ∃ c cs, Text.signedDigits n = c :: cs ∧
      (c = '-' ∨ c.isDigit = true) := by
    obtain ⟨d, ds, spelled⟩ := List.exists_cons_of_ne_nil (Text.digits_ne_nil n.natAbs)
    rw [Text.signedDigits]
    split_ifs
    · exact ⟨_, _, rfl, Or.inl rfl⟩
    · exact ⟨d, ds, spelled, Or.inr (Text.isDigit_of_mem_digits (spelled ▸ List.mem_cons_self))⟩
  rw [spelled, List.cons_append] at read ⊢
  have reads : Token.read (c :: (cs ++ rest)) = some (.number (.ofInt n), rest) := by
    rw [read_number starts, read]
    rfl
  have visible : isSpace c = false := by
    rcases starts with rfl | digit
    · rfl
    · refine Bool.eq_false_iff.mpr fun space => ?_
      simp only [isSpace, Bool.or_eq_true, beq_iff_eq] at space
      -- none of the four blanks is a digit
      rcases space with ((rfl | rfl) | rfl) | rfl <;> cases digit
  exact .cons visible reads ⟨cs, rfl⟩ later

mutual

/-- What the text of a value spells, unless the value holds a double. -/
def tree? : Json → Option Tree
  | .null => some .null
  | .bool b => some (.bool b)
  | .int n => some (.number (.ofInt n))
  | .double _ => none
  | .string s => some (.text (some s))
  | .array items => (itemTrees? items).map .array
  | .object members => (memberTrees? members).map .object

def itemTrees? : List Json → Option (List Tree)
  | [] => some []
  | item :: items => do return (← tree? item) :: (← itemTrees? items)

def memberTrees? : List (String × Json) → Option (List (Option String × Tree))
  | [] => some []
  | (name, value) :: members => do
    return (some name, ← tree? value) :: (← memberTrees? members)

end

theorem itemTrees?_cons {item : Json} {items : List Json} {trees : List Tree}
    (spelled : itemTrees? (item :: items) = some trees) :
    ∃ first others, item.tree? = some first ∧ itemTrees? items = some others ∧
      trees = first :: others := by
  simp only [itemTrees?, Option.bind_eq_bind, Option.bind_eq_some_iff, Option.pure_def,
    Option.some.injEq] at spelled
  obtain ⟨first, first_spelled, others, others_spelled, rfl⟩ := spelled
  exact ⟨first, others, first_spelled, others_spelled, rfl⟩

theorem memberTrees?_cons {name : String} {value : Json} {members : List (String × Json)}
    {trees : List (Option String × Tree)}
    (spelled : memberTrees? ((name, value) :: members) = some trees) :
    ∃ first others, value.tree? = some first ∧ memberTrees? members = some others ∧
      trees = (some name, first) :: others := by
  simp only [memberTrees?, Option.bind_eq_bind, Option.bind_eq_some_iff, Option.pure_def,
    Option.some.injEq] at spelled
  obtain ⟨first, first_spelled, others, others_spelled, rfl⟩ := spelled
  exact ⟨first, others, first_spelled, others_spelled, rfl⟩

theorem ends_writeItems (items : List Json) (rest : List Char) :
    Number.Ends (writeItems items ++ rest) := by
  intro c head
  cases items with
  | nil => cases head; decide
  | cons item items => rw [writeItems] at head; cases head; decide

theorem ends_writeMembers (members : List (String × Json)) (rest : List Char) :
    Number.Ends (writeMembers members ++ rest) := by
  intro c head
  cases members with
  | nil => cases head; decide
  | cons member members => rw [writeMembers] at head; cases head; decide

mutual

/-- The text of a value starts with the tokens of the value's tree. -/
theorem yields_write (rest : List Char) (ends : Number.Ends rest) : ∀ (value : Json) {tree : Tree},
    value.tree? = some tree → Yields (value.write ++ rest) tree.tokens rest
  | .null, _, rfl => .cons rfl rfl ⟨['u', 'l', 'l'], rfl⟩ (.refl rest)
  | .bool true, _, rfl => .cons rfl rfl ⟨['r', 'u', 'e'], rfl⟩ (.refl rest)
  | .bool false, _, rfl => .cons rfl rfl ⟨['a', 'l', 's', 'e'], rfl⟩ (.refl rest)
  | .int n, _, rfl => yields_int n ends (.refl rest)
  | .string s, _, rfl => yields_quote s (.refl rest)
  | .array [], _, rfl => .cons rfl rfl ⟨[], rfl⟩ (.cons rfl rfl ⟨[], rfl⟩ (.refl rest))
  | .object [], _, rfl => .cons rfl rfl ⟨[], rfl⟩ (.cons rfl rfl ⟨[], rfl⟩ (.refl rest))
  | .array (item :: items), tree, spelled => by
    obtain ⟨trees, all_spelled, rfl⟩ := Option.map_eq_some_iff.mp spelled
    obtain ⟨first, others, first_spelled, others_spelled, rfl⟩ := itemTrees?_cons all_spelled
    have later := (yields_write _ (ends_writeItems items rest) item first_spelled).trans
      (yields_writeItems rest items others_spelled)
    simp only [write, List.cons_append, List.append_assoc]
    exact .cons rfl rfl ⟨[], rfl⟩ later
  | .object ((name, value) :: members), tree, spelled => by
    obtain ⟨trees, all_spelled, rfl⟩ := Option.map_eq_some_iff.mp spelled
    obtain ⟨first, others, first_spelled, others_spelled, rfl⟩ := memberTrees?_cons all_spelled
    have later := (yields_write _ (ends_writeMembers members rest) value first_spelled).trans
      (yields_writeMembers rest members others_spelled)
    simp only [write, List.cons_append, List.append_assoc]
    exact .cons rfl rfl ⟨[], rfl⟩ (yields_name name later)

theorem yields_writeItems (rest : List Char) : ∀ (items : List Json) {trees : List Tree},
    itemTrees? items = some trees → Yields (writeItems items ++ rest) (Tree.itemTokens trees) rest
  | [], _, rfl => .cons rfl rfl ⟨[], rfl⟩ (.refl rest)
  | item :: items, trees, spelled => by
    obtain ⟨first, others, first_spelled, others_spelled, rfl⟩ := itemTrees?_cons spelled
    have later := (yields_write _ (ends_writeItems items rest) item first_spelled).trans
      (yields_writeItems rest items others_spelled)
    simp only [writeItems, List.cons_append, List.append_assoc]
    exact .cons rfl rfl ⟨[], rfl⟩ later

theorem yields_writeMembers (rest : List Char) : ∀ (members : List (String × Json))
    {trees : List (Option String × Tree)}, memberTrees? members = some trees →
      Yields (writeMembers members ++ rest) (Tree.memberTokens trees) rest
  | [], _, rfl => .cons rfl rfl ⟨[], rfl⟩ (.refl rest)
  | (name, value) :: members, trees, spelled => by
    obtain ⟨first, others, first_spelled, others_spelled, rfl⟩ := memberTrees?_cons spelled
    have later := (yields_write _ (ends_writeMembers members rest) value first_spelled).trans
      (yields_writeMembers rest members others_spelled)
    simp only [writeMembers, List.cons_append, List.append_assoc]
    exact .cons rfl rfl ⟨[], rfl⟩ (yields_name name later)

end

/-- The tree of a text that starts with the tree's tokens and ends after them. -/
theorem parse_of_yields {s : List Char} {tree : Tree} (yields : Yields s tree.tokens []) :
    Tree.parse s = some tree := by
  have built := tree.build_tokens [] []
  rw [List.append_nil] at built
  rw [Tree.parse, yields.tokens_eq, Option.bind_some, built, Tree.build]

/-- The text of a value is parsed as the value's tree. -/
theorem parse_write {value : Json} {tree : Tree} (spelled : value.tree? = some tree) :
    Tree.parse value.write = some tree := by
  have yields := yields_write [] (by rintro c ⟨⟩) value spelled
  rw [List.append_nil] at yields
  exact parse_of_yields yields

end ArbitratedEscrow.Json
