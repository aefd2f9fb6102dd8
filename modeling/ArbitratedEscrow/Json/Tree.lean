import ArbitratedEscrow.Json.Basic
import ArbitratedEscrow.Json.Token

/-!
# What a JSON text spells

A tree keeps numbers as they are spelled, all members of an object in their
order, and strings that are no text. `Tree.parse` accepts a text if and only if
it is one JSON value between blanks, at any depth. Readers of trees decide which
numbers, members and strings they take: a field that nobody asks for may hold
anything.
-/

namespace ArbitratedEscrow.Json

inductive Tree where
  | null
  | bool (b : Bool)
  | number (n : Number)
  | text (s : Option String)
  | array (items : List Tree)
  | object (members : List (Option String × Tree))
deriving Inhabited

namespace Tree

/-! ### Building trees from tokens -/

inductive Unclosed where
  | array (items : List Tree)
  | object (members : List (Option String × Tree)) (name : Option String)

inductive Expecting where
  | value
  | firstItem
  | firstName
  | name (members : List (Option String × Tree))
  | after (value : Tree)

/-- Reads the rest of a value from tokens, inside the unclosed arrays and objects around it. -/
def build : Expecting → List Unclosed → List Token → Option Tree
  | .after v, [], [] => some v
  | .after v, .array items :: around, .comma :: rest =>
    build .value (.array (v :: items) :: around) rest
  | .after v, .array items :: around, .closeArray :: rest =>
    build (.after (.array (v :: items).reverse)) around rest
  | .after v, .object members name :: around, .comma :: rest =>
    build (.name ((name, v) :: members)) around rest
  | .after v, .object members name :: around, .closeObject :: rest =>
    build (.after (.object ((name, v) :: members).reverse)) around rest
  | .firstItem, around, .closeArray :: rest => build (.after (.array [])) around rest
  | .firstName, around, .closeObject :: rest => build (.after (.object [])) around rest
  | .firstName, around, .text name :: .colon :: rest =>
    build .value (.object [] name :: around) rest
  | .name members, around, .text name :: .colon :: rest =>
    build .value (.object members name :: around) rest
  | .value, around, .null :: rest => build (.after .null) around rest
  | .value, around, .bool b :: rest => build (.after (.bool b)) around rest
  | .value, around, .number n :: rest => build (.after (.number n)) around rest
  | .value, around, .text s :: rest => build (.after (.text s)) around rest
  | .value, around, .openArray :: rest => build .firstItem around rest
  | .value, around, .openObject :: rest => build .firstName around rest
  | .firstItem, around, .null :: rest => build (.after .null) (.array [] :: around) rest
  | .firstItem, around, .bool b :: rest => build (.after (.bool b)) (.array [] :: around) rest
  | .firstItem, around, .number n :: rest => build (.after (.number n)) (.array [] :: around) rest
  | .firstItem, around, .text s :: rest => build (.after (.text s)) (.array [] :: around) rest
  | .firstItem, around, .openArray :: rest => build .firstItem (.array [] :: around) rest
  | .firstItem, around, .openObject :: rest => build .firstName (.array [] :: around) rest
  | _, _, _ => none

def parse (s : List Char) : Option Tree := (tokens s).bind (build .value [])

/-! ### Reading trees -/

def wholeNumber? (n : Number) : Option Nat :=
  match n.fraction, n.exponent with
  | none, none => some (Text.ofDigits n.whole)
  | _, _ => none

def asString : Tree → Option String
  | .text s => s
  | _ => none

def asBool : Tree → Option Bool
  | .bool b => some b
  | _ => none

/-- A whole number below `2 ^ 64` without a sign. -/
def asAmount : Tree → Option UInt64
  | .number n =>
    if n.negative then none
    else do
      let v ← wholeNumber? n
      if v < UInt64.size then some v.toUInt64 else none
  | _ => none

/-- A name: a text, or the one name of an object whose value is null. -/
def asName : Tree → Option String
  | .text s => s
  | .object [(name, .null)] => name
  | _ => none

def member (members : List (Option String × Tree)) (name : String) :
    Option (Option Tree) :=
  match members.filter fun m => m.1 == some name with
  | [] => some none
  | [m] => some (some m.2)
  | _ => none

/--
The fields of a record, in order: the members of an object by name, all of
whose names are texts and where unknown names are skipped, or the items of an
array by position, of which none is left over.
-/
def fields (names : List String) : Tree → Option (List (Option Tree))
  | .object members =>
    if members.all (·.1.isSome) then names.mapM (member members) else none
  | .array items =>
    if items.length ≤ names.length then
      some (items.map some ++ List.replicate (names.length - items.length) none)
    else none
  | _ => none

/-- The fields of a record that has all of them. -/
def allFields (names : List String) (tree : Tree) : Option (List Tree) := do
  (← tree.fields names).mapM id

/-! ### Reading free values -/

/--
The double that a number spells. The digits of the whole part and then those of
the fraction make a 64-bit coefficient; in either part, the first digit that
does not fit and all after it count as places alone.
-/
def doubleOf (n : Number) : Option Binary64 := do
  let fraction := n.fraction.getD []
  let (whole, skippedWhole) := coefficient 0 n.whole
  let (all, skippedFraction) := coefficient whole fraction
  let shift : Int :=
    match n.exponent with
    | none => 0
    | some (true, ds) => -(Text.ofDigits ds : Int)
    | some (false, ds) => Text.ofDigits ds
  let place := (skippedWhole : Int) - (fraction.length - skippedFraction : Nat) + shift
  let magnitude ← Binary64.ofDecimal all.toUInt64 place
  return magnitude.withSign n.negative
where
  /-- Appends digits to a 64-bit coefficient while they fit; how many are left over. -/
  coefficient (start : Nat) : List Char → Nat × Nat
    | [] => (start, 0)
    | d :: ds =>
      let next := start * 10 + (d.toNat - 48)
      if next < UInt64.size then coefficient next ds else (start, ds.length + 1)

/-- An integer from `-2 ^ 63` to below `2 ^ 64` is kept; any other number, and `-0`, is a double. -/
def numberOf (n : Number) : Option Json :=
  match wholeNumber? n with
  | some v =>
    if n.negative then
      if 0 < v ∧ v ≤ Nat.pow 2 63 then some (.int (-(v : Int))) else (doubleOf n).map .double
    else if v < UInt64.size then some (.int v) else (doubleOf n).map .double
  | none => (doubleOf n).map .double

mutual

/--
A free value with at most `depth` arrays and objects inside each other. All its
strings must be texts and its numbers finite.
-/
def toJson (depth : Nat) : Tree → Option Json
  | .null => some .null
  | .bool b => some (.bool b)
  | .number n => numberOf n
  | .text s => s.map .string
  | .array items =>
    match depth with
    | 0 => none
    | depth + 1 => (itemsToJson depth items).map .array
  | .object members =>
    match depth with
    | 0 => none
    | depth + 1 => (membersToJson depth members).map fun ms => .object (sortMembers ms)

def itemsToJson (depth : Nat) : List Tree → Option (List Json)
  | [] => some []
  | item :: items => do
    let value ← toJson depth item
    let values ← itemsToJson depth items
    return value :: values

def membersToJson (depth : Nat) :
    List (Option String × Tree) → Option (List (String × Json))
  | [] => some []
  | (name, item) :: members => do
    let name ← name
    let value ← toJson depth item
    let values ← membersToJson depth members
    return (name, value) :: values

end

end Tree

end ArbitratedEscrow.Json
