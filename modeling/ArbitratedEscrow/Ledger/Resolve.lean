import ArbitratedEscrow.Ledger.Basic

/-!
# Short forms of contract identifiers

A contract can be named by any text that its identifier starts with, as long as
no other contract's does. Lists show the first twelve bytes of an identifier.
-/

namespace ArbitratedEscrow

namespace ContractId

def startsWith (id : ContractId) (start : String) : Bool :=
  start.toList.isPrefixOf id.text.toList

theorem startsWith_iff {id : ContractId} {start : String} :
    id.startsWith start = true ↔ start.toList <+: id.text.toList :=
  List.isPrefixOf_iff_prefix

/-- The characters at the start of a text that take a number of bytes, if some do. -/
def takeBytes : Nat → List Char → Option (List Char)
  | 0, _ => some []
  | _, [] => none
  | bytes, c :: rest =>
    if c.utf8Size ≤ bytes then (takeBytes (bytes - c.utf8Size) rest).map (c :: ·) else none

/-- The first twelve bytes, or the whole identifier if it is shorter or a character would be cut. -/
def short (id : ContractId) : String :=
  match takeBytes 12 id.text.toList with
  | some start => String.ofList start
  | none => id.text

end ContractId

namespace Ledger

def startingWith (ledger : Ledger) (start : String) : List ContractId :=
  (ledger.contractList.map Contract.id).filter fun id => id.startsWith start

/-- The only contract whose identifier starts with a text. -/
def resolve (ledger : Ledger) (start : String) : Except EscrowError ContractId :=
  match ledger.startingWith start with
  | [id] => .ok id
  | [] => .error (.contractNotFound ⟨start⟩)
  | several => .error (.invalidState (.ambiguousStart start several.length))

theorem resolve_eq_ok_iff {ledger : Ledger} {start : String} {id : ContractId} :
    ledger.resolve start = .ok id ↔ ledger.startingWith start = [id] := by
  unfold resolve
  split <;> simp_all

end Ledger

end ArbitratedEscrow
