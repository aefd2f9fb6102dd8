import ArbitratedEscrow.Session
import ArbitratedEscrow.Terminal.Dialog

/-!
# A user at work

A scene is a session, the keys that the user types if there is a terminal, and
what has been written so far. An act is something done in a scene. It may fail,
and what it did to the scene until then stays.
-/

namespace ArbitratedEscrow.Terminal

structure Scene where
  session : Session
  keys : Option (List Char)
  out : String := ""
  err : String := ""

abbrev Act (α : Type) := ExceptT EscrowError (StateM Scene) α

namespace Act

def say (line : String) : Act Unit := do
  modify fun scene => { scene with out := scene.out ++ line ++ "\n" }

def sayAll : List String → Act Unit
  | [] => pure ()
  | line :: lines => do
    say line
    sayAll lines

def look {α : Type} (view : Ledger → Except EscrowError α) : Act α := do
  match view (← get).session.desk.ledger with
  | .ok a => return a
  | .error fault => throw fault

def operate (operation : Operation) : Act Answer := do
  let scene ← get
  let (result, session) := scene.session.operate operation
  set { scene with session }
  match result with
  | .ok answer => return answer
  | .error fault => throw fault

/--
Holds a dialog. An act holds at most one, which reads the keys from the first
one on.
-/
def hold {α : Type} (dialog : List Char → Dialog α) : Act α := do
  let scene ← get
  match scene.keys with
  | none => throw (.dialog .noTerminal)
  | some keys =>
    let held := dialog keys
    set { scene with err := scene.err ++ held.drawn }
    match held.answer with
    | .ok a => return a
    | .error fault => throw (.dialog fault)

end Act

end ArbitratedEscrow.Terminal
