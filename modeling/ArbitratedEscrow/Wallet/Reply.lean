import ArbitratedEscrow.Error
import ArbitratedEscrow.Json.Tree

/-!
# Replies of the wallet

The wallet answers with a JSON record: a status, `ok` or `error`, and possibly a
message and data. `Reply.parse` reads one and turns an `error` into an error of
the library. Fields without a value are not written.
-/

namespace ArbitratedEscrow.Wallet

inductive ReplyStatus where
  | ok
  | error
deriving DecidableEq, Repr

namespace ReplyStatus

def name : ReplyStatus → String
  | ok => "ok"
  | error => "error"

def ofName? (name : String) : Option ReplyStatus :=
  if name = "ok" then some ok else if name = "error" then some error else none

end ReplyStatus

structure Reply where
  status : ReplyStatus
  message : Option String := none
  data : Option Json := none

namespace Reply

def accepted (data : Option Json) : Reply := { status := .ok, data }

def refused (message : String) : Reply := { status := .error, message := some message }

/-- How many arrays and objects the data of a reply may have inside each other. -/
def dataDepth : Nat := 126

/-- A field that may be missing or null. -/
def optionalField {α : Type} (read : Json.Tree → Option α) :
    Option Json.Tree → Option (Option α)
  | none => some none
  | some .null => some none
  | some tree => (read tree).map some

/-- The reply that a JSON tree holds. -/
def ofTree? (tree : Json.Tree) : Option Reply := do
  match ← tree.fields ["status", "message", "data"] with
  | [some status, message, data] =>
    return {
      status := ← status.asName.bind ReplyStatus.ofName?
      message := ← optionalField Json.Tree.asString message
      data := ← optionalField (Json.Tree.toJson dataDepth) data }
  | _ => none

def toJson (reply : Reply) : Json :=
  .object <|
    [("status", .string reply.status.name)] ++
      (reply.message.map fun m => ("message", Json.string m)).toList ++
      (reply.data.map fun d => ("data", d)).toList

def text (reply : Reply) : String := reply.toJson.compact

/-- Reads a reply. An error status is an error with the wallet's message. -/
def parse (raw : String) : Except EscrowError Reply :=
  match (Json.Tree.parse raw.toList).bind ofTree? with
  | none => .error .serialization
  | some reply =>
    match reply.status with
    | .ok => .ok reply
    | .error => .error (.wallet (reply.message.getD "unknown wallet error"))

end Reply

end ArbitratedEscrow.Wallet
