import ArbitratedEscrow.Proofs.Json.RoundTrip
import ArbitratedEscrow.Wallet.Rehearsal

/-!
# The rehearsal wallet is understood

A reply without data is read back from its text as it was, so that what the
rehearsal wallet says of a command is what its client hears, whatever the
command is made of.
-/

namespace ArbitratedEscrow.Wallet

namespace Reply

def heard (reply : Reply) : Except EscrowError Reply :=
  match reply.status with
  | .ok => .ok reply
  | .error => .error (.wallet (reply.message.getD "unknown wallet error"))

/-- What the text of a reply without data spells. -/
def bareTree (status : ReplyStatus) (message : Option String) : Json.Tree :=
  .object ((some "status", .text (some status.name)) ::
    (message.map fun m => (some "message", Json.Tree.text (some m))).toList)

theorem ofTree?_bareTree (status : ReplyStatus) (message : Option String) :
    ofTree? (bareTree status message) = some { status, message } := by
  cases status <;> cases message <;> rfl

/-- A reply without data is heard as it was written. -/
theorem parse_text (reply : Reply) (bare : reply.data = none) : parse reply.text = reply.heard := by
  obtain ⟨status, message, data⟩ := reply
  cases bare
  have spelled : (toJson { status, message }).tree? = some (bareTree status message) := by
    cases message <;> rfl
  rw [parse, text, Json.compact, String.toList_ofList, Json.parse_write spelled, Option.bind_some,
    ofTree?_bareTree]
  cases status <;> rfl

end Reply

namespace Rehearsal

theorem bare_reply (rejected : List String) (command : String) (secret : Option Secret) :
    (reply rejected command secret).data = none := by
  rw [reply]
  split
  · rfl
  · split <;> rfl

/--
What the client of a rehearsal wallet hears is what the wallet was told to do:
an empty password is refused whatever else there is, a command with a rejected
start is refused word for word, and everything else is carried out, without a
message or data. The client can always read the reply, and the log gains the
command in each case.
-/
theorem respond_heard (wallet : Rehearsal) (command : String) (secret : Option Secret) :
    let raw := (wallet.respond command secret).1
    ((∃ password, secret = some password ∧ password.raw = "") →
      Reply.parse raw = .error (.wallet "empty password")) ∧
    ((∀ password, secret = some password → password.raw ≠ "") →
      ((∃ start ∈ wallet.rejected, start.toList <+: command.toList) →
        Reply.parse raw = .error (.wallet ("rejected: " ++ command))) ∧
      ((∀ start ∈ wallet.rejected, ¬ start.toList <+: command.toList) →
        Reply.parse raw = .ok { status := .ok, message := none, data := none })) ∧
    Reply.parse raw ≠ .error .serialization ∧
    (wallet.respond command secret).2 = { wallet with log := wallet.log ++ [command] } := by
  intro raw
  have heard : Reply.parse raw = (reply wallet.rejected command secret).heard :=
    Reply.parse_text _ (bare_reply _ _ _)
  have empty : (secret.any fun s => s.raw.isEmpty) = true ↔
      ∃ password, secret = some password ∧ password.raw = "" := by
    simp [Option.any_eq_true]
  have starts : (wallet.rejected.any fun start => start.toList.isPrefixOf command.toList) = true ↔
      ∃ start ∈ wallet.rejected, start.toList <+: command.toList := by
    simp [List.any_eq_true]
  have nonempty : (∀ password, secret = some password → password.raw ≠ "") →
      ¬ (secret.any fun s => s.raw.isEmpty) = true := by
    intro given refused
    obtain ⟨password, comes, nothing⟩ := empty.mp refused
    exact given password comes nothing
  rw [heard, reply]
  refine ⟨fun refused => ?_, fun given => ⟨fun rejected => ?_, fun free => ?_⟩, ?_, rfl⟩
  · rw [if_pos (empty.mpr refused)]
    rfl
  · rw [if_neg (nonempty given), if_pos (starts.mpr rejected)]
    rfl
  · have unrejected : ¬ (wallet.rejected.any fun start =>
        start.toList.isPrefixOf command.toList) = true := by
      intro rejected
      obtain ⟨start, member, front⟩ := starts.mp rejected
      exact free start member front
    rw [if_neg (nonempty given), if_neg unrejected]
    rfl
  · split
    · rintro ⟨⟩
    · split <;> rintro ⟨⟩

/-- A command of quotes, a backslash and controls, which comes back from a rejection as it is. -/
def oddCommand : String := "player add \"a\\b\"\n\x01\x7f"

theorem respond_heard_odd :
    Reply.parse (({ rejected := ["player add"] } : Rehearsal).respond oddCommand
        (some ⟨""⟩)).1 = .error (.wallet "empty password") ∧
      Reply.parse (({ rejected := ["player add"] } : Rehearsal).respond oddCommand
        (some ⟨"secret"⟩)).1 = .error (.wallet ("rejected: " ++ oddCommand)) ∧
      Reply.parse (({ rejected := ["player remove"] } : Rehearsal).respond oddCommand none).1 =
        .ok { status := .ok, message := none, data := none } := by
  obtain ⟨refused, _⟩ := respond_heard { rejected := ["player add"] } oddCommand (some ⟨""⟩)
  obtain ⟨_, given, _⟩ := respond_heard { rejected := ["player add"] } oddCommand (some ⟨"secret"⟩)
  obtain ⟨_, bare, _⟩ := respond_heard { rejected := ["player remove"] } oddCommand none
  refine ⟨refused ⟨_, rfl, rfl⟩, (given ?_).1 ⟨_, List.mem_singleton.mpr rfl, ?_⟩, (bare ?_).2 ?_⟩
  · rintro _ ⟨⟩
    decide
  · decide
  · rintro _ ⟨⟩
  · decide

end Rehearsal

end ArbitratedEscrow.Wallet
