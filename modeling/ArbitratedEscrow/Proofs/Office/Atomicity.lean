import ArbitratedEscrow.Proofs.Office.Invariant

/-!
# Wallet and ledger change together

An operation that may ask the wallet asks it once at most, and succeeds as soon
as the wallet has accepted: in a ledger that a run leads to nothing is left that
could go wrong. Otherwise it changes nothing, down to the identifiers that are
still to be drawn, so that a run goes on as if a failed operation had not been.
-/

namespace ArbitratedEscrow

/-- A wallet that also notes what it is asked, with the outcome. -/
def Wallet.recorded {σ : Type} (call : Request → σ → Except EscrowError String × σ)
    (request : Request) (wallet : σ × List (Request × Except EscrowError String)) :
    Except EscrowError String × σ × List (Request × Except EscrowError String) :=
  ((call request wallet.1).1, (call request wallet.1).2,
    wallet.2 ++ [(request, (call request wallet.1).1)])

theorem Wallet.Reply.status_of_parse {text : String} {reply : Wallet.Reply}
    (parsed : Wallet.Reply.parse text = .ok reply) : reply.status = .ok := by
  rw [parse] at parsed
  split at parsed
  · cases parsed
  · split at parsed
    · cases parsed
      assumption
    · cases parsed

namespace Operation

inductive Ending where
  | refused
  | rejected
  | done
  | known

/--
What an ending says about the result, about what the wallet was asked, and about
the desk that is left.
-/
def Ending.Describes (operation : Operation) (desk : Desk) (result : Except EscrowError Answer)
    (asked : List (Wallet.Request × Except EscrowError String)) (left : Desk) : Ending → Prop
  | refused => asked = [] ∧ (∃ fault, result = .error fault) ∧ left = desk
  | rejected =>
    (∃ request outcome fault, asked = [(request, outcome)] ∧
      outcome.bind Wallet.Reply.parse = .error fault ∧ result = .error fault) ∧ left = desk
  | done =>
    (∃ request text reply, asked = [(request, .ok text)] ∧ Wallet.Reply.parse text = .ok reply ∧
      reply.status = .ok) ∧ ∃ answer, result = .ok answer
  | known =>
    asked = [] ∧ (∃ name player, operation = .addPlayer name ∧
      desk.ledger.playerNamed? name = some player ∧ result = .ok (.player player)) ∧ left = desk

def endingOf (result : Except EscrowError Answer)
    (asked : List (Wallet.Request × Except EscrowError String)) : Ending :=
  match asked, result with
  | [], .error _ => .refused
  | [], .ok _ => .known
  | _ :: _, .error _ => .rejected
  | _ :: _, .ok _ => .done

variable {settings : Settings} {now : Instant} {operation : Operation} {desk left : Desk}
  {result : Except EscrowError Answer} {asked : List (Wallet.Request × Except EscrowError String)}

theorem Ending.Describes.eq {ending : Ending}
    (described : ending.Describes operation desk result asked left) :
    ending = endingOf result asked := by
  cases ending with
  | refused =>
    obtain ⟨rfl, ⟨_, rfl⟩, _⟩ := described
    rfl
  | rejected =>
    obtain ⟨⟨_, _, _, rfl, _, rfl⟩, _⟩ := described
    rfl
  | done =>
    obtain ⟨⟨_, _, _, rfl, _⟩, _, rfl⟩ := described
    rfl
  | known =>
    obtain ⟨rfl, ⟨_, _, _, _, rfl⟩, _⟩ := described
    rfl

/-- The course of an operation that may ask the wallet has one of the endings. -/
theorem Course.ending {σ : Type} {call : Wallet.Request → σ → Except EscrowError String × σ}
    {wallet : σ} {ran : Except EscrowError Answer ×
      (σ × List (Wallet.Request × Except EscrowError String)) × Desk}
    (asks : operation.asksWallet = true)
    (course : operation.Course (Wallet.recorded call) settings now (wallet, []) desk ran) :
    ∃ ending : Ending, ending.Describes operation desk ran.1 ran.2.1.2 ran.2.2 := by
  cases course with
  | refused => exact ⟨.refused, rfl, ⟨_, rfl⟩, rfl⟩
  | settled settles =>
    cases settles with
    | look looks =>
      rw [looks_of_asksWallet asks] at looks
      cases looks
    | select _ => cases asks
    | known named => exact ⟨.known, rfl, ⟨_, _, rfl, named, rfl⟩, rfl⟩
  | rejected grants rejects => exact ⟨.rejected, ⟨_, _, _, rfl, rejects, rfl⟩, rfl⟩
  | @done request _ _ _ _ grants accepts move =>
    cases outcome : (call request wallet).1 with
    | error fault =>
      have accepts : (call request wallet).1.bind Wallet.Reply.parse = .ok _ := accepts
      rw [outcome] at accepts
      cases accepts
    | ok text =>
      have accepts : (call request wallet).1.bind Wallet.Reply.parse = .ok _ := accepts
      rw [outcome] at accepts
      refine ⟨.done, ⟨request, text, _, ?_, accepts, Wallet.Reply.status_of_parse accepts⟩, _, rfl⟩
      simp [Wallet.recorded, outcome]

end Operation

namespace Office

/-- Whether an event came to nothing. -/
def Entry.failed (entry : Entry) : Bool :=
  match entry.result with
  | .error _ => true
  | .ok _ => false

variable {settings : Settings} {office next : Office} {event : Event}

theorem Turn.same {fault : EscrowError} (turn : Turn settings office event (.error fault) next) :
    next = office := by
  cases turn
  rfl

theorem same_of_failed (wellFormed : office.desk.ledger.WellFormed)
    (failed : Entry.failed ⟨office, event, (office.step settings event).1⟩ = true) :
    (office.step settings event).2 = office := by
  have turn : Turn settings office event (office.step settings event).1
      (office.step settings event).2 := turn_step wellFormed event
  cases result : (office.step settings event).1 with
  | error fault => exact (result ▸ turn).same
  | ok answer =>
    rw [Entry.failed, result] at failed
    cases failed

/-- Failed events can be left out, and what is left goes the same way. -/
theorem history_of_kept (holds : office.Holds Ledger.WellFormed) (events : List Event)
    (keeps : Entry → Bool)
    (kept : ∀ entry ∈ history settings office events, entry.failed = false → keeps entry = true) :
    history settings office (((history settings office events).filter keeps).map Entry.event) =
        (history settings office events).filter keeps ∧
      after settings office (((history settings office events).filter keeps).map Entry.event) =
        after settings office events := by
  induction events generalizing office with
  | nil => exact ⟨rfl, rfl⟩
  | cons event rest ih =>
    have later : (office.step settings event).2.Holds Ledger.WellFormed :=
      holds.turn Ledger.WellFormed.wholeSeconds (fun _ _ move => move.wellFormed holds.here)
        (turn_step holds.here event)
    obtain ⟨same_history, same_office⟩ :=
      ih later fun entry member => kept entry (List.mem_cons_of_mem _ member)
    rw [history, after_cons]
    by_cases keep : keeps ⟨office, event, (office.step settings event).1⟩ = true
    · rw [List.filter_cons_of_pos keep, List.map_cons, history, after_cons]
      exact ⟨congrArg _ same_history, same_office⟩
    · have failed : Entry.failed ⟨office, event, (office.step settings event).1⟩ = true := by
        by_contra succeeded
        exact keep (kept _ List.mem_cons_self (by simpa using succeeded))
      -- the rest of the run starts from the same office, as if the event had not been
      rw [List.filter_cons_of_neg keep]
      rw [same_of_failed holds.here failed] at same_history same_office ⊢
      exact ⟨same_history, same_office⟩

/--
On every desk that a run leads to, an operation that may ask the wallet has
exactly one ending, whatever the wallet is; and failed events, with the outcomes
of their calls, can be left out of a run without any effect.
-/
theorem operations_atomic (settings : Settings) (ids : IdSource) (events : List Event) :
    (∀ (operation : Operation) {σ : Type}
        (call : Wallet.Request → σ → Except EscrowError String × σ) (wallet : σ) (now : Instant),
      operation.asksWallet = true →
        let desk := (after settings (opening ids) events).desk
        let ran := operation.run (Wallet.recorded call) settings now (wallet, []) desk
        ∃! ending : Operation.Ending, ending.Describes operation desk ran.1 ran.2.1.2 ran.2.2) ∧
      ∀ keeps : Entry → Bool,
        (∀ entry ∈ history settings (opening ids) events,
          entry.failed = false → keeps entry = true) →
        let kept := (history settings (opening ids) events).filter keeps
        history settings (opening ids) (kept.map Entry.event) = kept ∧
          after settings (opening ids) (kept.map Entry.event) =
            after settings (opening ids) events := by
  have holds := holds_wellFormed settings ids events
  constructor
  · intro operation σ call wallet now asks desk ran
    have course : operation.Course (Wallet.recorded call) settings now (wallet, []) desk ran :=
      Operation.course_run _ _ holds.here
    obtain ⟨ending, described⟩ := course.ending asks
    exact ⟨ending, described, fun other also => also.eq.trans described.eq.symm⟩
  · exact history_of_kept (holds_opening ids Ledger.wellFormed_empty) events

/-- A player whom the wallet would not add at first. -/
def retried : List Event :=
  [.operation (.addPlayer "carol") .epoch (.error .storage),
    .operation (.addPlayer "carol") .epoch (.ok (Wallet.Reply.accepted none).text)]

theorem operations_atomic_retried :
    (∃! ending : Operation.Ending, ending.Describes (.addPlayer "carol")
      (after (.forNetwork .regtest) (opening wagerIds) retried).desk
      (.ok (.player (Player.new "carol" false (wagerIds.nth 0)))) []
      (after (.forNetwork .regtest) (opening wagerIds) retried).desk) ∧
      after (.forNetwork .regtest) (opening wagerIds) retried.tail =
        after (.forNetwork .regtest) (opening wagerIds) retried := by
  obtain ⟨endings, prunes⟩ := operations_atomic (.forNetwork .regtest) wagerIds retried
  have known := endings (.addPlayer "carol") (always (.error .storage)) () .epoch rfl
  have pruned := (prunes (fun entry => !entry.failed) (by simp)).2
  have left : (((history (.forNetwork .regtest) (opening wagerIds) retried).filter
      fun entry => !entry.failed).map Entry.event) = retried.tail := by
    rfl
  rw [left] at pruned
  exact ⟨known, pruned⟩

end Office

end ArbitratedEscrow
