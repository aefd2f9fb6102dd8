import ArbitratedEscrow.Proofs.Archive.RoundTrip
import ArbitratedEscrow.Proofs.Operation.Effect
import ArbitratedEscrow.Session

/-!
# Runs of an office

An office is a desk together with the archive of its ledger. Events are
operations, each with the outcome of the one call of the wallet that it may
make, and the keeping and loading of the ledger; a restart does both. A run is a
list of events, and its history tells for each of them what it met and what came
of it. Sessions whose ledger is left to the client lead to no other offices
(`events_of_session`).

Identifiers of contracts are hashes and could collide. A history is fresh if no
two contracts were filed under one identifier; nothing is asked of players.
-/

namespace ArbitratedEscrow

structure Office where
  desk : Desk
  archive : Archive

namespace Office

def opening (ids : IdSource) : Office := ⟨⟨.empty, ids⟩, .empty⟩

inductive Event where
  | operation (operation : Operation) (now : Instant) (outcome : Except EscrowError String)
  | keep
  | load (now : Instant)
  | restart (now : Instant)

/-- Whether an event may bring back an older ledger. -/
def Event.isLoad : Event → Bool
  | load _ => true
  | _ => false

def always (outcome : Except EscrowError String) (_ : Wallet.Request) (_ : Unit) :
    Except EscrowError String × Unit := (outcome, ())

def operate (settings : Settings) (office : Office) (operation : Operation) (now : Instant)
    (outcome : Except EscrowError String) : Except EscrowError Answer × Office :=
  let (result, _, desk) := operation.run (always outcome) settings now () office.desk
  (result, { office with desk })

def keep (office : Office) : Except EscrowError Answer × Office :=
  match office.archive.keep? office.desk.ledger with
  | some archive => (.ok .done, { office with archive })
  | none => (.error .storage, office)

def load (office : Office) (now : Instant) : Except EscrowError Answer × Office :=
  match office.archive.load? now with
  | some ledger => (.ok .done, { office with desk := office.desk.withLedger ledger })
  | none => (.error .storage, office)

def step (settings : Settings) (office : Office) : Event → Except EscrowError Answer × Office
  | .operation operation now outcome => office.operate settings operation now outcome
  | .keep => office.keep
  | .load now => office.load now
  | .restart now =>
    match office.keep with
    | (.ok _, kept) => kept.load now
    | failed => failed

def after (settings : Settings) (office : Office) (events : List Event) : Office :=
  events.foldl (fun office event => (office.step settings event).2) office

def ledgerAfter (settings : Settings) (ids : IdSource) (events : List Event) : Ledger :=
  (after settings (opening ids) events).desk.ledger

/-- What an event met and what came of it. -/
structure Entry where
  before : Office
  event : Event
  result : Except EscrowError Answer

def history (settings : Settings) : Office → List Event → List Entry
  | _, [] => []
  | office, event :: rest =>
    ⟨office, event, (office.step settings event).1⟩ ::
      history settings (office.step settings event).2 rest

def Entry.done? (entry : Entry) : Option Operation :=
  match entry.event, entry.result with
  | .operation operation _ _, .ok _ => some operation
  | _, _ => none

def Entry.filed? (entry : Entry) : Option ContractId :=
  match entry.event, entry.result with
  | .operation operation _ _, .ok answer => operation.filed? answer
  | _, _ => none

/-- The identifiers of all contracts of a history, those that are gone included. -/
def filed (history : List Entry) : List ContractId := history.filterMap Entry.filed?

def Fresh (history : List Entry) : Prop := (filed history).Nodup

instance (history : List Entry) : Decidable (Fresh history) :=
  inferInstanceAs (Decidable (List.Nodup _))

variable {settings : Settings} {office next : Office} {event : Event}
  {result : Except EscrowError Answer}

theorem Entry.filed?_eq {entry : Entry} {operation : Operation} {now : Instant}
    {outcome : Except EscrowError String} {answer : Answer}
    (operated : entry.event = .operation operation now outcome)
    (succeeded : entry.result = .ok answer) : entry.filed? = operation.filed? answer := by
  rw [filed?, operated, succeeded]

theorem after_cons (events : List Event) : after settings office (event :: events) =
    after settings (office.step settings event).2 events := rfl

theorem after_concat (events : List Event) (event : Event) :
    after settings office (events ++ [event]) =
      ((after settings office events).step settings event).2 :=
  List.foldl_concat ..

theorem history_concat (office : Office) (events : List Event) (event : Event) :
    history settings office (events ++ [event]) = history settings office events ++
      [⟨after settings office events, event,
        ((after settings office events).step settings event).1⟩] := by
  induction events generalizing office with
  | nil => rfl
  | cons first rest ih =>
    rw [List.cons_append, history, ih, history]
    rfl

/-- A wallet with a state of its own comes down to the outcome of the one call it gets. -/
theorem operate_of_run {σ : Type} (call : Wallet.Request → σ → Except EscrowError String × σ)
    (wallet : σ) (office : Office) (operation : Operation) (now : Instant) :
    ∃ outcome, office.operate settings operation now outcome =
      ((operation.run call settings now wallet office.desk).1,
        { office with desk := (operation.run call settings now wallet office.desk).2.2 }) := by
  rw [Operation.run]
  cases checked : operation.check settings office.desk.ledger with
  | error fault => exact ⟨.error fault, by simp only [operate, Operation.run, checked]⟩
  | ok verdict =>
    cases verdict with
    | settled answer ledger =>
      exact ⟨.error .storage, by simp only [operate, Operation.run, checked]⟩
    | asks request commit =>
      exact ⟨(call request wallet).1, by simp only [operate, Operation.run, checked, always]⟩

/-! ### Turns -/

/-- What an event can come to in an office with a well-formed ledger. -/
inductive Turn (settings : Settings) (office : Office) :
    Event → Except EscrowError Answer → Office → Prop where
  | failed {event : Event} {fault : EscrowError} : Turn settings office event (.error fault) office
  | moved {operation : Operation} {now : Instant} {outcome : Except EscrowError String}
      {answer : Answer} {desk : Desk} (move : operation.Move settings now office.desk answer desk) :
      Turn settings office (.operation operation now outcome) (.ok answer) { office with desk }
  | kept {archive : Archive}
      (keeps : ∀ now, archive.load? now = some office.desk.ledger.wholeSeconds) :
      Turn settings office .keep (.ok .done) { office with archive }
  | loaded {now : Instant} {ledger : Ledger} (loads : office.archive.load? now = some ledger) :
      Turn settings office (.load now) (.ok .done)
        { office with desk := office.desk.withLedger ledger }
  | restarted {now : Instant} {archive : Archive}
      (keeps : ∀ now, archive.load? now = some office.desk.ledger.wholeSeconds) :
      Turn settings office (.restart now) (.ok .done)
        ⟨office.desk.withLedger office.desk.ledger.wholeSeconds, archive⟩

theorem turn_operate (wellFormed : office.desk.ledger.WellFormed) (operation : Operation)
    (now : Instant) (outcome : Except EscrowError String) :
    Turn settings office (.operation operation now outcome)
      (office.operate settings operation now outcome).1
      (office.operate settings operation now outcome).2 := by
  have course : operation.Course (always outcome) settings now () office.desk
      (operation.run (always outcome) settings now () office.desk) :=
    Operation.course_run _ _ wellFormed
  rw [operate]
  generalize operation.run (always outcome) settings now () office.desk = ran at course
  cases course with
  | refused | rejected => exact .failed
  | settled settles => exact .moved (.settle settles)
  | done _ _ move => exact .moved move

/-- An operation fails and changes nothing, or makes its move. -/
theorem operate_cases (wellFormed : office.desk.ledger.WellFormed) (operation : Operation)
    (now : Instant) (outcome : Except EscrowError String) :
    (∃ fault, office.operate settings operation now outcome = (.error fault, office)) ∨
      ∃ answer desk,
        office.operate settings operation now outcome = (.ok answer, { office with desk }) ∧
          operation.Move settings now office.desk answer desk := by
  have turn : Turn settings office (.operation operation now outcome)
      (office.operate settings operation now outcome).1
      (office.operate settings operation now outcome).2 :=
    turn_operate wellFormed operation now outcome
  generalize office.operate settings operation now outcome = ran at turn
  obtain ⟨result, next⟩ := ran
  cases turn with
  | failed => exact Or.inl ⟨_, rfl⟩
  | moved move => exact Or.inr ⟨_, _, rfl, move⟩

/-- A restart of a well-formed ledger goes through and brings it back. -/
theorem step_restart (wellFormed : office.desk.ledger.WellFormed) (now : Instant) :
    ∃ archive : Archive,
      (∀ now, archive.load? now = some office.desk.ledger.wholeSeconds) ∧
      office.step settings (.restart now) =
        (.ok .done, ⟨office.desk.withLedger office.desk.ledger.wholeSeconds, archive⟩) := by
  obtain ⟨archive, kept, keeps⟩ := Archive.keep_load wellFormed office.archive
  have keep_eq : office.keep = (.ok .done, { office with archive }) := by rw [keep, kept]
  refine ⟨archive, keeps, ?_⟩
  simp only [step, keep_eq, load, keeps]

theorem turn_step (wellFormed : office.desk.ledger.WellFormed) (event : Event) :
    Turn settings office event (office.step settings event).1 (office.step settings event).2 := by
  cases event with
  | operation operation now outcome => exact turn_operate wellFormed operation now outcome
  | keep =>
    obtain ⟨archive, kept, keeps⟩ := Archive.keep_load wellFormed office.archive
    rw [step, keep, kept]
    exact .kept keeps
  | load now =>
    rw [step, load]
    cases loads : office.archive.load? now with
    | none => exact .failed
    | some ledger => exact .loaded loads
  | restart now =>
    obtain ⟨archive, keeps, restarted⟩ := step_restart wellFormed now
    rw [restarted]
    exact .restarted keeps

/-! ### Sessions -/

/-- Whether a step changes the ledger or the archive past the client. -/
def tampers : Session.Step → Bool
  | .edit _ | .forget | .reopen | .insert .. | .clear _ => true
  | _ => false

def ofSession (session : Session) : Office := ⟨session.desk, session.archive⟩

/-- What a step of a session does to its office, if anything, is an event. -/
theorem events_of_step (session : Session) (step : Session.Step) (honest : tampers step = false) :
    (session.step step).2.settings = session.settings ∧
      ∃ events, ofSession (session.step step).2 =
        after session.settings (ofSession session) events := by
  cases step with
  | operation operation =>
    obtain ⟨outcome, operated⟩ := operate_of_run Wallet.Rehearsal.call session.wallet
      (ofSession session) operation session.now
    exact ⟨rfl, [.operation operation session.now outcome], congrArg Prod.snd operated.symm⟩
  | keep =>
    cases kept : session.archive.keep? session.desk.ledger with
    | some archive =>
      have keep_eq : (ofSession session).keep = (.ok .done, ⟨session.desk, archive⟩) := by
        simp only [keep, ofSession, kept]
      simp only [Session.step, kept, true_and]
      exact ⟨[.keep], congrArg Prod.snd keep_eq.symm⟩
    | none =>
      simp only [Session.step, kept, true_and]
      exact ⟨[], rfl⟩
  | load =>
    cases loads : session.archive.load? session.now with
    | some ledger =>
      have load_eq : (ofSession session).load session.now =
          (.ok .done, ⟨session.desk.withLedger ledger, session.archive⟩) := by
        simp only [load, ofSession, loads]
      simp only [Session.step, loads]
      exact ⟨rfl, [.load session.now], congrArg Prod.snd load_eq.symm⟩
    | none =>
      simp only [Session.step, loads, true_and]
      exact ⟨[], rfl⟩
  | edit | forget | reopen | insert | clear => cases honest
  | query | view | settings | reject | enqueue | walletLog | archivedPlayers | archivedContracts
  | archivedPayouts | archivedSelection | setClock => exact ⟨rfl, [], rfl⟩

def sessionAfter (session : Session) (steps : List Session.Step) : Session :=
  steps.foldl (fun session step => (session.step step).2) session

/-- Sessions lead nowhere that runs do not lead. -/
theorem events_of_session (session : Session) (steps : List Session.Step)
    (honest : ∀ step ∈ steps, tampers step = false) :
    ∃ events, ofSession (sessionAfter session steps) =
      after session.settings (ofSession session) events := by
  induction steps generalizing session with
  | nil => exact ⟨[], rfl⟩
  | cons step rest ih =>
    obtain ⟨same, first, taken⟩ := events_of_step session step (honest step List.mem_cons_self)
    obtain ⟨later, reached⟩ := ih (session.step step).2 fun other member =>
      honest other (List.mem_cons_of_mem _ member)
    refine ⟨first ++ later, reached.trans ?_⟩
    rw [same, taken, after, after, after, List.foldl_append]

end Office

end ArbitratedEscrow
