import ArbitratedEscrow.Proofs.Archive.Record
import ArbitratedEscrow.Proofs.DataDirectory
import ArbitratedEscrow.Proofs.Terminal.Performance
import ArbitratedEscrow.Terminal.Run

/-!
# Calls of the program

On a data directory whose databases have held nothing but ledgers, a call of the
program either leaves all rows as they are or carries out the operations that its
task stands for on the ledger that was kept, and keeps what they lead to. There
is nothing in between (`Call.calls_atomic`), and the directory stays such a one.
-/

namespace ArbitratedEscrow.Terminal

def Circumstances.session (found : Circumstances) (settings : Settings) (ledger : Ledger)
    (archive : Archive) : Session :=
  { settings, desk := ⟨ledger, found.ids⟩, archive, medium := .file, now := found.now }

/-- What a task that is done has carried out and kept. -/
structure Task.Done (task : Task) (settings : Settings) (found : Circumstances)
    (archive kept : Archive) (ledger : Ledger) (operations : List Operation) (last : Session) :
    Prop where
  loads : archive.load? found.now = some ledger
  means : task.Means (found.session settings ledger archive) found.keys operations
  carries : (found.session settings ledger archive).Carries operations last
  keeps : Archive.empty.keep? last.desk.ledger = some kept
  sameRows : operations = [] ∨ last.desk.ledger = ledger → kept.SameRows archive

/-- A task that was done has kept what its operations lead to. -/
def Task.Keeps (task : Task) (settings : Settings) (found : Circumstances)
    (archive kept : Archive) : Prop :=
  ∃ ledger operations last, task.Done settings found archive kept ledger operations last

variable {settings : Settings} {found : Circumstances} {task : Task} {archive : Archive}
  {directory : DataDirectory}

/-! ### A task -/

theorem performOnArchive_of_loads {ledger : Ledger}
    (loads : archive.load? found.now = some ledger) :
    performOnArchive settings found task archive =
      match task.perform.run.run ⟨found.session settings ledger archive, found.keys, "", ""⟩ with
      | (.error fault, scene) => (scene.transcript (.error fault), archive)
      | (.ok (), scene) =>
        match archive.keep? scene.session.desk.ledger with
        | some kept => (scene.transcript (.ok ()), kept)
        | none => (scene.transcript (.error .storage), archive) := by
  unfold performOnArchive
  rw [loads]
  rfl

theorem keeps_of_gives {ledger loaded : Ledger} {scene last : Scene} {kept : Archive}
    (records : archive.Records ledger) (wellFormed : ledger.WellFormed)
    (loads : archive.load? found.now = some loaded)
    (opens : scene.session = found.session settings loaded archive)
    (keys : scene.keys = found.keys) (gives : task.perform.Gives scene () last)
    (keeps : archive.keep? last.session.desk.ledger = some kept) :
    task.Keeps settings found archive kept ∧
      ∃ after : Ledger, after.WellFormed ∧ archive.keep? after = some kept := by
  cases (Archive.load_of_holds wellFormed records.holds found.now).symm.trans loads
  have start : scene.session.desk.ledger = ledger.wholeSeconds :=
    congrArg (fun session => session.desk.ledger) opens
  obtain ⟨operations, means, carries⟩ :=
    Task.performed_of_gives (start ▸ wellFormed.wholeSeconds) gives
  have after := carries.wellFormed (start ▸ wellFormed.wholeSeconds)
  rw [opens, keys] at means
  rw [opens] at carries
  obtain ⟨again, keeps_again, keeps_blank, recorded⟩ := records.keep after
  cases keeps.symm.trans keeps_again
  refine ⟨⟨_, operations, last.session, loads, means, carries, keeps_blank, fun idle => ?_⟩,
    last.session.desk.ledger, after, keeps⟩
  have same : last.session.desk.ledger = ledger.wholeSeconds := by
    rcases idle with rfl | same
    · rw [carries.eq_of_nil]
      rfl
    · exact same
  exact records.sameRows (same ▸ recorded)

theorem performOnArchive_cases (settings : Settings) (found : Circumstances) (task : Task)
    (written : archive.Written) :
    let ran := performOnArchive settings found task archive
    (ran.1.exit ≠ 0 ∧ ran.2 = archive) ∨
      (ran.1.exit = 0 ∧ ran.2.Written ∧ task.Keeps settings found archive ran.2) := by
  obtain ⟨ledger, wellFormed, records⟩ := written.records
  have loads := Archive.load_of_holds wellFormed records.holds found.now
  rw [performOnArchive_of_loads loads]
  let start : Scene := ⟨found.session settings ledger.wholeSeconds archive, found.keys, "", ""⟩
  rcases ran : task.perform.run.run start with ⟨fault | _, last⟩
  · exact .inl ⟨Nat.one_ne_zero, rfl⟩
  · have gives : task.perform.Gives start () last := ran
    dsimp only
    cases keeps : archive.keep? last.session.desk.ledger with
    | none => exact .inl ⟨Nat.one_ne_zero, rfl⟩
    | some kept =>
      obtain ⟨done, after, afterWell, keeps⟩ :=
        keeps_of_gives records wellFormed loads rfl rfl gives keeps
      exact .inr ⟨rfl, .kept written afterWell keeps, done⟩

/-- A database that is opened holds the rows that were at its place. -/
theorem runTask_of_opens {next : DataDirectory} (settled : directory.loadSettings = .ok settings)
    (opened : directory.openDatabase settings.databaseFile = (.ok archive, next)) :
    runTask found task directory =
      ((performOnArchive settings found task archive).1,
        next.put (.ofPath settings.databaseFile)
          (performOnArchive settings found task archive).2) := by
  simp only [runTask, settled, opened]

theorem runTask_cases (found : Circumstances) (task : Task)
    (written : ∀ place, (directory.archiveAt place).Written) :
    let ran := runTask found task directory
    (ran.1.exit ≠ 0 ∧ ran.2.archiveAt = directory.archiveAt) ∨
      (ran.1.exit = 0 ∧ ∃ settings, directory.loadSettings = .ok settings ∧
        let place := Place.ofPath settings.databaseFile
        (ran.2.archiveAt place).Written ∧
          task.Keeps settings found (directory.archiveAt place) (ran.2.archiveAt place) ∧
          ∀ other, other ≠ place → ran.2.archiveAt other = directory.archiveAt other) := by
  cases settled : directory.loadSettings with
  | error fault =>
    have ran : runTask found task directory = (.failure fault, directory) := by
      simp only [runTask, settled]
    rw [ran]
    exact .inl ⟨Nat.one_ne_zero, rfl⟩
  | ok settings =>
    obtain ⟨same, opens⟩ := directory.archiveAt_openDatabase settings.databaseFile
    rcases opened : directory.openDatabase settings.databaseFile with ⟨fault | archive, next⟩
    · have ran : runTask found task directory = (.failure fault, next) := by
        simp only [runTask, settled, opened]
      rw [opened] at same
      rw [ran]
      exact .inl ⟨Nat.one_ne_zero, same⟩
    · have same : next.archiveAt = directory.archiveAt := by rwa [opened] at same
      have here : archive = directory.archiveAt (Place.ofPath settings.databaseFile) :=
        opens archive (congrArg Prod.fst opened)
      subst here
      have put := next.archiveAt_put (Place.ofPath settings.databaseFile)
      rw [runTask_of_opens settled opened]
      rcases performOnArchive_cases settings found task (written (.ofPath settings.databaseFile))
        with ⟨failed, left⟩ | ⟨passed, keptWritten, keeps⟩
      · refine .inl ⟨failed, ?_⟩
        rw [left, ← same, next.archiveAt_put_self]
      · refine .inr ⟨passed, settings, rfl, ?_⟩
        dsimp only
        rw [put, if_pos rfl]
        refine ⟨keptWritten, keeps, fun other different => ?_⟩
        rw [put, if_neg different, same]

/-! ### Calls -/

structure Call where
  arguments : List String
  directoryName : String
  found : Circumstances

namespace Call

def run (call : Call) (directory : DataDirectory) : Transcript × DataDirectory :=
  match Invocation.read call.arguments with
  | .ok invocation => runRequest call.directoryName call.found invocation.request directory
  | .error halt => (halt.transcript, directory)

def task? (call : Call) : Option Task :=
  match Invocation.read call.arguments with
  | .ok ⟨_, .task task⟩ => some task
  | _ => none

def after (directory : DataDirectory) (calls : List Call) : DataDirectory :=
  calls.foldl (fun directory call => (call.run directory).2) directory

variable {call : Call}

/-- To write settings changes no rows. -/
theorem archiveAt_writeSettings {directoryName network told : String} {next : DataDirectory}
    (wrote : writeSettings directoryName network directory = .ok (told, next)) :
    next.archiveAt = directory.archiveAt := by
  obtain ⟨chosen, _, wrote⟩ := bind_eq_ok.mp wrote
  obtain ⟨saved, saves, wrote⟩ := bind_eq_ok.mp wrote
  cases wrote
  unfold DataDirectory.saveSettings at saves
  split at saves
  · cases saves
  · cases saves
    rfl

theorem archiveAt_of_idle (idle : call.task? = none) :
    (call.run directory).2.archiveAt = directory.archiveAt := by
  unfold run
  rcases spelt : Invocation.read call.arguments with halt | ⟨named, network | task⟩
  · rfl
  · dsimp only [runRequest]
    cases wrote : writeSettings call.directoryName network directory with
    | error fault => rfl
    | ok told => exact archiveAt_writeSettings wrote
  · rw [task?, spelt] at idle
    cases idle

theorem run_of_task {task : Task} (sets : call.task? = some task) :
    call.run directory = runTask call.found task directory := by
  unfold run
  rcases spelt : Invocation.read call.arguments with halt | ⟨named, network | other⟩ <;>
    rw [task?, spelt] at sets <;> cases sets
  rfl

/-- A call leaves behind nothing but kept ledgers. -/
theorem written_run (call : Call) (written : ∀ place, (directory.archiveAt place).Written)
    (place : Place) : ((call.run directory).2.archiveAt place).Written := by
  cases sets : call.task? with
  | none =>
    rw [archiveAt_of_idle sets]
    exact written place
  | some task =>
    rw [run_of_task sets]
    rcases runTask_cases call.found task written with
      ⟨_, same⟩ | ⟨_, settings, _, kept, _, elsewhere⟩
    · rw [same]
      exact written place
    · by_cases here : place = Place.ofPath settings.databaseFile
      · rw [here]
        exact kept
      · rw [elsewhere place here]
        exact written place

theorem written_after (written : ∀ place, (directory.archiveAt place).Written)
    (calls : List Call) (place : Place) : ((after directory calls).archiveAt place).Written := by
  induction calls generalizing directory with
  | nil => exact written place
  | cons call rest ih => exact ih (written_run call written)

/--
After any calls on a data directory whose databases have held nothing but ledgers:
a call that fails, or that sets no task, leaves the rows of all databases as they
are. A call that does a task changes those of one database. It carries out what the
task stands for on the ledger that was kept there and keeps what comes of it, as it
would be kept in a blank archive; if it has nothing to carry out, or if that changes
nothing, the rows are the same as before.
-/
theorem calls_atomic {start : DataDirectory} (written : ∀ place, (start.archiveAt place).Written)
    (calls : List Call) (call : Call) :
    let before := after start calls
    let ran := call.run before
    (ran.1.exit ≠ 0 → ran.2.archiveAt = before.archiveAt) ∧
      (call.task? = none → ran.2.archiveAt = before.archiveAt) ∧
      ∀ task, call.task? = some task → ran.1.exit = 0 →
        ∃ settings, before.loadSettings = .ok settings ∧
          let place := Place.ofPath settings.databaseFile
          (∃ ledger operations last, task.Done settings call.found (before.archiveAt place)
            (ran.2.archiveAt place) ledger operations last) ∧
          ∀ other, other ≠ place → ran.2.archiveAt other = before.archiveAt other := by
  intro before ran
  have held : ∀ place, (before.archiveAt place).Written := written_after written calls
  refine ⟨fun failed => ?_, archiveAt_of_idle, fun task sets passed => ?_⟩
  · cases sets : call.task? with
    | none => exact archiveAt_of_idle sets
    | some task =>
      have ran_eq : ran = runTask call.found task before := run_of_task sets
      rcases runTask_cases call.found task held with ⟨_, same⟩ | ⟨passed, _⟩
      · rw [ran_eq]
        exact same
      · rw [ran_eq] at failed
        exact absurd passed failed
  · have ran_eq : ran = runTask call.found task before := run_of_task sets
    rw [ran_eq] at passed ⊢
    rcases runTask_cases call.found task held with
      ⟨failed, _⟩ | ⟨_, settings, settled, _, keeps, elsewhere⟩
    · exact absurd passed failed
    · exact ⟨settings, settled, keeps, elsewhere⟩

def registration : Call :=
  ⟨["player", "new", "alice"], "here",
    ⟨some "correct horse\ncorrect horse\n".toList, .ofSeed 1, .epoch⟩⟩

/-- Alice is to be removed, but the user thinks better of it. -/
def secondThoughts : Call :=
  ⟨["player", "remove", "alice"], "here", ⟨some ['x', 'n'], .ofSeed 2, .epoch⟩⟩

/-- The player and the selection are still there, and nothing else. -/
theorem calls_atomic_secondThoughts :
    let before := after .empty [registration]
    let ran := secondThoughts.run before
    (before.archiveAt ["escrow.db"]).players.length = 1 ∧ ran.1.exit = 0 ∧
      (ran.2.archiveAt ["escrow.db"]).SameRows (before.archiveAt ["escrow.db"]) := by
  intro before ran
  have passed : ran.1.exit = 0 := by decide +kernel
  have sets : secondThoughts.task? = some (.removePlayer "alice" false) := by decide +kernel
  have missing : before.settings = .missing := by decide +kernel
  have blank : ∀ place, (DataDirectory.empty.archiveAt place).Written := fun _ => .blank
  obtain ⟨settings, settled, ⟨ledger, operations, last, done⟩, _⟩ :=
    (calls_atomic blank [registration] secondThoughts).2.2 _ sets passed
  have usual : settings = default := by
    have settled : before.loadSettings = .ok settings := settled
    rw [DataDirectory.loadSettings, missing] at settled
    exact (Except.ok.inj settled).symm
  subst usual
  have declined : operations = [] := by
    cases done.means with
    | tell tells => cases tells
    | step takes => cases takes
    | leavePlayer => rfl
    | removePlayer named consents =>
      obtain ⟨question, typed, keys, answer⟩ := consents
      cases Option.some.inj keys
      cases answer
  exact ⟨by decide +kernel, passed, done.sameRows (.inl declined)⟩

end Call

end ArbitratedEscrow.Terminal
