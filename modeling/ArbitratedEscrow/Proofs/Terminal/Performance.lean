import ArbitratedEscrow.Proofs.Operation.Move
import ArbitratedEscrow.Proofs.Terminal.Act

/-!
# What tasks stand for

Each task stands for some operations: for none if it only tells of the ledger or
if the user declines, for two if the first player registers, else for one. A
task that is performed to its end has carried out just these (`performed_of_gives`),
each with success and with nothing else done to the session in between.
-/

namespace ArbitratedEscrow

inductive Session.Carries : Session → List Operation → Session → Prop where
  | none (session : Session) : Carries session [] session
  | next {session middle last : Session} {operation : Operation} {rest : List Operation}
      {answer : Answer} (operated : session.operate operation = (.ok answer, middle))
      (carries : Carries middle rest last) : Carries session (operation :: rest) last

theorem Session.Carries.eq_of_nil {session last : Session} (carries : session.Carries [] last) :
    last = session := by
  cases carries
  rfl

/-- An operation that succeeds in a session is a move of its desk. -/
theorem Session.move_of_operate {session next : Session} {operation : Operation} {answer : Answer}
    (wellFormed : session.desk.ledger.WellFormed)
    (operated : session.operate operation = (.ok answer, next)) :
    operation.Move session.settings session.now session.desk answer next.desk := by
  have course : operation.Course Wallet.Rehearsal.call session.settings session.now session.wallet
      session.desk _ := Operation.course_run _ _ wellFormed
  rw [Session.operate] at operated
  generalize operation.run Wallet.Rehearsal.call session.settings session.now session.wallet
    session.desk = ran at course operated
  obtain ⟨result, rfl⟩ := Prod.mk.inj operated
  cases course with
  | refused | rejected => cases result
  | settled settles =>
    cases result
    exact .settle settles
  | done _ _ move =>
    cases result
    exact move

theorem Session.Carries.wellFormed {session last : Session} {operations : List Operation}
    (carries : session.Carries operations last) (wellFormed : session.desk.ledger.WellFormed) :
    last.desk.ledger.WellFormed := by
  induction carries with
  | none => exact wellFormed
  | next operated _ ih => exact ih ((Session.move_of_operate wellFormed operated).wellFormed wellFormed)

namespace Terminal

/-- What the user has to say to something, unless it goes on without asking. -/
def Consents (keys : Option (List Char)) (unasked : Bool) (consents : Bool) : Prop :=
  if unasked then consents = true else ∃ question, Typed keys (Dialog.confirm question) consents

namespace Task

def tells : Task → Bool
  | listPlayers | showContract _ | showStatus => true
  | _ => false

/-- The start of an identifier and the step that a task takes with it without asking. -/
def step? : Task → Option (String × (ContractId → Operation))
  | declineContract start => some (start, .declineContract)
  | certifyContract start => some (start, .certifyContract)
  | broadcastFunding start => some (start, .broadcastFunding)
  | confirmFunding start => some (start, .confirmFunding)
  | proposePayout start amountOne amountTwo => some (start, (.proposePayout · amountOne amountTwo))
  | certifyPayout start => some (start, .certifyPayout)
  | denyPayout start => some (start, .denyPayout)
  | broadcastPayout start => some (start, .broadcastPayout)
  | confirmPayout start => some (start, .confirmPayout)
  | _ => none

/-- The operations that a task stands for in a session, with the keys that are typed. -/
inductive Means (session : Session) (keys : Option (List Char)) : Task → List Operation → Prop where
  | tell {task : Task} (tells : task.tells = true) : Means session keys task []
  | register {name : String} {passphrase : Secret} {player : Player} {next : Session}
      (typed : Typed keys Dialog.newPassphrase passphrase)
      (registers : session.operate (.registerPlayer name passphrase) = (.ok (.player player), next))
      (selected : next.desk.ledger.selected.isNone = false) :
      Means session keys (.registerPlayer name) [.registerPlayer name passphrase]
  | registerFirst {name : String} {passphrase : Secret} {player : Player} {next : Session}
      (typed : Typed keys Dialog.newPassphrase passphrase)
      (registers : session.operate (.registerPlayer name passphrase) = (.ok (.player player), next))
      (unselected : next.desk.ledger.selected.isNone = true) :
      Means session keys (.registerPlayer name)
        [.registerPlayer name passphrase, .select player.id]
  | addPlayer (name : String) : Means session keys (.addPlayer name) [.addPlayer name]
  | removePlayer {name : String} {forced : Bool} {player : Player}
      (named : session.desk.ledger.playerNamed? name = some player)
      (consents : Consents keys forced true) :
      Means session keys (.removePlayer name forced) [.removePlayer player.id]
  | leavePlayer {name : String} {forced : Bool} {player : Player}
      (named : session.desk.ledger.playerNamed? name = some player)
      (declines : Consents keys forced false) : Means session keys (.removePlayer name forced) []
  | newContract {playerOne playerTwo : String} {amount : Amount} {description : String}
      {one two : Player} (first : session.desk.ledger.playerNamed? playerOne = some one)
      (second : session.desk.ledger.playerNamed? playerTwo = some two) :
      Means session keys (.newContract playerOne playerTwo amount description)
        [.newContract one.id two.id amount description]
  | signContract {start : String} {id : ContractId} {password : Secret}
      (resolves : session.desk.ledger.resolve start = .ok id)
      (typed : Typed keys (Dialog.secret passwordQuestion) password) :
      Means session keys (.signContract start) [.signContract id password]
  | step {task : Task} {start : String} {operation : ContractId → Operation} {id : ContractId}
      (takes : task.step? = some (start, operation))
      (resolves : session.desk.ledger.resolve start = .ok id) :
      Means session keys task [operation id]
  | dismissContract {start : String} {forced : Bool} {id : ContractId} {status : ContractStatus}
      (resolves : session.desk.ledger.resolve start = .ok id)
      (seen : session.desk.ledger.theStatus id = .ok status)
      (consents : Consents keys (forced || status.isTerminal) true) :
      Means session keys (.dismissContract start forced) [.dismissContract id]
  | leaveContract {start : String} {forced : Bool} {id : ContractId} {status : ContractStatus}
      (resolves : session.desk.ledger.resolve start = .ok id)
      (seen : session.desk.ledger.theStatus id = .ok status)
      (declines : Consents keys (forced || status.isTerminal) false) :
      Means session keys (.dismissContract start forced) []
  | signPayout {start : String} {id : ContractId} {password : Secret}
      (resolves : session.desk.ledger.resolve start = .ok id)
      (typed : Typed keys (Dialog.secret passwordQuestion) password) :
      Means session keys (.signPayout start false) [.signPayout id (.password password)]
  | signPayoutWithToken {start : String} {id : ContractId} {token : Secret}
      (resolves : session.desk.ledger.resolve start = .ok id)
      (typed : Typed keys (Dialog.secret tokenQuestion) token) :
      Means session keys (.signPayout start true) [.signPayout id (.token token)]
  | select {name : String} {player : Player}
      (named : session.desk.ledger.playerNamed? name = some player) :
      Means session keys (.select name) [.select player.id]

end Task

/-! ### Parts of tasks -/

open Act

variable {scene next last : Scene}

theorem thePlayerNamed_eq_ok {name : String} {ledger : Ledger} {player : Player} :
    thePlayerNamed name ledger = .ok player ↔ ledger.playerNamed? name = some player := by
  unfold thePlayerNamed
  cases ledger.playerNamed? name <;> simp

theorem consents_of_consent {unasked : Bool} {question : String} {consents : Bool}
    (gives : (consent unasked question).Gives scene consents next) :
    Consents scene.keys unasked consents ∧ scene.Alike next := by
  cases unasked with
  | true =>
    obtain ⟨same, rfl⟩ := gives_pure.mp gives
    exact ⟨same.symm, rfl, rfl⟩
  | false =>
    obtain ⟨typed, alike⟩ := typed_of_hold gives
    exact ⟨⟨question, typed⟩, alike⟩

/-- One operation is carried out and then told of. -/
theorem carries_of_alike {operation : Operation} {answer : Answer}
    (operated : scene.session.operate operation = (.ok answer, next.session))
    (alike : next.Alike last) : scene.session.Carries [operation] last.session :=
  .next operated (alike.session ▸ .none _)

theorem player_of_registerPlayer {session next : Session} {name : String} {passphrase : Secret}
    {answer : Answer} (wellFormed : session.desk.ledger.WellFormed)
    (operated : session.operate (.registerPlayer name passphrase) = (.ok answer, next)) :
    ∃ player, answer = .player player := by
  have move := Session.move_of_operate wellFormed operated
  generalize next.desk = after at move
  cases move with
  | settle settles =>
    cases settles with
    | look looks => cases looks
  | claim | register => exact ⟨_, rfl⟩
  | patchContract grants | removeContract grants | patchPayout grants | removePayout grants =>
    cases grants

/-! ### Whole tasks -/

namespace Task

variable {task : Task} {u : Unit}

/-- What has become of a scene when a task is done. -/
def Performed (task : Task) (scene last : Scene) : Prop :=
  ∃ operations, task.Means scene.session scene.keys operations ∧
    scene.session.Carries operations last.session

theorem performed_of_tell (tells : task.tells = true) (alike : scene.Alike last) :
    task.Performed scene last :=
  ⟨[], .tell tells, alike.session ▸ .none _⟩

theorem performed_registerPlayer {name : String}
    (wellFormed : scene.session.desk.ledger.WellFormed)
    (gives : (performRegisterPlayer name).Gives scene u last) :
    (registerPlayer name).Performed scene last := by
  obtain ⟨passphrase, asked, held, gives⟩ := gives_bind.mp gives
  obtain ⟨typed, alike⟩ := typed_of_hold held
  obtain ⟨answer, registered, given, gives⟩ := gives_bind.mp gives
  obtain ⟨registers, keys⟩ := operated_of_operate given
  rw [alike.session] at registers
  obtain ⟨player, rfl⟩ := player_of_registerPlayer wellFormed registers
  obtain ⟨_, told, said, gives⟩ := gives_bind.mp gives
  have told_alike : registered.Alike told := alike_of_sayAll said
  obtain ⟨selected, looked, seen, gives⟩ := gives_bind.mp gives
  obtain ⟨found, looked_alike⟩ := view_of_look seen
  cases found
  have same := told_alike.trans looked_alike
  rw [told_alike.session] at gives
  cases unselected : registered.session.desk.ledger.selected.isNone with
  | true =>
    rw [unselected, if_pos rfl] at gives
    obtain ⟨chosen, selecting, given, gives⟩ := gives_bind.mp gives
    obtain ⟨selects, _⟩ := operated_of_operate given
    rw [same.session] at selects
    exact ⟨_, .registerFirst typed registers unselected,
      .next registers (carries_of_alike selects (alike_of_say gives))⟩
  | false =>
    rw [unselected] at gives
    obtain ⟨_, rfl⟩ := gives_pure.mp gives
    exact ⟨_, .register typed registers unselected, carries_of_alike registers same⟩

theorem performed_addPlayer {name : String} (gives : (performAddPlayer name).Gives scene u last) :
    (addPlayer name).Performed scene last := by
  obtain ⟨answer, added, given, gives⟩ := gives_bind.mp gives
  obtain ⟨adds, _⟩ := operated_of_operate given
  refine ⟨_, .addPlayer name, carries_of_alike adds ?_⟩
  cases answer with
  | player player => exact alike_of_say gives
  | _ =>
    obtain ⟨_, rfl⟩ := gives_pure.mp gives
    exact ⟨rfl, rfl⟩

theorem performed_listPlayers (gives : performListPlayers.Gives scene u last) :
    listPlayers.Performed scene last := by
  obtain ⟨ledger, looked, seen, gives⟩ := gives_bind.mp gives
  obtain ⟨_, alike⟩ := view_of_look seen
  refine performed_of_tell rfl (alike.trans ?_)
  split at gives
  · exact alike_of_sayAll gives
  · exact alike_of_say gives

theorem performed_removePlayer {name : String} {forced : Bool}
    (gives : (performRemovePlayer name forced).Gives scene u last) :
    (removePlayer name forced).Performed scene last := by
  obtain ⟨player, looked, seen, gives⟩ := gives_bind.mp gives
  obtain ⟨named, alike⟩ := view_of_look seen
  have named := thePlayerNamed_eq_ok.mp named
  obtain ⟨consents, asked, given, gives⟩ := gives_bind.mp gives
  obtain ⟨consented, asked_alike⟩ := consents_of_consent given
  have same := alike.trans asked_alike
  rw [alike.keys] at consented
  cases consents with
  | true =>
    obtain ⟨answer, removed, given, gives⟩ := gives_bind.mp gives
    obtain ⟨removes, _⟩ := operated_of_operate given
    rw [same.session] at removes
    exact ⟨_, .removePlayer named consented, carries_of_alike removes (alike_of_say gives)⟩
  | false =>
    exact ⟨_, .leavePlayer named consented, (same.trans (alike_of_say gives)).session ▸ .none _⟩

theorem performed_newContract {playerOne playerTwo : String} {amount : Amount}
    {description : String}
    (gives : (performNewContract playerOne playerTwo amount description).Gives scene u last) :
    (newContract playerOne playerTwo amount description).Performed scene last := by
  obtain ⟨one, looked, seen, gives⟩ := gives_bind.mp gives
  obtain ⟨first, alike⟩ := view_of_look seen
  obtain ⟨two, found, seen, gives⟩ := gives_bind.mp gives
  obtain ⟨second, found_alike⟩ := view_of_look seen
  rw [alike.session] at second
  obtain ⟨answer, filed, given, gives⟩ := gives_bind.mp gives
  obtain ⟨files, _⟩ := operated_of_operate given
  rw [(alike.trans found_alike).session] at files
  refine ⟨_, .newContract (thePlayerNamed_eq_ok.mp first) (thePlayerNamed_eq_ok.mp second),
    carries_of_alike files ?_⟩
  cases answer with
  | contract contract => exact alike_of_sayAll gives
  | _ =>
    obtain ⟨_, rfl⟩ := gives_pure.mp gives
    exact ⟨rfl, rfl⟩

theorem performed_showContract {start : String}
    (gives : (performShowContract start).Gives scene u last) :
    (showContract start).Performed scene last := by
  obtain ⟨id, resolved, seen, gives⟩ := gives_bind.mp gives
  obtain ⟨_, alike⟩ := view_of_look seen
  obtain ⟨contract, found, seen, gives⟩ := gives_bind.mp gives
  obtain ⟨_, found_alike⟩ := view_of_look seen
  obtain ⟨status, shown, seen, gives⟩ := gives_bind.mp gives
  obtain ⟨_, shown_alike⟩ := view_of_look seen
  obtain ⟨ledger, looked, seen, gives⟩ := gives_bind.mp gives
  obtain ⟨_, looked_alike⟩ := view_of_look seen
  exact performed_of_tell rfl
    ((alike.trans found_alike).trans ((shown_alike.trans looked_alike).trans (alike_of_sayAll gives)))

theorem performed_signContract {start : String}
    (gives : (performSignContract start).Gives scene u last) :
    (signContract start).Performed scene last := by
  obtain ⟨id, resolved, seen, gives⟩ := gives_bind.mp gives
  obtain ⟨resolves, alike⟩ := view_of_look seen
  obtain ⟨password, asked, held, gives⟩ := gives_bind.mp gives
  obtain ⟨typed, asked_alike⟩ := typed_of_hold held
  rw [alike.keys] at typed
  obtain ⟨answer, signed, given, gives⟩ := gives_bind.mp gives
  obtain ⟨signs, _⟩ := operated_of_operate given
  rw [(alike.trans asked_alike).session] at signs
  obtain ⟨status, shown, seen, gives⟩ := gives_bind.mp gives
  obtain ⟨_, shown_alike⟩ := view_of_look seen
  obtain ⟨_, told, said, gives⟩ := gives_bind.mp gives
  have told_alike := shown_alike.trans (alike_of_sayAll said)
  refine ⟨_, .signContract resolves typed, carries_of_alike signs (told_alike.trans ?_)⟩
  split at gives
  · exact alike_of_say gives
  · obtain ⟨_, rfl⟩ := gives_pure.mp gives
    exact ⟨rfl, rfl⟩

theorem performed_dismissContract {start : String} {forced : Bool}
    (gives : (performDismissContract start forced).Gives scene u last) :
    (dismissContract start forced).Performed scene last := by
  obtain ⟨id, resolved, seen, gives⟩ := gives_bind.mp gives
  obtain ⟨resolves, alike⟩ := view_of_look seen
  obtain ⟨status, shown, seen, gives⟩ := gives_bind.mp gives
  obtain ⟨status_seen, shown_alike⟩ := view_of_look seen
  rw [alike.session] at status_seen
  obtain ⟨consents, asked, given, gives⟩ := gives_bind.mp gives
  obtain ⟨consented, asked_alike⟩ := consents_of_consent given
  rw [(alike.trans shown_alike).keys] at consented
  have same := (alike.trans shown_alike).trans asked_alike
  cases consents with
  | true =>
    obtain ⟨answer, dismissed, given, gives⟩ := gives_bind.mp gives
    obtain ⟨dismisses, _⟩ := operated_of_operate given
    rw [same.session] at dismisses
    exact ⟨_, .dismissContract resolves status_seen consented,
      carries_of_alike dismisses (alike_of_say gives)⟩
  | false =>
    exact ⟨_, .leaveContract resolves status_seen consented,
      (same.trans (alike_of_say gives)).session ▸ .none _⟩

theorem performed_signPayout {start : String} {withToken : Bool}
    (gives : (performSignPayout start withToken).Gives scene u last) :
    (signPayout start withToken).Performed scene last := by
  obtain ⟨id, resolved, seen, gives⟩ := gives_bind.mp gives
  obtain ⟨resolves, alike⟩ := view_of_look seen
  have signed : ∀ {credential : Credential} {asked : Scene}, scene.Alike asked →
      (signPayout start withToken).Means scene.session scene.keys [.signPayout id credential] →
      (operate (.signPayout id credential) >>= fun _ => look (·.theStatus id) >>= fun status =>
        sayAll ["Signed payout for contract " ++ id.short, "Status: " ++ status.label]).Gives
          asked u last → (signPayout start withToken).Performed scene last := by
    intro credential asked asked_alike means gives
    obtain ⟨answer, signed, given, gives⟩ := gives_bind.mp gives
    obtain ⟨signs, _⟩ := operated_of_operate given
    rw [asked_alike.session] at signs
    obtain ⟨status, shown, seen, gives⟩ := gives_bind.mp gives
    obtain ⟨_, shown_alike⟩ := view_of_look seen
    exact ⟨_, means, carries_of_alike signs (shown_alike.trans (alike_of_sayAll gives))⟩
  cases withToken with
  | true =>
    obtain ⟨credential, asked, given, gives⟩ := gives_bind.mp gives
    obtain ⟨token, held, rfl⟩ := gives_map.mp given
    obtain ⟨typed, asked_alike⟩ := typed_of_hold held
    rw [alike.keys] at typed
    exact signed (alike.trans asked_alike) (.signPayoutWithToken resolves typed) gives
  | false =>
    obtain ⟨credential, asked, given, gives⟩ := gives_bind.mp gives
    obtain ⟨password, held, rfl⟩ := gives_map.mp given
    obtain ⟨typed, asked_alike⟩ := typed_of_hold held
    rw [alike.keys] at typed
    exact signed (alike.trans asked_alike) (.signPayout resolves typed) gives

theorem performed_step {start : String} {operation : ContractId → Operation}
    {told : String → List String} (takes : task.step? = some (start, operation))
    (gives : (performOn start operation told).Gives scene u last) :
    task.Performed scene last := by
  obtain ⟨id, resolved, seen, gives⟩ := gives_bind.mp gives
  obtain ⟨resolves, alike⟩ := view_of_look seen
  obtain ⟨answer, taken, given, gives⟩ := gives_bind.mp gives
  obtain ⟨operated, _⟩ := operated_of_operate given
  rw [alike.session] at operated
  exact ⟨_, .step takes resolves, carries_of_alike operated (alike_of_sayAll gives)⟩

theorem performed_select {name : String} (gives : (performSelect name).Gives scene u last) :
    (select name).Performed scene last := by
  obtain ⟨player, looked, seen, gives⟩ := gives_bind.mp gives
  obtain ⟨named, alike⟩ := view_of_look seen
  obtain ⟨answer, selected, given, gives⟩ := gives_bind.mp gives
  obtain ⟨selects, _⟩ := operated_of_operate given
  rw [alike.session] at selects
  exact ⟨_, .select (thePlayerNamed_eq_ok.mp named),
    carries_of_alike selects (alike_of_say gives)⟩

theorem performed_showStatus (gives : performShowStatus.Gives scene u last) :
    showStatus.Performed scene last := by
  obtain ⟨viewer, looked, seen, gives⟩ := gives_bind.mp gives
  obtain ⟨_, alike⟩ := view_of_look seen
  obtain ⟨ledger, found, seen, gives⟩ := gives_bind.mp gives
  obtain ⟨_, found_alike⟩ := view_of_look seen
  obtain ⟨_, told, said, gives⟩ := gives_bind.mp gives
  have same := (alike.trans found_alike).trans (alike_of_say said)
  refine performed_of_tell rfl (same.trans ?_)
  split at gives
  · exact alike_of_sayAll gives
  · exact alike_of_say gives

/-- A task that is done has carried out the operations it stands for. -/
theorem performed_of_gives (wellFormed : scene.session.desk.ledger.WellFormed)
    (gives : task.perform.Gives scene u last) : task.Performed scene last := by
  cases task <;> rw [perform] at gives
  case registerPlayer => exact performed_registerPlayer wellFormed gives
  case addPlayer => exact performed_addPlayer gives
  case listPlayers => exact performed_listPlayers gives
  case removePlayer => exact performed_removePlayer gives
  case newContract => exact performed_newContract gives
  case showContract => exact performed_showContract gives
  case signContract => exact performed_signContract gives
  case dismissContract => exact performed_dismissContract gives
  case signPayout => exact performed_signPayout gives
  case select => exact performed_select gives
  case showStatus => exact performed_showStatus gives
  all_goals exact performed_step rfl gives

end Task

end Terminal

end ArbitratedEscrow
