import ArbitratedEscrow.Terminal.Perform

/-!
# What acts come to

An act that ends well gives a result and leaves a scene behind (`Act.Gives`). Of
scenes only the session and the keys bear on what follows, and only operations
change the session: what is written, looked up or asked leaves both as they are.
-/

namespace ArbitratedEscrow.Terminal

structure Scene.Alike (scene next : Scene) : Prop where
  session : next.session = scene.session
  keys : next.keys = scene.keys

theorem Scene.Alike.trans {scene next last : Scene} (first : scene.Alike next)
    (second : next.Alike last) : scene.Alike last :=
  ⟨second.session.trans first.session, second.keys.trans first.keys⟩

/-- The keys typed at a terminal answer a dialog. -/
def Typed {α : Type} (keys : Option (List Char)) (dialog : List Char → Dialog α) (a : α) : Prop :=
  ∃ typed, keys = some typed ∧ (dialog typed).answer = .ok a

namespace Act

/-- An act ends well in a scene. -/
def Gives {α : Type} (act : Act α) (scene : Scene) (a : α) (next : Scene) : Prop :=
  act.run.run scene = (.ok a, next)

variable {α β : Type} {scene next last : Scene} {a : α} {b : β}

theorem gives_pure {result : α} : (pure result : Act α).Gives scene a next ↔
    result = a ∧ scene = next := by
  constructor
  · intro gives
    injection gives with value same
    injection value with value
    exact ⟨value, same⟩
  · rintro ⟨rfl, rfl⟩
    rfl

theorem run_bind_ok {act : Act α} (further : α → Act β)
    (first : act.run.run scene = (.ok a, next)) :
    (act >>= further).run.run scene = (further a).run.run next := by
  rw [ExceptT.run_bind, StateT.run_bind, first]
  rfl

theorem run_bind_error {act : Act α} (further : α → Act β) {fault : EscrowError}
    (first : act.run.run scene = (.error fault, next)) :
    (act >>= further).run.run scene = (.error fault, next) := by
  rw [ExceptT.run_bind, StateT.run_bind, first]
  rfl

/-- Two acts one after the other end well if the first does and then the second. -/
theorem gives_bind {act : Act α} {further : α → Act β} :
    (act >>= further).Gives scene b last ↔
      ∃ a next, act.Gives scene a next ∧ (further a).Gives next b last := by
  constructor
  · intro gives
    rcases first : act.run.run scene with ⟨fault | a, next⟩
    · rw [Gives, run_bind_error further first] at gives
      injection gives with value
      cases value
    · rw [Gives, run_bind_ok further first] at gives
      exact ⟨a, next, first, gives⟩
  · rintro ⟨a, next, first, second⟩
    exact (run_bind_ok further first).trans second

theorem gives_map {act : Act α} {f : α → β} :
    (f <$> act).Gives scene b next ↔ ∃ a, act.Gives scene a next ∧ f a = b := by
  rw [map_eq_pure_bind, gives_bind]
  constructor
  · rintro ⟨a, middle, given, rest⟩
    obtain ⟨same, rfl⟩ := gives_pure.mp rest
    exact ⟨a, given, same⟩
  · rintro ⟨a, given, same⟩
    exact ⟨a, next, given, gives_pure.mpr ⟨same, rfl⟩⟩

/-! ### Single acts -/

theorem alike_of_say {line : String} {u : Unit} (gives : (say line).Gives scene u next) :
    scene.Alike next := by
  cases gives
  exact ⟨rfl, rfl⟩

theorem alike_of_sayAll {lines : List String} {u : Unit}
    (gives : (sayAll lines).Gives scene u next) : scene.Alike next := by
  induction lines generalizing scene with
  | nil =>
    obtain ⟨_, rfl⟩ := gives_pure.mp gives
    exact ⟨rfl, rfl⟩
  | cons line lines ih =>
    obtain ⟨_, middle, said, rest⟩ := gives_bind.mp gives
    exact (alike_of_say said).trans (ih rest)

theorem run_get_bind (act : Scene → Act α) :
    (get >>= act).run.run scene = (act scene).run.run scene := rfl

theorem run_set_bind (act : PUnit → Act α) :
    (set next >>= act).run.run scene = (act ⟨⟩).run.run next := rfl

/-- A look gives what is seen and leaves the scene as it is. -/
theorem run_look (view : Ledger → Except EscrowError α) :
    (look view).run.run scene = (view scene.session.desk.ledger, scene) := by
  rw [look, run_get_bind]
  cases view scene.session.desk.ledger <;> rfl

theorem view_of_look {view : Ledger → Except EscrowError α}
    (gives : (look view).Gives scene a next) :
    view scene.session.desk.ledger = .ok a ∧ scene.Alike next := by
  rw [Gives, run_look] at gives
  obtain ⟨viewed, rfl⟩ := Prod.mk.inj gives
  exact ⟨viewed, rfl, rfl⟩

theorem run_operate (operation : Operation) :
    (operate operation).run.run scene = ((scene.session.operate operation).1,
      { scene with session := (scene.session.operate operation).2 }) := by
  rw [operate, run_get_bind]
  rcases scene.session.operate operation with ⟨_ | _, session⟩ <;> rfl

theorem operated_of_operate {operation : Operation} {answer : Answer}
    (gives : (operate operation).Gives scene answer next) :
    scene.session.operate operation = (.ok answer, next.session) ∧ next.keys = scene.keys := by
  rw [Gives, run_operate] at gives
  obtain ⟨result, rfl⟩ := Prod.mk.inj gives
  exact ⟨Prod.ext result rfl, rfl⟩

theorem run_hold_none (dialog : List Char → Dialog α) (untyped : scene.keys = none) :
    (hold dialog).run.run scene = (.error (.dialog .noTerminal), scene) := by
  rw [hold, run_get_bind, untyped]
  rfl

theorem run_hold_some {keys : List Char} (dialog : List Char → Dialog α)
    (typed : scene.keys = some keys) :
    (hold dialog).run.run scene = ((dialog keys).answer.mapError EscrowError.dialog,
      { scene with err := scene.err ++ (dialog keys).drawn }) := by
  rcases scene with ⟨session, _ | _, out, err⟩
  · cases typed
  · cases typed
    rw [hold, run_get_bind]
    dsimp only
    rw [run_set_bind]
    cases (dialog keys).answer <;> rfl

theorem typed_of_hold {dialog : List Char → Dialog α} (gives : (hold dialog).Gives scene a next) :
    Typed scene.keys dialog a ∧ scene.Alike next := by
  rw [Gives] at gives
  cases typed : scene.keys with
  | none =>
    rw [run_hold_none dialog typed] at gives
    cases gives
  | some keys =>
    rw [run_hold_some dialog typed] at gives
    obtain ⟨answered, rfl⟩ := Prod.mk.inj gives
    cases answer : (dialog keys).answer with
    | error fault =>
      rw [answer] at answered
      cases answered
    | ok found =>
      rw [answer] at answered
      cases answered
      exact ⟨⟨keys, rfl, answer⟩, rfl, rfl⟩

end Act

end ArbitratedEscrow.Terminal
