import ArbitratedEscrow.Proofs.Office.Basic

/-!
# Operations side by side

Operations wait for the wallet, and others may come and go at the same desk in
the meantime. A floor is a desk with the commits that wait there. Every operation
falls into two halves, its check and its conclusion, with any number of halves of
other operations between them; it is known by its ticket, the number of
operations that were checked before. Without anything in between the two halves
make up the operation (`Floor.after_inTurn`).

A conclusion looks at nothing again: a commit is made to the ledger as it is then.
-/

namespace ArbitratedEscrow

/-- A desk with, for each operation checked there, the commit that waits for the wallet, if any. -/
structure Floor where
  desk : Desk
  waiting : List (Option Commit)

namespace Commit

variable {now : Instant} {desk : Desk}

/-- What a change gives holds afterwards, or what held before it. -/
theorem answerWith_holds {α : Type} {answer : α → Answer}
    {change : Except EscrowError (α × Ledger)} (property : Ledger → Prop)
    (before : property desk.ledger)
    (changed : ∀ {result ledger}, change = .ok (result, ledger) → property ledger) :
    property (answerWith desk answer change).2.ledger := by
  cases change with
  | ok result => exact changed rfl
  | error fault => exact before

theorem addNewPlayer_holds {name : String} {mine : Bool} (property : Ledger → Prop)
    (before : property desk.ledger)
    (added : ∀ {player ledger}, desk.ledger.addPlayer player = .ok ledger → property ledger) :
    property (addNewPlayer desk name mine).2.ledger := by
  generalize drawn : desk.ids.draw = draw
  obtain ⟨nonce, ids⟩ := draw
  generalize enrolled : Player.new name mine nonce = player
  have answered : addNewPlayer desk name mine =
      answerWith { desk with ids } .player ((desk.ledger.addPlayer player).map (player, ·)) := by
    simp only [addNewPlayer, drawn, enrolled]
  rw [answered]
  cases found : desk.ledger.addPlayer player with
  | error fault => exact before
  | ok ledger => exact added found

/-- A commit keeps any ledger well formed, and not only the one that was checked. -/
theorem wellFormed_apply (wellFormed : desk.ledger.WellFormed) (commit : Commit) :
    (commit.apply now desk).2.ledger.WellFormed := by
  cases commit with
  | registerPlayer name =>
    rw [apply]
    split
    · refine answerWith_holds Ledger.WellFormed wellFormed fun {_ ledger} changed => ?_
      obtain ⟨next, noted, same⟩ := map_eq_ok.mp changed
      cases same
      exact wellFormed.setMine noted
    · exact addNewPlayer_holds Ledger.WellFormed wellFormed wellFormed.addPlayer
  | addPlayer name => exact addNewPlayer_holds Ledger.WellFormed wellFormed wellFormed.addPlayer
  | removePlayer player => exact wellFormed.removePlayer player.id
  | fileContract => exact wellFormed.addContract _
  | patchContract id patch =>
    exact answerWith_holds Ledger.WellFormed wellFormed wellFormed.updateContract
  | removeContract id => exact wellFormed.removeContract id
  | filePayout id amountOne amountTwo =>
    have cleared := wellFormed.removePayout id
    rw [apply]
    refine answerWith_holds Ledger.WellFormed cleared fun {_ ledger} changed => ?_
    obtain ⟨next, added, same⟩ := map_eq_ok.mp changed
    cases same
    exact cleared.addPayout added
  | patchPayout id patch =>
    exact answerWith_holds Ledger.WellFormed wellFormed wellFormed.updatePayout
  | removePayout id => exact wellFormed.removePayout id

end Commit

/-- An operation succeeds by its commit. -/
theorem Operation.conclude_eq_apply {now : Instant} {desk : Desk} {commit : Commit}
    {outcome : Except EscrowError String} {answer : Answer}
    (succeeded : (conclude now desk commit outcome).1 = .ok answer) :
    conclude now desk commit outcome = commit.apply now desk := by
  rw [conclude] at succeeded ⊢
  cases accepted : outcome.bind Wallet.Reply.parse with
  | error fault =>
    rw [accepted] at succeeded
    cases succeeded
  | ok reply => rfl

namespace Floor

inductive Half where
  | check (operation : Operation)
  | conclude (ticket : Nat) (now : Instant) (outcome : Except EscrowError String)

def opening (ids : IdSource) : Floor := ⟨⟨.empty, ids⟩, []⟩

def commit? (floor : Floor) (ticket : Nat) : Option Commit := floor.waiting[ticket]?.join

/-- Checks an operation, which has a result unless it has to ask the wallet. -/
def check (settings : Settings) (floor : Floor) (operation : Operation) :
    Option (Except EscrowError Answer) × Floor :=
  match operation.check settings floor.desk.ledger with
  | .error fault => (some (.error fault), { floor with waiting := floor.waiting ++ [none] })
  | .ok (.settled answer ledger) =>
    (some (.ok answer), ⟨floor.desk.withLedger ledger, floor.waiting ++ [none]⟩)
  | .ok (.asks _ commit) => (none, { floor with waiting := floor.waiting ++ [some commit] })

/-- Concludes the operation of a ticket with an outcome of the wallet, if it is waiting for one. -/
def conclude (floor : Floor) (ticket : Nat) (now : Instant)
    (outcome : Except EscrowError String) : Option (Except EscrowError Answer) × Floor :=
  match floor.commit? ticket with
  | none => (none, floor)
  | some commit =>
    let (result, desk) := Operation.conclude now floor.desk commit outcome
    (some result, ⟨desk, floor.waiting.set ticket none⟩)

def step (settings : Settings) (floor : Floor) : Half → Option (Except EscrowError Answer) × Floor
  | .check operation => floor.check settings operation
  | .conclude ticket now outcome => floor.conclude ticket now outcome

def after (settings : Settings) (floor : Floor) (halves : List Half) : Floor :=
  halves.foldl (fun floor half => (floor.step settings half).2) floor

variable {settings : Settings} {floor : Floor} {operation : Operation} {now : Instant}
  {outcome : Except EscrowError String}

/-! ### Halves that follow each other -/

/-- Operations of which each is concluded before the next one is checked. -/
def inTurn : Nat → List Office.Event → List Half
  | _, [] => []
  | ticket, .operation operation now outcome :: rest =>
    .check operation :: .conclude ticket now outcome :: inTurn (ticket + 1) rest
  | ticket, _ :: rest => inTurn ticket rest

theorem commit?_concat (desk : Desk) (waiting : List (Option Commit)) (commit : Option Commit) :
    commit? ⟨desk, waiting ++ [commit]⟩ waiting.length = commit := by
  rw [commit?, List.getElem?_concat_length, Option.join_some]

/-- The two halves of an operation do what it does, and its place is empty after them. -/
theorem conclude_check (operation : Operation) (now : Instant)
    (outcome : Except EscrowError String) :
    let checked := floor.check settings operation
    let concluded := checked.2.conclude floor.waiting.length now outcome
    let ran := operation.run (Office.always outcome) settings now () floor.desk
    checked.1.or concluded.1 = some ran.1 ∧
      concluded.2 = ⟨ran.2.2, floor.waiting ++ [none]⟩ := by
  intro checked concluded ran
  cases found : operation.check settings floor.desk.ledger with
  | error fault =>
    simp only [concluded, checked, ran, check, Operation.run, found, conclude, commit?_concat]
    exact ⟨rfl, trivial⟩
  | ok verdict =>
    cases verdict with
    | settled answer ledger =>
      simp only [concluded, checked, ran, check, Operation.run, found, conclude, commit?_concat]
      exact ⟨rfl, rfl⟩
    | asks request commit =>
      simp only [concluded, checked, ran, check, Operation.run, found, conclude, commit?_concat,
        Office.always, List.set_append_right _ _ (Nat.le_refl _), Nat.sub_self, List.set_cons_zero]
      exact ⟨rfl, trivial⟩

/-- Operations in turn lead where they lead in an office. -/
theorem after_inTurn (archive : Archive) (events : List Office.Event)
    (operations : ∀ event ∈ events, ∃ operation now outcome,
      event = .operation operation now outcome) :
    (after settings floor (inTurn floor.waiting.length events)).desk =
      (Office.after settings ⟨floor.desk, archive⟩ events).desk := by
  induction events generalizing floor with
  | nil => rfl
  | cons event rest ih =>
    obtain ⟨operation, now, outcome, rfl⟩ := operations _ List.mem_cons_self
    let ran := operation.run (Office.always outcome) settings now () floor.desk
    let next : Floor := ⟨ran.2.2, floor.waiting ++ [none]⟩
    have concluded : ((floor.check settings operation).2.conclude floor.waiting.length now
        outcome).2 = next := (conclude_check operation now outcome).2
    have length : next.waiting.length = floor.waiting.length + 1 := List.length_append
    calc (after settings floor (inTurn floor.waiting.length (_ :: rest))).desk
        = (after settings ((floor.check settings operation).2.conclude floor.waiting.length now
            outcome).2 (inTurn (floor.waiting.length + 1) rest)).desk := rfl
      _ = (after settings next (inTurn next.waiting.length rest)).desk := by
        rw [concluded, length]
      _ = (Office.after settings ⟨next.desk, archive⟩ rest).desk :=
        ih fun event member => operations event (List.mem_cons_of_mem _ member)

/-! ### What halves keep up -/

theorem wellFormed_step (wellFormed : floor.desk.ledger.WellFormed) (half : Half) :
    (floor.step settings half).2.desk.ledger.WellFormed := by
  cases half with
  | check operation =>
    rw [step, check]
    cases found : operation.check settings floor.desk.ledger with
    | error fault => exact wellFormed
    | ok verdict =>
      have due := Operation.due_of_check found
      cases verdict with
      | settled answer ledger =>
        have move : operation.Move settings .epoch floor.desk answer
            (floor.desk.withLedger ledger) := .settle due
        exact move.wellFormed wellFormed
      | asks request commit => exact wellFormed
  | conclude ticket now outcome =>
    rw [step, conclude]
    cases floor.commit? ticket with
    | none => exact wellFormed
    | some commit =>
      change (Operation.conclude now floor.desk commit outcome).2.ledger.WellFormed
      rw [Operation.conclude]
      cases outcome.bind Wallet.Reply.parse with
      | error fault => exact wellFormed
      | ok reply => exact commit.wellFormed_apply wellFormed

theorem wellFormed_after (wellFormed : floor.desk.ledger.WellFormed) (halves : List Half) :
    (after settings floor halves).desk.ledger.WellFormed := by
  induction halves generalizing floor with
  | nil => exact wellFormed
  | cons half rest ih => exact ih (wellFormed_step wellFormed half)

theorem check_eq (operation : Operation) :
    ∃ desk commit, (floor.check settings operation).2 = ⟨desk, floor.waiting ++ [commit]⟩ := by
  rw [check]
  split
  · exact ⟨_, _, rfl⟩
  · exact ⟨_, _, rfl⟩
  · exact ⟨_, _, rfl⟩

/-- A commit waits until it is made, and no other one takes its place. -/
theorem commit?_step {ticket : Nat} (issued : ticket < floor.waiting.length) (half : Half) :
    let next := (floor.step settings half).2
    ticket < next.waiting.length ∧
      (next.commit? ticket = none ∨ next.commit? ticket = floor.commit? ticket) := by
  intro next
  cases half with
  | check operation =>
    obtain ⟨desk, commit, led⟩ : ∃ desk commit, next = ⟨desk, floor.waiting ++ [commit]⟩ :=
      check_eq operation
    rw [led, List.length_append, commit?, List.getElem?_append_left issued]
    exact ⟨Nat.lt_add_right _ issued, Or.inr rfl⟩
  | conclude other now outcome =>
    have led : next = (floor.conclude other now outcome).2 := rfl
    rw [conclude] at led
    split at led
    · rw [led]
      exact ⟨issued, Or.inr rfl⟩
    · rw [led]
      refine ⟨by simpa using issued, ?_⟩
      by_cases same : other = ticket
      · left
        simp [commit?, same, issued]
      · right
        simp [commit?, same]

theorem commit?_after {ticket : Nat} (issued : ticket < floor.waiting.length)
    (halves : List Half) :
    (after settings floor halves).commit? ticket = none ∨
      (after settings floor halves).commit? ticket = floor.commit? ticket := by
  induction halves generalizing floor with
  | nil => exact Or.inr rfl
  | cons half rest ih =>
    obtain ⟨still, kept⟩ := commit?_step issued half
    rcases ih still with gone | same
    · exact Or.inl gone
    · exact kept.imp same.trans same.trans

/-- What is still waiting was found by the check of its own operation. -/
theorem asks_of_waiting {commit : Commit} {halves : List Half}
    (waits : (after settings (floor.check settings operation).2 halves).commit?
      floor.waiting.length = some commit) :
    ∃ request, operation.check settings floor.desk.ledger = .ok (.asks request commit) := by
  have queued : (floor.check settings operation).2.commit? floor.waiting.length = some commit := by
    have issued : floor.waiting.length < (floor.check settings operation).2.waiting.length := by
      obtain ⟨desk, pending, checked⟩ : ∃ desk pending, (floor.check settings operation).2 =
          ⟨desk, floor.waiting ++ [pending]⟩ := check_eq operation
      rw [checked, List.length_append]
      exact Nat.lt_succ_self _
    rcases commit?_after issued halves with gone | same
    · cases gone.symm.trans waits
    · exact same.symm.trans waits
  rw [check] at queued
  cases found : operation.check settings floor.desk.ledger with
  | error fault =>
    rw [found] at queued
    cases (commit?_concat _ _ _).symm.trans queued
  | ok verdict =>
    rw [found] at queued
    cases verdict with
    | settled answer ledger => cases (commit?_concat _ _ _).symm.trans queued
    | asks request pending =>
      cases (commit?_concat _ _ _).symm.trans queued
      exact ⟨request, rfl⟩

end Floor

end ArbitratedEscrow
