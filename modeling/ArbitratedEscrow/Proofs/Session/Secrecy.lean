import Mathlib.Data.List.Forall2
import ArbitratedEscrow.Session
import ArbitratedEscrow.Proofs.Operation.Secrecy

/-!
# What sessions find out about secrets

Of two sessions that take the same steps, but for secrets that pass for each
other, nobody can tell which is which: neither from what each step gives back,
nor from the wallet's log, nor from the ledger or the rows of the archive.
-/

namespace ArbitratedEscrow.Session

inductive Step.SameButSecret (settings : Settings) : Step → Step → Prop where
  | same (step : Step) : SameButSecret settings step step
  | operation {operation other : Operation} (same : operation.SameButSecret settings other) :
      SameButSecret settings (.operation operation) (.operation other)

def run (session : Session) : List Step → List (Except EscrowError Report) × Session
  | [] => ([], session)
  | step :: rest =>
    let (report, next) := session.step step
    let (reports, last) := next.run rest
    (report :: reports, last)

variable {session : Session}

/-- No step changes the settings. -/
theorem settings_step (session : Session) (step : Step) :
    (session.step step).2.settings = session.settings := by
  cases step with
  | keep | load | reopen | insert | clear =>
    simp only [Session.step]
    split <;> rfl
  | operation | edit | forget | query | view | settings | reject | enqueue | walletLog
  | archivedPlayers | archivedContracts | archivedPayouts | archivedSelection | setClock => rfl

theorem step_sameButSecret {step other : Step}
    (same : step.SameButSecret session.settings other) :
    session.step step = session.step other := by
  cases same with
  | same => rfl
  | operation same =>
    have ran := Operation.run_sameButSecret (fun alike => Wallet.Rehearsal.call_alike alike) same
      session.now session.wallet session.desk
    simp only [Session.step, operate, ran]

/--
Whatever else goes on in a session, and whatever fails: with other secrets in the
same steps every report, every error, the wallet with its log, the ledger and the
archive are the same.
-/
theorem secrets_unseen {steps others : List Step}
    (same : List.Forall₂ (Step.SameButSecret session.settings) steps others) :
    session.run steps = session.run others := by
  induction steps generalizing session others with
  | nil =>
    cases same
    rfl
  | cons step rest ih =>
    obtain ⟨other, more, first, remaining, rfl⟩ := List.forall₂_cons_left_iff.mp same
    have stepped : session.step step = session.step other := step_sameButSecret first
    have unchanged := settings_step session other
    have later : (session.step other).2.run rest = (session.step other).2.run more :=
      ih (unchanged.symm ▸ remaining)
    simp only [run, stepped, later]

def shortTerms : Contract :=
  ⟨⟨"c"⟩, ⟨"a"⟩, ⟨"b"⟩, 5, "", .blank, .unbroadcast, .epoch⟩

/--
Alice enrols, Bob's passphrase is too short, an empty password is refused and
another one is not, a token comes too early and the wallet rejects a contract.
-/
def guesses (first short good token : String) : List Step :=
  [.operation (.registerPlayer "alice" ⟨first⟩), .operation (.registerPlayer "bob" ⟨short⟩),
    .edit (.addPlayer ⟨⟨"a"⟩, "anna", "", true⟩), .edit (.select ⟨"a"⟩),
    .edit (.addContract shortTerms), .reject "contract delete",
    .operation (.signContract ⟨"c"⟩ ⟨""⟩), .operation (.signContract ⟨"c"⟩ ⟨good⟩),
    .operation (.signPayout ⟨"c"⟩ (.token ⟨token⟩)), .operation (.dismissContract ⟨"c"⟩), .keep]

/-- The log shows what was asked of the wallet and not with which words. -/
theorem secrets_unseen_guesses :
    let session : Session := { settings := default, desk := ⟨.empty, .ofSeed 1⟩, now := .epoch }
    let steps := guesses "correct horse" "battery" "staple" "0xff"
    let others := guesses "quite another one" "x" "y" "z"
    session.run steps = session.run others ∧
      (session.run others).2.wallet.log =
        ["player register \"alice\"", "contract sign c", "contract sign c", "contract delete c"] ∧
      (session.run others).1.map Except.isOk =
        [true, false, true, true, true, true, false, true, false, false, true] := by
  intro session steps others
  refine ⟨secrets_unseen ?_, by decide +kernel, by decide +kernel⟩
  have alike : ∀ {a b : String}, a ≠ "" → b ≠ "" → Secret.Alike ⟨a⟩ ⟨b⟩ := fun one two =>
    iff_of_false one two
  refine .cons (.operation (.registerPlayer _ (alike (by decide) (by decide)) (by decide))) ?_
  refine .cons (.operation (.registerPlayer _ (alike (by decide) (by decide)) (by decide))) ?_
  refine .cons (.same _) (.cons (.same _) (.cons (.same _) (.cons (.same _) (.cons (.same _) ?_))))
  refine .cons (.operation (.signContract _ (alike (by decide) (by decide)))) ?_
  refine .cons (.operation (.signPayout _ rfl (alike (by decide) (by decide)))) ?_
  exact .cons (.same _) (.cons (.same _) .nil)

end ArbitratedEscrow.Session
