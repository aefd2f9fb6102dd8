import ArbitratedEscrow.Proofs.Office.Basic
import ArbitratedEscrow.Proofs.Operation.Survivors

/-!
# Restarts make no difference

A shift is an office at work with a wallet. Between any two operations the office
may be restarted. A run with restarts comes to the same as the run without them:
the same results, the same requests to the wallet, the same identifiers and the
same ledger, except that the instants of what has come through a restart are cut
to whole seconds. Results are compared one by one: every operation of a run is
the next one after those before it.
-/

namespace ArbitratedEscrow.Office

inductive Duty where
  | operation (operation : Operation) (now : Instant)
  | restart (now : Instant)

def Duty.isRestart : Duty → Bool
  | restart _ => true
  | _ => false

/-- An office and the wallet it works with. -/
structure Shift (σ : Type) where
  wallet : σ
  office : Office

namespace Shift

variable {σ : Type} (call : Wallet.Request → σ → Except EscrowError String × σ)
  (settings : Settings)

/-- The result of a duty and the shift after it. The wallet outlives a restart. -/
def perform (shift : Shift σ) : Duty → Except EscrowError Answer × Shift σ
  | .operation operation now =>
    let (result, wallet, desk) := operation.run call settings now shift.wallet shift.office.desk
    (result, ⟨wallet, { shift.office with desk }⟩)
  | .restart now =>
    let (result, office) := shift.office.step settings (.restart now)
    (result, { shift with office })

def after (shift : Shift σ) (duties : List Duty) : Shift σ :=
  duties.foldl (fun shift duty => (shift.perform call settings duty).2) shift

/-- What has come through a restart once a duty is done. -/
def survivors (shift : Shift σ) (survivors : Survivors) : Duty → Survivors
  | .operation operation now =>
    survivors.after operation (shift.perform call settings (.operation operation now)).1
  | .restart _ => .all shift.office.desk.ledger

def survivorsAfter (shift : Shift σ) : Survivors → List Duty → Survivors
  | survivors, [] => survivors
  | survivors, duty :: rest =>
    survivorsAfter (shift.perform call settings duty).2
      (shift.survivors call settings survivors duty) rest

/-- A shift with restarts keeps up with one without. -/
structure KeepsUp (survivors : Survivors) (plain restarted : Shift σ) : Prop where
  wellFormed : plain.office.desk.ledger.WellFormed
  wallet : restarted.wallet = plain.wallet
  desk : restarted.office.desk = survivors.roundDesk plain.office.desk

variable {call settings} in
theorem survivors_operation (shift : Shift σ) (survivors : Survivors) (operation : Operation)
    (now : Instant) : shift.survivors call settings survivors (.operation operation now) =
      survivors.after operation (shift.perform call settings (.operation operation now)).1 := rfl

namespace KeepsUp

variable {call settings} {survivors : Survivors} {plain restarted : Shift σ}

theorem result (keepsUp : KeepsUp survivors plain restarted) (operation : Operation)
    (now : Instant) :
    (restarted.perform call settings (.operation operation now)).1 =
      let result := (plain.perform call settings (.operation operation now)).1
      result.map (survivors.after operation result).roundAnswer := by
  simp only [perform, keepsUp.wallet, keepsUp.desk, survivors.run_round call _ keepsUp.wellFormed,
    Survivors.roundResult]

theorem operation (keepsUp : KeepsUp survivors plain restarted) (operation : Operation)
    (now : Instant) :
    KeepsUp (restarted.survivors call settings survivors (.operation operation now))
      (plain.perform call settings (.operation operation now)).2
      (restarted.perform call settings (.operation operation now)).2 where
  wellFormed := Operation.wellFormed_run call _ keepsUp.wellFormed
  wallet := by
    simp only [perform, keepsUp.wallet, keepsUp.desk,
      survivors.run_round call _ keepsUp.wellFormed]
  desk := by
    rw [survivors_operation, keepsUp.result, Survivors.after_map]
    simp only [perform, keepsUp.wallet, keepsUp.desk,
      survivors.run_round call _ keepsUp.wellFormed, Survivors.roundResult]

theorem restart (keepsUp : KeepsUp survivors plain restarted) (now : Instant) :
    (restarted.perform call settings (.restart now)).1 = .ok .done ∧
      KeepsUp (restarted.survivors call settings survivors (.restart now)) plain
        (restarted.perform call settings (.restart now)).2 := by
  have ledger : restarted.office.desk.ledger = survivors.round plain.office.desk.ledger :=
    congrArg Desk.ledger keepsUp.desk
  have wellFormed : restarted.office.desk.ledger.WellFormed :=
    ledger ▸ survivors.wellFormed_round keepsUp.wellFormed
  obtain ⟨archive, _, stepped⟩ : ∃ archive, _ ∧
      restarted.office.step settings (.restart now) = _ := step_restart wellFormed now
  rw [perform, stepped]
  refine ⟨rfl, keepsUp.wellFormed, keepsUp.wallet, ?_⟩
  change restarted.office.desk.withLedger restarted.office.desk.ledger.wholeSeconds =
    (Survivors.all restarted.office.desk.ledger).roundDesk plain.office.desk
  rw [keepsUp.desk]
  exact congrArg (Desk.withLedger _) (survivors.wholeSeconds_round keepsUp.wellFormed)

theorem after (keepsUp : KeepsUp survivors plain restarted) (duties : List Duty) :
    KeepsUp (restarted.survivorsAfter call settings survivors duties)
      (plain.after call settings (duties.filter fun duty => !duty.isRestart))
      (restarted.after call settings duties) := by
  induction duties generalizing survivors plain restarted with
  | nil => exact keepsUp
  | cons duty rest ih =>
    cases duty with
    | operation operation now => exact ih (keepsUp.operation operation now)
    | restart now => exact ih (keepsUp.restart now).2

end KeepsUp

end Shift

/--
With restarts at any places, a run asks the wallet for the same and leads to the
same desk as without them, its next operation has the same result, and its next
restart goes through. Only the instants of contracts and payouts that were there
at a restart, and have not been replaced by new ones since, are cut to whole
seconds. The wallet can be any that answers by its state and the request, as the
one for rehearsals does.
-/
theorem restarts_transparent {σ : Type}
    (call : Wallet.Request → σ → Except EscrowError String × σ) (settings : Settings)
    (wallet : σ) (ids : IdSource) (duties : List Duty) :
    let opened : Shift σ := ⟨wallet, opening ids⟩
    let plain := opened.after call settings (duties.filter fun duty => !duty.isRestart)
    let restarted := opened.after call settings duties
    let survivors := opened.survivorsAfter call settings .empty duties
    restarted.wallet = plain.wallet ∧
      restarted.office.desk = survivors.roundDesk plain.office.desk ∧
      (∀ operation now,
        let result := (plain.perform call settings (.operation operation now)).1
        (restarted.perform call settings (.operation operation now)).1 =
          result.map (survivors.after operation result).roundAnswer) ∧
      ∀ now, (restarted.perform call settings (.restart now)).1 = .ok .done := by
  intro opened plain restarted survivors
  have start : Shift.KeepsUp .empty opened opened := ⟨Ledger.wellFormed_empty, rfl, rfl⟩
  have keepsUp : Shift.KeepsUp survivors plain restarted := start.after duties
  exact ⟨keepsUp.wallet, keepsUp.desk, keepsUp.result, fun now => (keepsUp.restart now).1⟩

end ArbitratedEscrow.Office
