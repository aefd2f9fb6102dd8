import ArbitratedEscrow.Proofs.Office.Invariant
import ArbitratedEscrow.Proofs.Operation.Progress

/-!
# Operations do not go back

Whatever a run has led to, one more operation leaves contracts and payouts as
they are or takes them further: only a proposal puts another payout in the place
of one. A step that succeeds takes exactly one record exactly one signature or
one status further.
-/

namespace ArbitratedEscrow.Office

/--
What is there before and after an operation has at most come further, except for
a payout in whose place another one is proposed. Every other step that succeeds
takes the contract or its payout exactly one step further, and nothing else.
-/
theorem progress_monotone (settings : Settings) (ids : IdSource) (events : List Event)
    (operation : Operation) (now : Instant) (outcome : Except EscrowError String)
    (fresh : Fresh (history settings (opening ids)
      (events ++ [.operation operation now outcome]))) :
    let office := after settings (opening ids) events
    let ran := office.operate settings operation now outcome
    let before := office.desk.ledger
    let later := ran.2.desk.ledger
    (∀ id contract found, before.contract? id = some contract →
      later.contract? id = some found → contract.Onward found) ∧
    (∀ id payout found, before.payout? id = some payout → later.payout? id = some found →
      (∀ one two, operation ≠ .proposePayout id one two) → payout.Onward found) ∧
    ∀ id answer, operation.furthers = some id → operation.proposes = false →
      ran.1 = .ok answer →
        operation.Advances before id later ∧ later.progress id = before.progress id + 1 := by
  intro office ran before later
  have wellFormed : before.WellFormed := (holds_wellFormed settings ids events).here
  rcases operate_cases wellFormed operation now outcome with
    ⟨fault, failed⟩ | ⟨answer, desk, moved, move⟩
  · have same : later = before := congrArg (·.2.desk.ledger) failed
    refine ⟨fun id contract found stored also => ?_, fun id payout found stored also _ => ?_,
      fun id answer _ _ succeeded => ?_⟩
    · rw [same] at also
      cases stored.symm.trans also
      exact contract.onward_refl
    · rw [same] at also
      cases stored.symm.trans also
      exact payout.onward_refl
    · cases (congrArg Prod.fst failed).symm.trans succeeded
  · have led : later = desk.ledger := congrArg (·.2.desk.ledger) moved
    have unstored : ∀ {id}, operation.filed? answer = some id → before.contract? id = none :=
      fun files => unstored_of_fresh fresh
        ((Entry.filed?_eq rfl (congrArg Prod.fst moved)).trans files)
    rw [led]
    refine ⟨fun id contract found stored also => ?_, fun id payout found stored also others => ?_,
      fun id _ further patches _ => ?_⟩
    · exact (Operation.onContract_of_move wellFormed move also).onward stored unstored
    · exact (Operation.onPayout_of_move wellFormed move also).onward wellFormed stored others
    · have advances := Operation.advances_of_move wellFormed move further fun proposes => by
        rw [patches] at proposes
        cases proposes
      exact ⟨advances, advances.progress⟩

theorem after_operation {settings : Settings} {office : Office} (events : List Event)
    (operation : Operation) (now : Instant) (outcome : Except EscrowError String) :
    after settings office (events ++ [.operation operation now outcome]) =
      ((after settings office events).operate settings operation now outcome).2 :=
  after_concat events _

theorem wager_eq_concat :
    wager = wager.take 13 ++ [.operation (.broadcastPayout wagerId) .epoch carriedOut] := rfl

theorem broadcast_wager :
    ((after (.forNetwork .regtest) (opening wagerIds) (wager.take 13)).operate
      (.forNetwork .regtest) (.broadcastPayout wagerId) .epoch carriedOut).1 =
        .ok (.payout ⟨wagerId, 60, 40, ⟨false, true, true⟩, true, .broadcast, .epoch⟩) := by
  decide +kernel

/-- The last step of the wager takes its payout to the next status. -/
theorem progress_monotone_wager :
    (Operation.broadcastPayout wagerId).Advances
      (ledgerAfter (.forNetwork .regtest) wagerIds (wager.take 13)) wagerId
      (ledgerAfter (.forNetwork .regtest) wagerIds wager) := by
  have fresh := fresh_wager
  rw [wager_eq_concat] at fresh
  obtain ⟨_, _, steps⟩ := progress_monotone (.forNetwork .regtest) wagerIds (wager.take 13)
    (.broadcastPayout wagerId) .epoch carriedOut fresh
  obtain ⟨advances, _⟩ := steps wagerId _ rfl rfl broadcast_wager
  have sent : ledgerAfter (.forNetwork .regtest) wagerIds wager =
      ((after (.forNetwork .regtest) (opening wagerIds) (wager.take 13)).operate
        (.forNetwork .regtest) (.broadcastPayout wagerId) .epoch carriedOut).2.desk.ledger :=
    (congrArg (ledgerAfter _ _) wager_eq_concat).trans
      (congrArg (·.desk.ledger) (after_operation _ _ _ _))
  rw [sent]
  exact advances

end ArbitratedEscrow.Office
