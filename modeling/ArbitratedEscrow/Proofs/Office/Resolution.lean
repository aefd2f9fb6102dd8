import ArbitratedEscrow.Proofs.Office.Offer
import ArbitratedEscrow.Proofs.Operation.Resolution

/-!
# No dead ends

Wherever a run has led and whoever had a hand in it, a contract between two
players who are known can be brought to its end, and without declining,
dismissing or denying anything. As long as it is not resolved one of the parties
can take it a step further, and there are only so many steps.
-/

namespace ArbitratedEscrow.Office

def carry (now : Instant) (text : String) (operations : List Operation) : List Event :=
  operations.map fun operation => .operation operation now (.ok text)

/-- A player who is selected sees a contract resolved. -/
def SeesResolved (ledger : Ledger) (id : ContractId) (player : PlayerId) : Prop :=
  ledger.selected = some player ∧ ledger.theStatus id = .ok .resolved

variable {settings : Settings} {office : Office} {now : Instant} {text : String}
  {reply : Wallet.Reply} {id : ContractId} {contract : Contract}

theorem step_select {chosen : PlayerId} {player : Player}
    (known : office.desk.ledger.player? chosen = some player)
    (outcome : Except EscrowError String) :
    (office.step settings (.operation (.select chosen) now outcome)).2 =
      { office with
        desk := office.desk.withLedger (office.desk.ledger.withSelected (some chosen)) } := by
  rw [step, operate, run_select known]

/-- A party takes the step that is named. -/
theorem step_advances (sound : office.desk.ledger.Sound) {seat : Seat} {status : ContractStatus}
    (sees : office.desk.ledger.Sees id (contract.player seat) contract status)
    {operation : Operation} (further : operation.furthers = some id)
    (named : status.nextAction.Names contract.amount operation)
    (accepts : Wallet.Reply.parse text = .ok reply) :
    let next := (office.step settings (.operation operation now (.ok text))).2
    next.desk.ledger.Sound ∧ operation.Advances office.desk.ledger id next.desk.ledger := by
  intro next
  have seated := (sound.contract sees.stored).seatOf_player seat
  have guarded := Operation.guarded_of_furthers further
  have accepted : operation.AcceptedBy (always (.ok text)) () := fun _ => ⟨reply, accepts⟩
  obtain ⟨_, succeeded⟩ : operation.Succeeds (always (.ok text)) settings now () office.desk :=
    Operation.succeeds_of_names sound.wellFormed sees seated
      (Operation.actsOn_of_guarded guarded) accepted named
  rcases operate_cases sound.wellFormed operation now (.ok text) with
    ⟨_, failed⟩ | ⟨answer, desk, moved, move⟩
  · cases (congrArg Prod.fst failed).symm.trans succeeded
  · have led : next.desk = desk := congrArg (·.2.desk) moved
    have unpaid : operation.proposes = true → office.desk.ledger.payout? id = none := by
      intro proposes
      have opens := Operation.openIn_of_names guarded named
      have live : status = .live := by
        cases operation <;> first | exact opens.1 | cases proposes
      exact sound.unpaid_of_live sees.stored (Contract.status_eq_iff.mpr (live ▸ sees.shown))
    rw [led]
    refine ⟨move.sound sound ?_, Operation.advances_of_move sound.wellFormed move further unpaid⟩
    intro _ files
    rw [Operation.files_nothing further] at files
    cases files

/-- Unless a contract is resolved, one of its parties can be selected and take it further. -/
theorem resolved_or_advances (settings : Settings) (now : Instant)
    (sound : office.desk.ledger.Sound)
    (stored : office.desk.ledger.contract? id = some contract)
    (known : ∀ seat, ∃ player, office.desk.ledger.player? (contract.player seat) = some player)
    (accepts : Wallet.Reply.parse text = .ok reply) :
    (∀ viewer, contract.status office.desk.ledger.lookup viewer = .resolved) ∨
      ∃ chosen operation, Operation.furthers operation = some id ∧
        let next := after settings office (carry now text [.select chosen, operation])
        next.desk.ledger.Sound ∧ next.desk.ledger.players = office.desk.ledger.players ∧
          next.desk.ledger.progress id = office.desk.ledger.progress id + 1 ∧
          ∃ found, next.desk.ledger.contract? id = some found ∧ contract.Onward found := by
  obtain ⟨first, present⟩ := known .one
  rcases sound.due stored present with resolved | ⟨seat, operation, further, named⟩
  · exact Or.inl resolved
  · right
    obtain ⟨player, present⟩ := known seat
    let handed : Office := { office with
      desk := office.desk.withLedger
        (office.desk.ledger.withSelected (some (contract.player seat))) }
    have sees : handed.desk.ledger.Sees id (contract.player seat) contract
        (contract.status office.desk.ledger.lookup (contract.player seat)) :=
      ⟨rfl, stored, Contract.status_eq_iff.mp rfl⟩
    have advanced : let next := (handed.step settings (.operation operation now (.ok text))).2
        next.desk.ledger.Sound ∧ operation.Advances handed.desk.ledger id next.desk.ledger :=
      step_advances (sound.withSelected present) sees further named accepts
    refine ⟨contract.player seat, operation, further, ?_⟩
    rw [carry, List.map_cons, after_cons, step_select present]
    exact ⟨advanced.1, advanced.2.players, advanced.2.progress, advanced.2.onward stored⟩

theorem resolvable_from (sound : office.desk.ledger.Sound)
    (stored : office.desk.ledger.contract? id = some contract)
    (known : ∀ seat, ∃ player, office.desk.ledger.player? (contract.player seat) = some player)
    (accepts : Wallet.Reply.parse text = .ok reply) :
    ∃ operations : List Operation,
      (∀ operation ∈ operations,
        (∃ player, operation = .select player) ∨ operation.furthers = some id) ∧
      ∀ seat, SeesResolved (after settings office
        (carry now text (operations ++ [.select (contract.player seat)]))).desk.ledger id
        (contract.player seat) := by
  -- by what is left of the way, which is at most eleven steps long
  induction left : 11 - office.desk.ledger.progress id using Nat.strongRecOn
    generalizing office contract with
  | ind left ih =>
    rcases resolved_or_advances settings now sound stored known accepts with
      resolved | ⟨chosen, operation, further, soundNext, players, progress, found, there, onward⟩
    · refine ⟨[], by simp, fun seat => ?_⟩
      obtain ⟨player, present⟩ := known seat
      rw [List.nil_append, carry, List.map_singleton, after_cons, step_select present]
      refine ⟨rfl, Ledger.theStatus_eq_ok.mpr ⟨contract.player seat, contract, rfl, stored, ?_⟩⟩
      exact Contract.status_eq_iff.mp (resolved _)
    · let next := after settings office (carry now text [.select chosen, operation])
      have nearer : next.desk.ledger.progress id = office.desk.ledger.progress id + 1 := progress
      have bound : next.desk.ledger.progress id ≤ 11 := Ledger.progress_le _ _
      have knownNext : ∀ seat, ∃ player,
          next.desk.ledger.player? (found.player seat) = some player := by
        intro seat
        rw [onward.player, Ledger.player?, players]
        exact known seat
      obtain ⟨rest, allowed, resolves⟩ := ih (11 - next.desk.ledger.progress id) (by omega)
        soundNext there knownNext rfl
      refine ⟨.select chosen :: operation :: rest, ?_, fun seat => ?_⟩
      · simp only [List.mem_cons]
        rintro other (rfl | rfl | member)
        · exact Or.inl ⟨_, rfl⟩
        · exact Or.inr further
        · exact allowed other member
      · rw [onward.player] at resolves
        exact resolves seat

/--
Some selections and steps that the wallet carries out bring a contract between
two known players to where either of them, once selected, sees it resolved.
-/
theorem resolvable (settings : Settings) (ids : IdSource) (events : List Event)
    (fresh : Fresh (history settings (opening ids) events)) {id : ContractId}
    {contract : Contract}
    (stored : (ledgerAfter settings ids events).contract? id = some contract)
    (known : ∀ seat, ∃ player,
      (ledgerAfter settings ids events).player? (contract.player seat) = some player)
    (now : Instant) {text : String} {reply : Wallet.Reply}
    (accepts : Wallet.Reply.parse text = .ok reply) :
    ∃ operations : List Operation,
      (∀ operation ∈ operations,
        (∃ player, operation = .select player) ∨ operation.furthers = some id) ∧
      ∀ seat, SeesResolved (ledgerAfter settings ids
        (events ++ carry now text (operations ++ [.select (contract.player seat)]))) id
        (contract.player seat) := by
  have sound : (ledgerAfter settings ids events).Sound :=
    (holds_sound settings ids events fresh).here
  obtain ⟨operations, allowed, resolves⟩ := resolvable_from sound stored known accepts
  refine ⟨operations, allowed, fun seat => ?_⟩
  rw [ledgerAfter, after, List.foldl_append]
  exact resolves seat

theorem known_halfSigned (seat : Seat) :
    ∃ player, (ledgerAfter (.forNetwork .regtest) wagerIds halfSigned).player?
      (Contract.player ⟨wagerId, ⟨(wagerIds.nth 0).text⟩, ⟨(wagerIds.nth 1).text⟩, 100, "a wager",
        ⟨true, false, false⟩, .unbroadcast, .epoch⟩ seat) = some player := by
  cases seat with
  | one =>
    have known : (ledgerAfter (.forNetwork .regtest) wagerIds halfSigned).player?
        ⟨(wagerIds.nth 0).text⟩ = some (Player.new "alice" true (wagerIds.nth 0)) := by
      decide +kernel
    exact ⟨_, known⟩
  | two => exact ⟨_, stored_halfSigned.2.2.2.1⟩

/-- From where only Alice has signed, the wager can be brought to its end. -/
theorem resolvable_wager :
    ∃ operations : List Operation,
      (∀ operation ∈ operations,
        (∃ player, operation = .select player) ∨ operation.furthers = some wagerId) ∧
      SeesResolved (ledgerAfter (.forNetwork .regtest) wagerIds (halfSigned ++
        carry .epoch (Wallet.Reply.accepted none).text
          (operations ++ [.select ⟨(wagerIds.nth 0).text⟩]))) wagerId ⟨(wagerIds.nth 0).text⟩ := by
  obtain ⟨fresh, stored, _⟩ := stored_halfSigned
  have accepts : Wallet.Reply.parse (Wallet.Reply.accepted none).text =
      .ok (Wallet.Reply.accepted none) := rfl
  obtain ⟨operations, allowed, resolves⟩ := resolvable (.forNetwork .regtest) wagerIds halfSigned
    fresh stored known_halfSigned .epoch accepts
  exact ⟨operations, allowed, resolves .one⟩

end ArbitratedEscrow.Office
