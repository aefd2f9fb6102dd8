import ArbitratedEscrow.Proofs.Ledger.Survivors
import ArbitratedEscrow.Proofs.Operation.Move

/-!
# Operations on what has come through a restart

An operation comes to the same on a ledger with and without restarts: it is
checked alike, asks the wallet for the same, draws the same identifiers and
gives the same answer, up to the instants of survivors (`Survivors.run_round`).
What it files or proposes is none of them (`Survivors.after`).
-/

namespace ArbitratedEscrow.Survivors

def roundVerdict (survivors : Survivors) : Verdict → Verdict
  | .settled answer ledger => .settled (survivors.roundAnswer answer) (survivors.round ledger)
  | .asks request commit => .asks request commit

/-- The survivors after an operation with a result. -/
def after (survivors : Survivors) (operation : Operation) (result : Except EscrowError Answer) :
    Survivors :=
  match operation, result with
  | .newContract .., .ok (.contract made) => survivors.withoutContract made.id
  | .proposePayout id _ _, .ok _ => survivors.withoutPayout id
  | _, _ => survivors

def roundDesk (survivors : Survivors) (desk : Desk) : Desk :=
  desk.withLedger (survivors.round desk.ledger)

variable (survivors : Survivors) {settings : Settings} {ledger : Ledger} {operation : Operation}
  {now : Instant} {desk : Desk}

theorem roundDesk_withLedger (after : Ledger) :
    survivors.roundDesk (desk.withLedger after) =
      (survivors.roundDesk desk).withLedger (survivors.round after) := rfl

theorem select_round (id : PlayerId) :
    (survivors.round ledger).select id = (ledger.select id).map survivors.round := by
  change (if ledger.players.contains id then _ else _) = (if _ then _ else _ : Except _ _).map _
  split <;> rfl

/-- A step that only a status guards. -/
theorem ask_round {id : ContractId} {allowed : List ContractStatus} (verdict : Verdict)
    (same : survivors.roundVerdict verdict = verdict) :
    ((survivors.round ledger).requireStatus id allowed >>= fun _ => .ok verdict) =
      (ledger.requireStatus id allowed >>= fun _ => .ok verdict).map survivors.roundVerdict := by
  rw [requireStatus_round]
  cases ledger.requireStatus id allowed with
  | error fault => rfl
  | ok => exact congrArg Except.ok same.symm

/-- A step that takes a seat at the contract as well. -/
theorem askSeat_round {id : ContractId} {allowed : List ContractStatus}
    (next : Seat → Except EscrowError Verdict)
    (same : ∀ seat, (next seat).map survivors.roundVerdict = next seat) :
    ((survivors.round ledger).requireStatus id allowed >>= fun _ =>
      (survivors.round ledger).theContract id >>= fun contract =>
        (survivors.round ledger).localSeat contract >>= next) =
      (ledger.requireStatus id allowed >>= fun _ => ledger.theContract id >>= fun contract =>
        ledger.localSeat contract >>= next).map survivors.roundVerdict := by
  rw [requireStatus_round, theContract_round]
  cases ledger.requireStatus id allowed with
  | error fault => rfl
  | ok =>
    cases ledger.theContract id with
    | error fault => rfl
    | ok contract =>
      change (ledger.localSeat contract >>= next) = (ledger.localSeat contract >>= next).map _
      cases ledger.localSeat contract with
      | error fault => rfl
      | ok seat => exact (same seat).symm

theorem check_round : operation.check settings (survivors.round ledger) =
    (operation.check settings ledger).map survivors.roundVerdict := by
  cases operation with
  | localPlayer =>
    change (ledger.theLocalPlayer >>= _) = (ledger.theLocalPlayer >>= _).map _
    cases ledger.theLocalPlayer <;> rfl
  | contract id =>
    rw [Operation.check, theContract_round, Operation.check]
    cases ledger.theContract id <;> rfl
  | payout id =>
    rw [Operation.check, thePayout_round, Operation.check]
    cases ledger.thePayout id <;> rfl
  | status id =>
    rw [Operation.check, theStatus_round, Operation.check]
    cases ledger.theStatus id <;> rfl
  | payoutStatus id =>
    rw [Operation.check, thePayoutStatus_round, Operation.check]
    cases ledger.thePayoutStatus id <;> rfl
  | select id =>
    rw [Operation.check, select_round, Operation.check]
    cases ledger.select id <;> rfl
  | registerPlayer name passphrase =>
    rw [Operation.check, Operation.check]
    cases settings.checkPassphrase passphrase <;> rfl
  | addPlayer name =>
    have named : (survivors.round ledger).playerNamed? name = ledger.playerNamed? name := rfl
    rw [Operation.check, named, Operation.check]
    cases ledger.playerNamed? name <;> rfl
  | removePlayer id =>
    change (ledger.thePlayer id >>= _) = (ledger.thePlayer id >>= _).map _
    cases ledger.thePlayer id <;> rfl
  | newContract playerOne playerTwo amount description =>
    have players : (survivors.round ledger).thePlayer = ledger.thePlayer := rfl
    rw [Operation.check, Operation.check, players]
    by_cases same : playerOne = playerTwo
    · rw [if_pos same]
      rfl
    · rw [if_neg same]
      dsimp only
      by_cases zero : amount = 0
      · rw [if_pos zero]
        rfl
      · rw [if_neg zero]
        cases ledger.thePlayer playerOne with
        | error fault => rfl
        | ok one => cases ledger.thePlayer playerTwo <;> rfl
  | signContract id password => exact survivors.askSeat_round _ fun _ => rfl
  | certifyContract id | broadcastFunding id | confirmFunding id | declineContract id
  | denyPayout id | broadcastPayout id | confirmPayout id => exact survivors.ask_round _ rfl
  | dismissContract id =>
    rw [Operation.check, theContract_round, Operation.check]
    cases ledger.theContract id <;> rfl
  | proposePayout id amountOne amountTwo =>
    rw [Operation.check, requireStatus_round, theContract_round, Operation.check]
    cases ledger.requireStatus id [.live] with
    | error fault => rfl
    | ok =>
      cases ledger.theContract id with
      | error fault => rfl
      | ok contract =>
        simp only [Except.map, bind, Except.bind, roundContract]
        by_cases large : UInt64.size ≤ amountOne.toNat + amountTwo.toNat
        · rw [if_pos large]
          rfl
        · rw [if_neg large]
          by_cases other : amountOne + amountTwo ≠ contract.amount
          · rw [if_pos other]
            rfl
          · rw [if_neg other]
            rfl
  | signPayout id credential =>
    exact survivors.askSeat_round _ fun _ => by cases credential <;> rfl
  | certifyPayout id =>
    rw [Operation.check, requireStatus_round, thePayout_round, Operation.check]
    cases ledger.requireStatus id [.payoutSignedWithToken] with
    | error fault => rfl
    | ok =>
      cases ledger.thePayout id with
      | error fault => rfl
      | ok payout =>
        have token : (survivors.roundPayout payout).withToken = payout.withToken := rfl
        simp only [Except.map, bind, Except.bind, token]
        cases payout.withToken <;> rfl

def roundResult (survivors : Survivors) (operation : Operation)
    (ran : Except EscrowError Answer × Desk) : Except EscrowError Answer × Desk :=
  let survivors := survivors.after operation ran.1
  (ran.1.map survivors.roundAnswer, survivors.roundDesk ran.2)

theorem after_error (operation : Operation) (fault : EscrowError) :
    survivors.after operation (.error fault) = survivors := by
  cases operation <;> rfl

/-- Cut instants do not hide what is new. -/
theorem after_map (other : Survivors) (operation : Operation)
    (result : Except EscrowError Answer) :
    survivors.after operation (result.map other.roundAnswer) = survivors.after operation result := by
  cases result with
  | error fault => rfl
  | ok answer => cases operation <;> cases answer <;> rfl

theorem after_settled {answer : Answer} {after : Ledger}
    (settles : Operation.Settles ledger operation answer after) :
    survivors.after operation (.ok answer) = survivors := by
  cases settles with
  | look looks => cases operation <;> first | rfl | cases looks
  | select | known => rfl

/-- Only filing a contract and proposing a payout make something new. -/
theorem roundResult_eq {result : Except EscrowError Answer}
    (kept : survivors.after operation result = survivors) (after : Desk) :
    survivors.roundResult operation (result, after) =
      (result.map survivors.roundAnswer, survivors.roundDesk after) := by
  simp only [roundResult, kept]

theorem file_round (wellFormed : desk.ledger.WellFormed) (playerOne playerTwo : PlayerId)
    (amount : Amount) (description : String) :
    (survivors.roundDesk desk).file now playerOne playerTwo amount description =
      let made := desk.file now playerOne playerTwo amount description
      (made.1, (survivors.withoutContract made.1.id).roundDesk made.2) :=
  congrArg (fun ledger => (_, Desk.mk ledger _)) (survivors.round_fileContract wellFormed _).symm

theorem roundResult_filed {playerOne playerTwo : PlayerId} {amount : Amount}
    {description : String} (made : Contract) (after : Desk) :
    survivors.roundResult (.newContract playerOne playerTwo amount description)
      (.ok (.contract made), after) =
      (.ok (.contract made), (survivors.withoutContract made.id).roundDesk after) :=
  congrArg (fun contract => (Except.ok (Answer.contract contract), _))
    (survivors.roundContract_new made)

theorem roundResult_proposed {amountOne amountTwo : Amount} (made : Payout) (after : Desk) :
    survivors.roundResult (.proposePayout made.contract amountOne amountTwo)
      (.ok (.payout made), after) =
      (.ok (.payout made), (survivors.withoutPayout made.contract).roundDesk after) :=
  congrArg (fun payout => (Except.ok (Answer.payout payout), _)) (survivors.roundPayout_new made)

theorem apply_round {request : Wallet.Request} {commit : Commit}
    (wellFormed : desk.ledger.WellFormed)
    (grants : Operation.Grants settings desk.ledger operation request commit) :
    commit.apply now (survivors.roundDesk desk) =
      survivors.roundResult operation (commit.apply now desk) := by
  have rounded : (survivors.roundDesk desk).ledger.WellFormed :=
    survivors.wellFormed_round wellFormed
  have contract_round : ∀ {id contract}, desk.ledger.contract? id = some contract →
      (survivors.roundDesk desk).ledger.contract? id = some (survivors.roundContract contract) :=
    fun stored => survivors.contract?_round.trans (congrArg _ stored)
  cases commit with
  | registerPlayer name =>
    cases grants
    cases named : desk.ledger.playerNamed? name with
    | some player =>
      have also : (survivors.roundDesk desk).ledger.playerNamed? name = some player := named
      rw [Commit.apply_registerPlayer_known rounded also,
        Commit.apply_registerPlayer_known wellFormed named]
      rfl
    | none =>
      have also : (survivors.roundDesk desk).ledger.playerNamed? name = none := named
      rw [Commit.apply_registerPlayer_new also, Commit.apply_registerPlayer_new named]
      rfl
  | addPlayer name =>
    cases grants with
    | addPlayer unnamed =>
      have also : (survivors.roundDesk desk).ledger.playerNamed? name = none := unnamed
      rw [Commit.apply, Commit.addNewPlayer_eq false also, Commit.apply,
        Commit.addNewPlayer_eq false unnamed]
      rfl
  | removePlayer player =>
    cases grants
    rfl
  | fileContract one two amount description =>
    -- the contract stays behind `Desk.file`, so that its hash is never looked into
    have filed : ∀ desk : Desk, Commit.apply now desk (.fileContract one two amount description) =
        (.ok (.contract (desk.file now one two amount description).1),
          (desk.file now one two amount description).2) := fun _ => rfl
    rw [filed, filed, survivors.file_round wellFormed]
    cases grants
    exact (survivors.roundResult_filed _ _).symm
  | patchContract id patch =>
    obtain ⟨contract, stored⟩ := Operation.contract_of_grants grants
    rw [Commit.apply_patchContract rounded (contract_round stored),
      Commit.apply_patchContract wellFormed stored,
      survivors.roundResult_eq (by cases grants <;> rfl), roundDesk_withLedger, round_addContract]
    rfl
  | removeContract id =>
    have removed : ∀ desk : Desk, Commit.apply now desk (.removeContract id) =
        (.ok .done, desk.withLedger (desk.ledger.removeContract id)) := fun _ => rfl
    rw [removed, removed, survivors.roundResult_eq (by cases grants <;> rfl),
      roundDesk_withLedger, round_removeContract]
    rfl
  | filePayout id amountOne amountTwo =>
    cases grants with
    | proposePayout sees =>
      rw [Commit.apply_filePayout (contract_round sees.stored),
        Commit.apply_filePayout sees.stored]
      refine Eq.trans ?_ (survivors.roundResult_proposed _ _).symm
      rw [roundDesk_withLedger, survivors.round_filePayout wellFormed]
      rfl
  | patchPayout id patch =>
    obtain ⟨payout, stored⟩ := Operation.payout_of_grants wellFormed grants
    have also : (survivors.roundDesk desk).ledger.payout? id =
        some (survivors.roundPayout payout) :=
      survivors.payout?_round.trans (congrArg _ stored)
    rw [Commit.apply_patchPayout rounded also, Commit.apply_patchPayout wellFormed stored,
      survivors.roundResult_eq (by cases grants <;> rfl), roundDesk_withLedger, round_withPayout]
    rfl
  | removePayout id =>
    have removed : ∀ desk : Desk, Commit.apply now desk (.removePayout id) =
        (.ok .done, desk.withLedger (desk.ledger.removePayout id)) := fun _ => rfl
    rw [removed, removed, survivors.roundResult_eq (by cases grants; rfl),
      roundDesk_withLedger, round_removePayout]
    rfl

/-- An operation gives and does the same with restarts and without, but for some instants. -/
theorem run_round {σ : Type} (call : Wallet.Request → σ → Except EscrowError String × σ)
    (wallet : σ) (wellFormed : desk.ledger.WellFormed) :
    operation.run call settings now wallet (survivors.roundDesk desk) =
      let ran := operation.run call settings now wallet desk
      let rounded := survivors.roundResult operation (ran.1, ran.2.2)
      (rounded.1, ran.2.1, rounded.2) := by
  have checked : operation.check settings (survivors.roundDesk desk).ledger =
      (operation.check settings desk.ledger).map survivors.roundVerdict := survivors.check_round
  rw [Operation.run, checked, Operation.run]
  cases found : operation.check settings desk.ledger with
  | error fault =>
    simp only [Except.map, survivors.roundResult_eq (survivors.after_error operation fault)]
  | ok verdict =>
    have due := Operation.due_of_check found
    cases verdict with
    | settled answer ledger =>
      simp only [Except.map, roundVerdict,
        survivors.roundResult_eq (survivors.after_settled due)]
      rfl
    | asks request commit =>
      simp only [Except.map, roundVerdict, Operation.conclude]
      cases (call request wallet).1.bind Wallet.Reply.parse with
      | error fault =>
        simp only [survivors.roundResult_eq (survivors.after_error operation fault)]
        rfl
      | ok reply => simp only [survivors.apply_round wellFormed due]

end ArbitratedEscrow.Survivors
