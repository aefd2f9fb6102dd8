import ArbitratedEscrow.Proofs.Floor.Basic
import ArbitratedEscrow.Proofs.Office.Invariant

/-!
# What a late signature lands on

The split of a payout is set when the payout is proposed and by nothing else. A
signature that had to wait for the wallet is put on the payout that is stored by
then: it has the split that was checked, unless another one was proposed in the
meantime, and then it has the split proposed last.
-/

namespace ArbitratedEscrow

def Payout.split (payout : Payout) : Amount × Amount := (payout.amountOne, payout.amountTwo)

namespace Ledger

/-- The split of a contract's payout. -/
def split? (ledger : Ledger) (id : ContractId) : Option (Amount × Amount) :=
  (ledger.payout? id).map Payout.split

variable {ledger after : Ledger}

theorem split?_of_payouts (same : after.payouts = ledger.payouts) (id : ContractId) :
    after.split? id = ledger.split? id := by
  rw [split?, payout?, same]
  rfl

theorem split?_withPayout (ledger : Ledger) (payout : Payout) (id : ContractId) :
    (ledger.withPayout payout).split? id =
      if payout.contract = id then some payout.split else ledger.split? id := by
  rw [split?, payout?_withPayout]
  split <;> rfl

theorem split?_removePayout (ledger : Ledger) (removed id : ContractId) :
    (ledger.removePayout removed).split? id =
      if removed = id then none else ledger.split? id := by
  rw [split?, payout?_removePayout]
  split <;> rfl

theorem split?_removeContract (ledger : Ledger) (removed id : ContractId) :
    (ledger.removeContract removed).split? id =
      if removed = id then none else ledger.split? id := by
  rw [split?, payout?_removeContract]
  split <;> rfl

theorem payouts_of_addPlayer {player : Player} (added : ledger.addPlayer player = .ok after) :
    after.payouts = ledger.payouts := by
  rw [addPlayer] at added
  split at added
  · cases added
  · cases added
    rfl

theorem payouts_of_setMine {id : PlayerId} {mine : Bool}
    (noted : ledger.setMine id mine = .ok after) : after.payouts = ledger.payouts := by
  rw [setMine] at noted
  split at noted
  · cases noted
  · cases noted
    rfl

theorem payouts_of_updateContract {id : ContractId} {patch : Contract.Patch} {patched : Contract}
    (updated : ledger.updateContract id patch = .ok (patched, after)) :
    after.payouts = ledger.payouts := by
  rw [updateContract] at updated
  split at updated
  · cases updated
  · cases updated
    rfl

theorem addPayout_eq_ok {payout : Payout} (added : ledger.addPayout payout = .ok after) :
    after = ledger.withPayout payout := by
  rw [addPayout] at added
  split at added
  · cases added
  · split at added
    · cases added
    · cases added
      rfl

/-- A patch does not touch the split. -/
theorem WellFormed.split?_updatePayout (wellFormed : ledger.WellFormed) {id patched : ContractId}
    {patch : Payout.Patch} {payout : Payout}
    (updated : ledger.updatePayout patched patch = .ok (payout, after)) :
    after.split? id = ledger.split? id := by
  cases stored : ledger.payout? patched with
  | none => simp [Ledger.updatePayout, stored] at updated
  | some met =>
    rw [wellFormed.updatePayout_eq stored] at updated
    cases updated
    have keyed := wellFormed.payout_keyed stored
    rw [split?_withPayout]
    split
    · rename_i same
      obtain rfl : patched = id := keyed.symm.trans same
      rw [split?, stored]
      rfl
    · rfl

end Ledger

/-- The contract whose payout an operation signs, for a player or for the arbiter. -/
def Operation.sealedPayout : Operation → Option ContractId
  | signPayout id _ | certifyPayout id => some id
  | _ => none

theorem Operation.patch_of_sealed {settings : Settings} {ledger : Ledger} {operation : Operation}
    {request : Wallet.Request} {commit : Commit} {id : ContractId}
    (seals : operation.sealedPayout = some id)
    (grants : Grants settings ledger operation request commit) :
    ∃ patch, commit = .patchPayout id patch := by
  cases grants <;> cases seals <;> exact ⟨_, rfl⟩

namespace Commit

def proposal? (id : ContractId) : Commit → Except EscrowError Answer → Option (Amount × Amount)
  | filePayout proposed amountOne amountTwo, .ok _ =>
    if proposed = id then some (amountOne, amountTwo) else none
  | _, _ => none

def filed? : Commit → Except EscrowError Answer → Option ContractId
  | fileContract .., .ok (.contract made) => some made.id
  | _, _ => none

variable {now : Instant} {desk : Desk} {id : ContractId}

theorem proposal?_error (commit : Commit) (fault : EscrowError) :
    commit.proposal? id (.error fault) = none := by
  cases commit <;> rfl

theorem payouts_registerPlayer (name : String) :
    (apply now desk (.registerPlayer name)).2.ledger.payouts = desk.ledger.payouts := by
  rw [apply]
  split
  · refine answerWith_holds (·.payouts = desk.ledger.payouts) rfl fun {_ ledger} changed => ?_
    obtain ⟨next, noted, same⟩ := map_eq_ok.mp changed
    cases same
    exact Ledger.payouts_of_setMine noted
  · exact addNewPlayer_holds (·.payouts = desk.ledger.payouts) rfl Ledger.payouts_of_addPlayer

theorem split?_filePayout (proposed : ContractId) (amountOne amountTwo : Amount) :
    let applied := apply now desk (.filePayout proposed amountOne amountTwo)
    applied.2.ledger.split? id = none ∨
      applied.2.ledger.split? id =
        (proposal? id (.filePayout proposed amountOne amountTwo) applied.1).or
          (desk.ledger.split? id) := by
  intro applied
  let payout := Payout.new proposed amountOne amountTwo now
  have applied_eq : applied = answerWith (desk.withLedger (desk.ledger.removePayout proposed))
      .payout (((desk.ledger.removePayout proposed).addPayout payout).map (payout, ·)) := rfl
  rw [applied_eq]
  cases added : (desk.ledger.removePayout proposed).addPayout payout with
  | error fault =>
    change (desk.ledger.removePayout proposed).split? id = none ∨
      (desk.ledger.removePayout proposed).split? id = desk.ledger.split? id
    rw [Ledger.split?_removePayout]
    split
    · exact Or.inl rfl
    · exact Or.inr rfl
  | ok ledger =>
    right
    change ledger.split? id =
      (if proposed = id then some (amountOne, amountTwo) else none).or (desk.ledger.split? id)
    rw [Ledger.addPayout_eq_ok added, Ledger.split?_withPayout, Ledger.split?_removePayout]
    change (if proposed = id then some (amountOne, amountTwo) else _) = _
    split <;> rfl

/-- After a commit a contract has no payout, or one with the split just proposed or as before. -/
theorem split?_apply (wellFormed : desk.ledger.WellFormed) (commit : Commit) :
    let applied := commit.apply now desk
    applied.2.ledger.split? id = none ∨
      applied.2.ledger.split? id = (commit.proposal? id applied.1).or (desk.ledger.split? id) := by
  intro applied
  cases commit with
  | registerPlayer name =>
    exact Or.inr (Ledger.split?_of_payouts (payouts_registerPlayer name) id)
  | addPlayer name =>
    exact Or.inr (Ledger.split?_of_payouts (addNewPlayer_holds (·.payouts = desk.ledger.payouts)
      rfl Ledger.payouts_of_addPlayer) id)
  | removePlayer player => exact Or.inr rfl
  | fileContract => exact Or.inr rfl
  | patchContract other patch =>
    exact Or.inr (Ledger.split?_of_payouts (answerWith_holds (·.payouts = desk.ledger.payouts)
      rfl Ledger.payouts_of_updateContract) id)
  | removeContract other =>
    change (desk.ledger.removeContract other).split? id = none ∨
      (desk.ledger.removeContract other).split? id = desk.ledger.split? id
    rw [Ledger.split?_removeContract]
    split
    · exact Or.inl rfl
    · exact Or.inr rfl
  | filePayout other amountOne amountTwo => exact split?_filePayout other amountOne amountTwo
  | patchPayout other patch =>
    exact Or.inr (answerWith_holds (fun ledger => ledger.split? id = desk.ledger.split? id) rfl
      wellFormed.split?_updatePayout)
  | removePayout other =>
    change (desk.ledger.removePayout other).split? id = none ∨
      (desk.ledger.removePayout other).split? id = desk.ledger.split? id
    rw [Ledger.split?_removePayout]
    split
    · exact Or.inl rfl
    · exact Or.inr rfl

/-- A patch that goes through is one of the payout that is there. -/
theorem landed_of_patchPayout (wellFormed : desk.ledger.WellFormed) {patch : Payout.Patch}
    {answer : Answer} (succeeded : (apply now desk (.patchPayout id patch)).1 = .ok answer) :
    ∃ current, desk.ledger.payout? id = some current ∧ answer = .payout (current.apply patch) ∧
      (apply now desk (.patchPayout id patch)).2.ledger.payout? id =
        some (current.apply patch) := by
  cases paid : desk.ledger.payout? id with
  | none =>
    simp only [apply, Ledger.updatePayout, paid, answerWith] at succeeded
    cases succeeded
  | some current =>
    have keyed := wellFormed.payout_keyed paid
    rw [apply_patchPayout wellFormed paid] at succeeded ⊢
    cases succeeded
    refine ⟨current, rfl, rfl, ?_⟩
    rw [Desk.withLedger, Ledger.payout?_withPayout]
    exact if_pos keyed

end Commit

namespace Floor

def concluded? (floor : Floor) : Half → Option (Commit × Except EscrowError Answer)
  | .check _ => none
  | .conclude ticket now outcome => (floor.commit? ticket).map fun commit =>
    (commit, (Operation.conclude now floor.desk commit outcome).1)

def proposal? (id : ContractId) (floor : Floor) (half : Half) : Option (Amount × Amount) :=
  (floor.concluded? half).bind fun (commit, result) => commit.proposal? id result

/-- The split that was proposed last for a contract in a number of halves, if any was. -/
def latestProposal (settings : Settings) (id : ContractId) :
    Floor → List Half → Option (Amount × Amount)
  | _, [] => none
  | floor, half :: rest =>
    (latestProposal settings id (floor.step settings half).2 rest).or (floor.proposal? id half)

variable {settings : Settings} {floor : Floor} {id : ContractId} {now : Instant}
  {outcome : Except EscrowError String}

theorem conclude_of_waiting {ticket : Nat} {commit : Commit}
    (waits : floor.commit? ticket = some commit) :
    floor.conclude ticket now outcome =
      (some (Operation.conclude now floor.desk commit outcome).1,
        ⟨(Operation.conclude now floor.desk commit outcome).2,
          floor.waiting.set ticket none⟩) := by
  rw [conclude, waits]

theorem payout?_check (operation : Operation) (id : ContractId) :
    (floor.check settings operation).2.desk.ledger.payout? id = floor.desk.ledger.payout? id := by
  rw [check]
  cases found : operation.check settings floor.desk.ledger with
  | error fault => rfl
  | ok verdict =>
    have due := Operation.due_of_check found
    cases verdict with
    | settled answer ledger =>
      cases due with
      | look | select | known => rfl
    | asks request commit => rfl

theorem split?_step (wellFormed : floor.desk.ledger.WellFormed) (half : Half) :
    let next := (floor.step settings half).2.desk.ledger
    next.split? id = none ∨
      next.split? id = (floor.proposal? id half).or (floor.desk.ledger.split? id) := by
  intro next
  cases half with
  | check operation =>
    exact Or.inr (congrArg (Option.map Payout.split) (payout?_check operation id))
  | conclude ticket now outcome =>
    cases waits : floor.commit? ticket with
    | none =>
      have same : next = floor.desk.ledger := by simp only [next, step, conclude, waits]
      right
      rw [same, proposal?, concluded?, waits]
      rfl
    | some commit =>
      have led : next = (Operation.conclude now floor.desk commit outcome).2.ledger := by
        simp only [next, step, conclude_of_waiting waits]
      have proposed : floor.proposal? id (.conclude ticket now outcome) =
          commit.proposal? id (Operation.conclude now floor.desk commit outcome).1 := by
        rw [proposal?, concluded?, waits]
        rfl
      rw [led, proposed, Operation.conclude]
      cases outcome.bind Wallet.Reply.parse with
      | error fault =>
        right
        rw [commit.proposal?_error]
        rfl
      | ok reply => exact commit.split?_apply wellFormed

/-- After a number of halves a contract has no payout, or one with the split proposed last. -/
theorem split?_after (wellFormed : floor.desk.ledger.WellFormed) (halves : List Half) :
    let later := (after settings floor halves).desk.ledger
    later.split? id = none ∨
      later.split? id =
        (latestProposal settings id floor halves).or (floor.desk.ledger.split? id) := by
  induction halves generalizing floor with
  | nil => exact Or.inr rfl
  | cons half rest ih =>
    intro later
    rw [latestProposal]
    rcases ih (wellFormed_step wellFormed half) with gone | last
    · exact Or.inl gone
    · rcases split?_step wellFormed half with cleared | first
      · rw [cleared, Option.or_none] at last
        cases proposed : latestProposal settings id (floor.step settings half).2 rest with
        | none => exact Or.inl (last.trans proposed)
        | some split => exact Or.inr (last.trans proposed)
      · right
        rw [Option.or_assoc, ← first]
        exact last

/-- A payout that is there before and after has the split proposed last, or else its own. -/
theorem split_of_after (wellFormed : floor.desk.ledger.WellFormed) {halves : List Half}
    {met current : Payout} (before : floor.desk.ledger.payout? id = some met)
    (later : (after settings floor halves).desk.ledger.payout? id = some current) :
    current.split = (latestProposal settings id floor halves).getD met.split := by
  have splitBefore : floor.desk.ledger.split? id = some met.split := by
    rw [Ledger.split?, before]
    rfl
  have splitLater : (after settings floor halves).desk.ledger.split? id = some current.split := by
    rw [Ledger.split?, later]
    rfl
  rcases split?_after wellFormed halves with gone | last
  · cases gone.symm.trans splitLater
  · rw [splitLater, splitBefore] at last
    cases proposed : latestProposal settings id floor halves with
    | none =>
      rw [proposed] at last
      exact Option.some.inj last
    | some split =>
      rw [proposed] at last
      exact Option.some.inj last

/-- What is concluded with an answer was waiting, and its commit has been made. -/
theorem apply_of_concluded {ticket : Nat} {answer : Answer}
    (concluded : (floor.conclude ticket now outcome).1 = some (.ok answer)) :
    ∃ commit, floor.commit? ticket = some commit ∧
      (commit.apply now floor.desk).1 = .ok answer ∧
      (floor.conclude ticket now outcome).2.desk = (commit.apply now floor.desk).2 := by
  cases waits : floor.commit? ticket with
  | none =>
    rw [conclude, waits] at concluded
    cases concluded
  | some commit =>
    rw [conclude_of_waiting waits] at concluded ⊢
    have made := Operation.conclude_eq_apply (Option.some.inj concluded)
    rw [made] at concluded ⊢
    exact ⟨commit, rfl, Option.some.inj concluded, rfl⟩

/--
A payout that is signed after a wait has the split that the signer's own check
met, or if a payout was proposed for the contract in the meantime, the split that
was proposed last.
-/
theorem signature_lands (settings : Settings) (ids : IdSource) (earlier between : List Half)
    {operation : Operation} {id : ContractId} (seals : operation.sealedPayout = some id)
    (now : Instant) (outcome : Except EscrowError String) {answer : Answer} :
    let checked := after settings (opening ids) earlier
    let waiting := (checked.check settings operation).2
    let ran := (after settings waiting between).conclude checked.waiting.length now outcome
    ran.1 = some (.ok answer) →
      ∃ met landed, checked.desk.ledger.payout? id = some met ∧
        ran.2.desk.ledger.payout? id = some landed ∧ answer = .payout landed ∧
        landed.split = (latestProposal settings id waiting between).getD met.split := by
  intro checked waiting ran succeeded
  let later := after settings waiting between
  have atOpening : (opening ids).desk.ledger.WellFormed := Ledger.wellFormed_empty
  have atCheck : checked.desk.ledger.WellFormed := wellFormed_after atOpening earlier
  have atWait : waiting.desk.ledger.WellFormed := wellFormed_step atCheck (.check operation)
  have atLast : later.desk.ledger.WellFormed := wellFormed_after atWait between
  obtain ⟨commit, waits, made, led⟩ := apply_of_concluded succeeded
  obtain ⟨request, found⟩ := asks_of_waiting waits
  have grants : operation.Grants settings checked.desk.ledger request commit :=
    Operation.due_of_check found
  obtain ⟨patch, rfl⟩ := Operation.patch_of_sealed seals grants
  obtain ⟨met, stored⟩ := Operation.payout_of_grants atCheck grants
  obtain ⟨current, paid, rfl, landed⟩ := Commit.landed_of_patchPayout atLast made
  have still : waiting.desk.ledger.payout? id = some met := by
    rw [← stored]
    exact payout?_check operation id
  have same : (current.apply patch).split = current.split := rfl
  refine ⟨met, current.apply patch, stored, ?_, rfl, same.trans (split_of_after atWait still paid)⟩
  rw [← landed]
  exact congrArg (·.ledger.payout? id) led

/-! ### A signature that is overtaken -/

def filed (settings : Settings) : Floor → List Half → List ContractId
  | _, [] => []
  | floor, half :: rest =>
    let made := (floor.concluded? half).bind fun (commit, result) => commit.filed? result
    made.toList ++ filed settings (floor.step settings half).2 rest

/-- The wager with a payout of 60 and 40 proposed, when it is Alice's turn to sign it. -/
def proposed : List Half :=
  inTurn 0 (Office.wager.take 11) ++ [.check (.select ⟨(Office.wagerIds.nth 0).text⟩)]

/-- While Alice waits for the wallet, Bob denies the payout and proposes another one. -/
def meanwhile : List Half :=
  [.check (.select ⟨(Office.wagerIds.nth 1).text⟩), .check (.denyPayout Office.wagerId),
    .conclude 14 .epoch Office.carriedOut, .check (.proposePayout Office.wagerId 10 90),
    .conclude 15 .epoch Office.carriedOut]

def signature : Operation :=
  .signPayout Office.wagerId (.password ⟨"correct horse battery"⟩)

theorem stored_overtaken :
    let checked := after (.forNetwork .regtest) (opening Office.wagerIds) proposed
    let waiting := (checked.check (.forNetwork .regtest) signature).2
    let later := after (.forNetwork .regtest) waiting meanwhile
    let ran := later.conclude checked.waiting.length .epoch Office.carriedOut
    checked.desk.ledger.payout? Office.wagerId =
        some ⟨Office.wagerId, 60, 40, .blank, false, .unbroadcast, .epoch⟩ ∧
      later.desk.ledger.payout? Office.wagerId =
        some ⟨Office.wagerId, 10, 90, .blank, false, .unbroadcast, .epoch⟩ ∧
      latestProposal (.forNetwork .regtest) Office.wagerId waiting meanwhile = some (10, 90) ∧
      ran.1 = some (.ok (.payout
        ⟨Office.wagerId, 10, 90, ⟨true, false, false⟩, false, .unbroadcast, .epoch⟩)) ∧
      ran.2.desk.ledger.payout? Office.wagerId =
        some ⟨Office.wagerId, 10, 90, ⟨true, false, false⟩, false, .unbroadcast, .epoch⟩ ∧
      (filed (.forNetwork .regtest) (opening Office.wagerIds)
        (proposed ++ .check signature :: meanwhile)).Nodup := by
  decide +kernel

/-- Alice's signature lands on the split that Bob has proposed last. -/
theorem signature_lands_wager :
    let checked := after (.forNetwork .regtest) (opening Office.wagerIds) proposed
    let waiting := (checked.check (.forNetwork .regtest) signature).2
    let ran := (after (.forNetwork .regtest) waiting meanwhile).conclude checked.waiting.length
      .epoch Office.carriedOut
    ∃ landed, ran.2.desk.ledger.payout? Office.wagerId = some landed ∧ landed.split = (10, 90) := by
  obtain ⟨_, _, latest, succeeded, _⟩ := stored_overtaken
  have seals : signature.sealedPayout = some Office.wagerId := rfl
  obtain ⟨met, landed, _, stored, _, split⟩ := signature_lands (.forNetwork .regtest)
    Office.wagerIds proposed meanwhile seals .epoch Office.carriedOut succeeded
  rw [latest] at split
  exact ⟨landed, stored, split⟩

/--
Alice's check meets a payout of 60 and 40 that she has not signed; her signature
comes to stand on one of 10 and 90. There is one contract only, so no identifiers
are mixed up.
-/
theorem signature_overtaken :
    let checked := after (.forNetwork .regtest) (opening Office.wagerIds) proposed
    let waiting := (checked.check (.forNetwork .regtest) signature).2
    let later := after (.forNetwork .regtest) waiting meanwhile
    let ran := later.conclude checked.waiting.length .epoch Office.carriedOut
    signature.sealedPayout = some Office.wagerId ∧
      (filed (.forNetwork .regtest) (opening Office.wagerIds)
        (proposed ++ .check signature :: meanwhile)).Nodup ∧
      checked.desk.ledger.payout? Office.wagerId =
        some ⟨Office.wagerId, 60, 40, .blank, false, .unbroadcast, .epoch⟩ ∧
      later.desk.ledger.payout? Office.wagerId =
        some ⟨Office.wagerId, 10, 90, .blank, false, .unbroadcast, .epoch⟩ ∧
      ran.2.desk.ledger.payout? Office.wagerId =
        some ⟨Office.wagerId, 10, 90, ⟨true, false, false⟩, false, .unbroadcast, .epoch⟩ := by
  obtain ⟨met, stored, _, _, landed, fresh⟩ := stored_overtaken
  exact ⟨rfl, fresh, met, stored, landed⟩

end Floor

end ArbitratedEscrow
