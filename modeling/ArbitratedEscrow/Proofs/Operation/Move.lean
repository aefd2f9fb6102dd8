import ArbitratedEscrow.Operation.Run
import ArbitratedEscrow.Proofs.Operation.Grant

/-!
# Moves

A move is what an operation does to the desk when it succeeds. On a well-formed
ledger every granted commit goes through (`Operation.move_of_grants`): what the
check has found is still so when the commit comes, and that is all a commit
depends on. So an operation fails before the wallet has accepted its request or
not at all, and a failed one leaves the desk as it was (`Operation.course_run`).
-/

namespace ArbitratedEscrow

namespace Desk

def withLedger (desk : Desk) (ledger : Ledger) : Desk := { desk with ledger }

def enrol (desk : Desk) (name : String) (mine : Bool) : Player × Desk :=
  let player := Player.new name mine desk.ids.draw.1
  (player, ⟨desk.ledger.withPlayer player, desk.ids.draw.2⟩)

def file (desk : Desk) (now : Instant) (playerOne playerTwo : PlayerId) (amount : Amount)
    (description : String) : Contract × Desk :=
  let contract := Contract.new playerOne playerTwo amount description desk.ids.draw.1 now
  (contract, ⟨desk.ledger.addContract contract, desk.ids.draw.2⟩)

end Desk

namespace Commit

variable {now : Instant} {desk : Desk}

theorem apply_registerPlayer_known (wellFormed : desk.ledger.WellFormed) {name : String}
    {player : Player} (named : desk.ledger.playerNamed? name = some player) :
    apply now desk (.registerPlayer name) =
      (.ok (.player { player with mine := true }),
        desk.withLedger (desk.ledger.withPlayer { player with mine := true })) := by
  have stored := wellFormed.player?_of_playerNamed? named
  simp only [apply, named, Ledger.setMine, stored]
  rfl

theorem addNewPlayer_eq {name : String} (mine : Bool)
    (unnamed : desk.ledger.playerNamed? name = none) :
    addNewPlayer desk name mine =
      (.ok (.player (desk.enrol name mine).1), (desk.enrol name mine).2) := by
  have free : ¬ (desk.ledger.players.values.any fun p =>
      p.name == name && p.id != (Player.new name mine desk.ids.draw.1).id) = true := by
    intro taken
    obtain ⟨other, member, same⟩ := List.any_eq_true.mp taken
    obtain ⟨id, stored⟩ := Directory.mem_values_iff.mp member
    exact Ledger.playerNamed?_eq_none.mp unnamed id other stored (by simp_all)
  have added : desk.ledger.addPlayer (Player.new name mine desk.ids.draw.1) =
      .ok (desk.ledger.withPlayer (Player.new name mine desk.ids.draw.1)) := by
    rw [Ledger.addPlayer]
    exact if_neg free
  simp only [addNewPlayer, added]
  rfl

theorem apply_registerPlayer_new {name : String}
    (unnamed : desk.ledger.playerNamed? name = none) :
    apply now desk (.registerPlayer name) =
      (.ok (.player (desk.enrol name true).1), (desk.enrol name true).2) := by
  simp only [apply, unnamed]
  exact addNewPlayer_eq true unnamed

theorem apply_patchContract (wellFormed : desk.ledger.WellFormed) {id : ContractId}
    {contract : Contract} (stored : desk.ledger.contract? id = some contract)
    (patch : Contract.Patch) :
    apply now desk (.patchContract id patch) =
      (.ok (.contract (contract.apply patch)),
        desk.withLedger (desk.ledger.addContract (contract.apply patch))) := by
  rw [apply, wellFormed.updateContract_eq stored]
  rfl

theorem apply_patchPayout (wellFormed : desk.ledger.WellFormed) {id : ContractId}
    {payout : Payout} (stored : desk.ledger.payout? id = some payout) (patch : Payout.Patch) :
    apply now desk (.patchPayout id patch) =
      (.ok (.payout (payout.apply patch)),
        desk.withLedger (desk.ledger.withPayout (payout.apply patch))) := by
  rw [apply, wellFormed.updatePayout_eq stored]
  rfl

/-- A payout that was there is gone by the time the new one is added. -/
theorem apply_filePayout {id : ContractId} {contract : Contract}
    (stored : desk.ledger.contract? id = some contract) (amountOne amountTwo : Amount) :
    apply now desk (.filePayout id amountOne amountTwo) =
      (.ok (.payout (Payout.new id amountOne amountTwo now)),
        desk.withLedger (desk.ledger.withPayout (Payout.new id amountOne amountTwo now))) := by
  have backed : (desk.ledger.removePayout id).contracts.contains id = true :=
    Directory.contains_iff.mpr ⟨contract, stored⟩
  have cleared : (desk.ledger.removePayout id).payouts.contains id = false :=
    Directory.not_contains_iff.mpr (by
      have gone := Ledger.payout?_removePayout desk.ledger id id
      rwa [if_pos rfl] at gone)
  have added : (desk.ledger.removePayout id).addPayout (Payout.new id amountOne amountTwo now) =
      .ok (desk.ledger.withPayout (Payout.new id amountOne amountTwo now)) := by
    rw [← Ledger.withPayout_removePayout]
    simp only [Ledger.addPayout, Payout.new, backed, cleared]
    rfl
  simp only [apply, added]
  rfl

end Commit

namespace Operation

/-- What an operation answers when it succeeds, and the desk after it. -/
inductive Move (settings : Settings) (now : Instant) (desk : Desk) :
    Operation → Answer → Desk → Prop where
  | settle {operation : Operation} {answer : Answer} {ledger : Ledger}
      (settles : Settles desk.ledger operation answer ledger) :
      Move settings now desk operation answer (desk.withLedger ledger)
  | claim {name : String} {passphrase : Secret} {player : Player}
      (named : desk.ledger.playerNamed? name = some player) :
      Move settings now desk (.registerPlayer name passphrase)
        (.player { player with mine := true })
        (desk.withLedger (desk.ledger.withPlayer { player with mine := true }))
  | register {name : String} {passphrase : Secret}
      (unnamed : desk.ledger.playerNamed? name = none) :
      Move settings now desk (.registerPlayer name passphrase) (.player (desk.enrol name true).1)
        (desk.enrol name true).2
  | add {name : String} (unnamed : desk.ledger.playerNamed? name = none) :
      Move settings now desk (.addPlayer name) (.player (desk.enrol name false).1)
        (desk.enrol name false).2
  | removePlayer {id : PlayerId} {player : Player}
      (stored : desk.ledger.player? id = some player) :
      Move settings now desk (.removePlayer id) (.player player)
        (desk.withLedger (desk.ledger.removePlayer id))
  | file {playerOne playerTwo : PlayerId} {amount : Amount} {description : String}
      {one two : Player} (different : playerOne ≠ playerTwo) (positive : amount ≠ 0)
      (oneStored : desk.ledger.player? playerOne = some one)
      (twoStored : desk.ledger.player? playerTwo = some two) :
      Move settings now desk (.newContract playerOne playerTwo amount description)
        (.contract (desk.file now playerOne playerTwo amount description).1)
        (desk.file now playerOne playerTwo amount description).2
  | patchContract {operation : Operation} {request : Wallet.Request} {id : ContractId}
      {patch : Contract.Patch} {contract : Contract}
      (grants : Grants settings desk.ledger operation request (.patchContract id patch))
      (stored : desk.ledger.contract? id = some contract) :
      Move settings now desk operation (.contract (contract.apply patch))
        (desk.withLedger (desk.ledger.addContract (contract.apply patch)))
  | removeContract {operation : Operation} {request : Wallet.Request} {id : ContractId}
      {contract : Contract}
      (grants : Grants settings desk.ledger operation request (.removeContract id))
      (stored : desk.ledger.contract? id = some contract) :
      Move settings now desk operation .done (desk.withLedger (desk.ledger.removeContract id))
  | filePayout {id : ContractId} {amountOne amountTwo : Amount} {viewer : PlayerId}
      {contract : Contract} (sees : desk.ledger.Sees id viewer contract .live)
      (split : amountOne.toNat + amountTwo.toNat = contract.amount.toNat) :
      Move settings now desk (.proposePayout id amountOne amountTwo)
        (.payout (Payout.new id amountOne amountTwo now))
        (desk.withLedger (desk.ledger.withPayout (Payout.new id amountOne amountTwo now)))
  | patchPayout {operation : Operation} {request : Wallet.Request} {id : ContractId}
      {patch : Payout.Patch} {payout : Payout}
      (grants : Grants settings desk.ledger operation request (.patchPayout id patch))
      (stored : desk.ledger.payout? id = some payout) :
      Move settings now desk operation (.payout (payout.apply patch))
        (desk.withLedger (desk.ledger.withPayout (payout.apply patch)))
  | removePayout {operation : Operation} {request : Wallet.Request} {id : ContractId}
      (grants : Grants settings desk.ledger operation request (.removePayout id)) :
      Move settings now desk operation .done (desk.withLedger (desk.ledger.removePayout id))

variable {settings : Settings} {now : Instant} {desk : Desk} {operation : Operation}
  {request : Wallet.Request} {commit : Commit}

/-- The contract that a granted patch is for is there. -/
theorem contract_of_grants {id : ContractId} {patch : Contract.Patch}
    (grants : Grants settings desk.ledger operation request (.patchContract id patch)) :
    ∃ contract, desk.ledger.contract? id = some contract := by
  cases grants with
  | signContract sees | certifyContract sees | broadcastFunding sees | confirmFunding sees =>
    exact ⟨_, sees.stored⟩

/-- The payout that a granted patch is for is there. -/
theorem payout_of_grants (wellFormed : desk.ledger.WellFormed) {id : ContractId}
    {patch : Payout.Patch}
    (grants : Grants settings desk.ledger operation request (.patchPayout id patch)) :
    ∃ payout, desk.ledger.payout? id = some payout := by
  cases grants with
  | signPayout sees allowed seated =>
    obtain ⟨_, payout, stored, _⟩ := sees.unsigned_payout wellFormed allowed seated
    exact ⟨payout, stored⟩
  | certifyPayout _ stored => exact ⟨_, stored⟩
  | broadcastPayout sees =>
    obtain ⟨_, payout, stored, _⟩ := sees.payout wellFormed sees.shown
    exact ⟨payout, stored⟩
  | confirmPayout sees =>
    obtain ⟨_, payout, stored, _⟩ := sees.payout wellFormed sees.shown
    exact ⟨payout, stored⟩

/-- What the wallet has accepted goes through. -/
theorem move_of_grants (wellFormed : desk.ledger.WellFormed)
    (grants : Grants settings desk.ledger operation request commit) :
    ∃ answer after, commit.apply now desk = (.ok answer, after) ∧
      Move settings now desk operation answer after := by
  cases commit with
  | registerPlayer name =>
    cases grants
    cases named : desk.ledger.playerNamed? name with
    | some player =>
      exact ⟨_, _, Commit.apply_registerPlayer_known wellFormed named, .claim named⟩
    | none => exact ⟨_, _, Commit.apply_registerPlayer_new named, .register named⟩
  | addPlayer name =>
    cases grants with
    | addPlayer unnamed => exact ⟨_, _, Commit.addNewPlayer_eq false unnamed, .add unnamed⟩
  | removePlayer player =>
    cases grants with
    | removePlayer stored =>
      cases wellFormed.player_keyed stored
      exact ⟨_, _, rfl, .removePlayer stored⟩
  | fileContract one two amount description =>
    cases grants with
    | newContract different positive oneStored twoStored =>
      cases wellFormed.player_keyed oneStored
      cases wellFormed.player_keyed twoStored
      exact ⟨_, _, rfl, .file different positive oneStored twoStored⟩
  | patchContract id patch =>
    obtain ⟨contract, stored⟩ := contract_of_grants grants
    exact ⟨_, _, Commit.apply_patchContract wellFormed stored patch, .patchContract grants stored⟩
  | removeContract id =>
    have stored : ∃ contract, desk.ledger.contract? id = some contract := by
      cases grants with
      | declineContract sees => exact ⟨_, sees.stored⟩
      | dismissContract stored => exact ⟨_, stored⟩
    obtain ⟨contract, stored⟩ := stored
    exact ⟨_, _, rfl, .removeContract grants stored⟩
  | filePayout id amountOne amountTwo =>
    cases grants with
    | proposePayout sees split =>
      exact ⟨_, _, Commit.apply_filePayout sees.stored amountOne amountTwo,
        .filePayout sees split⟩
  | patchPayout id patch =>
    obtain ⟨payout, stored⟩ := payout_of_grants wellFormed grants
    exact ⟨_, _, Commit.apply_patchPayout wellFormed stored patch, .patchPayout grants stored⟩
  | removePayout id => exact ⟨_, _, rfl, .removePayout grants⟩

/-- Moves keep a ledger well formed, whatever identifiers they draw. -/
theorem Move.wellFormed {answer : Answer} {after : Desk} (wellFormed : desk.ledger.WellFormed)
    (move : Move settings now desk operation answer after) : after.ledger.WellFormed := by
  have unnamed_of_new : ∀ {name : String} (mine : Bool), desk.ledger.playerNamed? name = none →
      (desk.enrol name mine).2.ledger.WellFormed := fun mine unnamed =>
    wellFormed.withPlayer fun stored same =>
      False.elim (Ledger.playerNamed?_eq_none.mp unnamed _ _ stored same)
  cases move with
  | settle settles =>
    cases settles with
    | look _ | known _ => exact wellFormed
    | select stored =>
      have contained : desk.ledger.players.contains _ = true :=
        Directory.contains_iff.mpr ⟨_, stored⟩
      exact wellFormed.select (if_pos contained)
  | claim named =>
    have stored := wellFormed.player?_of_playerNamed? named
    exact wellFormed.withPlayer fun other same => wellFormed.names_distinct other stored same
  | register unnamed => exact unnamed_of_new true unnamed
  | add unnamed => exact unnamed_of_new false unnamed
  | removePlayer _ => exact wellFormed.removePlayer _
  | file => exact wellFormed.addContract _
  | patchContract => exact wellFormed.addContract _
  | removeContract => exact wellFormed.removeContract _
  | filePayout sees => exact wellFormed.withPayout sees.stored
  | patchPayout grants stored =>
    exact wellFormed.updatePayout (wellFormed.updatePayout_eq stored _)
  | removePayout => exact wellFormed.removePayout _

/-! ### The course of an operation -/

/-- How an operation can go, with its result, the wallet and the desk after it. -/
inductive Course {σ : Type} (call : Wallet.Request → σ → Except EscrowError String × σ)
    (settings : Settings) (now : Instant) (operation : Operation) (wallet : σ) (desk : Desk) :
    Except EscrowError Answer × σ × Desk → Prop where
  | refused {fault : EscrowError}
      (checked : operation.check settings desk.ledger = .error fault) :
      Course call settings now operation wallet desk (.error fault, wallet, desk)
  | settled {answer : Answer} {ledger : Ledger}
      (settles : Settles desk.ledger operation answer ledger) :
      Course call settings now operation wallet desk (.ok answer, wallet, desk.withLedger ledger)
  | rejected {request : Wallet.Request} {commit : Commit} {fault : EscrowError}
      (grants : Grants settings desk.ledger operation request commit)
      (rejects : (call request wallet).1.bind Wallet.Reply.parse = .error fault) :
      Course call settings now operation wallet desk (.error fault, (call request wallet).2, desk)
  | done {request : Wallet.Request} {commit : Commit} {reply : Wallet.Reply} {answer : Answer}
      {after : Desk} (grants : Grants settings desk.ledger operation request commit)
      (accepts : (call request wallet).1.bind Wallet.Reply.parse = .ok reply)
      (move : Move settings now desk operation answer after) :
      Course call settings now operation wallet desk (.ok answer, (call request wallet).2, after)

theorem course_run {σ : Type} (call : Wallet.Request → σ → Except EscrowError String × σ)
    (wallet : σ) (wellFormed : desk.ledger.WellFormed) :
    Course call settings now operation wallet desk
      (operation.run call settings now wallet desk) := by
  rw [run]
  cases checked : operation.check settings desk.ledger with
  | error fault => exact .refused checked
  | ok verdict =>
    have due := due_of_check checked
    cases verdict with
    | settled answer ledger => exact .settled due
    | asks request commit =>
      simp only [conclude]
      cases outcome : (call request wallet).1.bind Wallet.Reply.parse with
      | error fault => exact .rejected due outcome
      | ok reply =>
        obtain ⟨answer, after, applied, move⟩ := move_of_grants wellFormed due
        rw [applied]
        exact .done due outcome move

theorem wellFormed_run {σ : Type} (call : Wallet.Request → σ → Except EscrowError String × σ)
    (wallet : σ) (wellFormed : desk.ledger.WellFormed) :
    (operation.run call settings now wallet desk).2.2.ledger.WellFormed := by
  have course : operation.Course call settings now wallet desk
      (operation.run call settings now wallet desk) := course_run call wallet wellFormed
  generalize operation.run call settings now wallet desk = ran at course
  cases course with
  | refused | rejected => exact wellFormed
  | settled settles =>
    have move : Move settings now desk operation _ _ := .settle settles
    exact move.wellFormed wellFormed
  | done _ _ move => exact move.wellFormed wellFormed

end Operation

end ArbitratedEscrow
