import ArbitratedEscrow.Proofs.Ledger.Slot
import ArbitratedEscrow.Proofs.Lifecycle.Locality
import ArbitratedEscrow.Proofs.Operation.Offer

/-!
# What a step of a contract's life is confined to

A step of one contract's life reads the selected player and that contract's slot
and refills the slot. All else may be as it likes, and the instant of the step
shows only in a payout that is newly proposed. `Confined` says so of a whole run
of the operation with a wallet that goes by the request alone.
-/

namespace ArbitratedEscrow

def Answer.dated (now : Instant) : Answer → Answer
  | .payout proposal => .payout { proposal with createdAt := now }
  | answer => answer

/-- The slot with another instant for its payout, if that has newly been proposed. -/
def Slot.redated (slot : Slot) (now : Instant) (proposed : Bool) : Slot :=
  if proposed then slot.dated now else slot

def Ledger.redated (ledger : Ledger) (id : ContractId) (now : Instant) (proposed : Bool) : Ledger :=
  ledger.withSlot id ((ledger.slot id).redated now proposed)

/-- The contract whose slot is all that a commit touches. -/
def Commit.slotId : Commit → Option ContractId
  | .patchContract id _ | .removeContract id | .filePayout id _ _ | .patchPayout id _
  | .removePayout id => some id
  | _ => none

namespace Operation

/-- Whether a result tells of a payout that has newly been proposed. -/
def proposed : Operation → Except EscrowError Answer → Bool
  | .proposePayout .., .ok _ => true
  | _, _ => false

def redated (operation : Operation) (now : Instant) (result : Except EscrowError Answer) :
    Except EscrowError Answer :=
  if operation.proposed result then result.map (Answer.dated now) else result

end Operation

/-! ### What a check reads -/

namespace Ledger.AgreesAt

variable {ledger other : Ledger} {id : ContractId}

theorem payoutStatus (agrees : ledger.AgreesAt other id) (wellFormed : ledger.WellFormed)
    {payout : Payout} (stored : ledger.payout? id = some payout) (viewer : PlayerId) :
    payout.status ledger.lookup viewer = payout.status other.lookup viewer := by
  refine Payout.status_congr rfl rfl rfl ?_
  rw [wellFormed.payout_keyed stored]
  exact congrArg (Option.map Contract.player) agrees.contract?

theorem contractStatus (agrees : ledger.AgreesAt other id) (wellFormed : ledger.WellFormed)
    {contract : Contract} (stored : ledger.contract? id = some contract) (viewer : PlayerId) :
    contract.status ledger.lookup viewer = contract.status other.lookup viewer := by
  refine Contract.status_congr rfl rfl rfl ?_
  rw [wellFormed.contract_keyed stored]
  change (ledger.payout? id).map _ = (other.payout? id).map _
  rw [← agrees.payout?]
  cases payout : ledger.payout? id with
  | none => rfl
  | some payout => exact congrArg some (agrees.payoutStatus wellFormed payout viewer)

theorem theContract (agrees : ledger.AgreesAt other id) :
    ledger.theContract id = other.theContract id := by
  rw [Ledger.theContract, Ledger.theContract, agrees.contract?]

theorem thePayout (agrees : ledger.AgreesAt other id) :
    ledger.thePayout id = other.thePayout id := by
  rw [Ledger.thePayout, Ledger.thePayout, agrees.payout?]

theorem theLocalPlayer (agrees : ledger.AgreesAt other id) :
    ledger.theLocalPlayer = other.theLocalPlayer := by
  rw [Ledger.theLocalPlayer, Ledger.theLocalPlayer, agrees.selected]

theorem theStatus (agrees : ledger.AgreesAt other id) (wellFormed : ledger.WellFormed) :
    ledger.theStatus id = other.theStatus id := by
  rw [Ledger.theStatus, Ledger.theStatus, agrees.theLocalPlayer, ← agrees.theContract]
  refine congrArg _ (funext fun viewer => ?_)
  cases found : ledger.theContract id with
  | error fault => rfl
  | ok contract =>
    have stored := Ledger.theContract_eq_ok.mp found
    exact congrArg Except.ok (agrees.contractStatus wellFormed stored viewer)

theorem requireStatus (agrees : ledger.AgreesAt other id) (wellFormed : ledger.WellFormed)
    (allowed : List ContractStatus) :
    ledger.requireStatus id allowed = other.requireStatus id allowed := by
  rw [Ledger.requireStatus, Ledger.requireStatus, agrees.theStatus wellFormed]

theorem localSeat (agrees : ledger.AgreesAt other id) (contract : Contract) :
    ledger.localSeat contract = other.localSeat contract := by
  rw [Ledger.localSeat, Ledger.localSeat, agrees.theLocalPlayer]

end Ledger.AgreesAt

namespace Operation

variable {settings : Settings} {operation : Operation} {id : ContractId}

theorem check_congr {ledger other : Ledger} (agrees : ledger.AgreesAt other id)
    (wellFormed : ledger.WellFormed) (acts : operation.actsOn = some id) :
    operation.check settings ledger = operation.check settings other := by
  cases operation <;> cases acts <;>
    simp only [check, agrees.requireStatus wellFormed, agrees.theContract, agrees.thePayout,
      agrees.localSeat]

/-! ### What a commit refills -/

variable {request : Wallet.Request} {commit : Commit} {desk : Desk}

/--
A commit answers the same on every desk with the same slot and refills the slot
in the same way; the instant shows only in a payout that is newly proposed.
-/
structure Refills (operation : Operation) (commit : Commit) (id : ContractId) (slot : Slot)
    (answer : Instant → Answer) (fill : Instant → Slot) : Prop where
  applies : ∀ now (desk : Desk), desk.ledger.slot id = slot →
    commit.apply now desk =
      (.ok (answer now), desk.withLedger (desk.ledger.withSlot id (fill now)))
  answer_dated : ∀ now later,
    .ok (answer later) = operation.redated later (.ok (answer now))
  fill_dated : ∀ now later,
    fill later = (fill now).redated later (operation.proposed (.ok (answer now)))

/-- The slot of a granted commit is the operation's own, and only a proposal files a payout. -/
theorem own_of_grants (acts : operation.actsOn = some id)
    (grants : Grants settings desk.ledger operation request commit) :
    commit.slotId = some id ∧ ((∃ one two, commit = .filePayout id one two) ∨
      ∀ result, operation.proposed result = false) := by
  cases grants <;> cases acts <;> first
    | exact ⟨rfl, .inr fun _ => rfl⟩
    | exact ⟨rfl, .inl ⟨_, _, rfl⟩⟩

/-- A commit whose instant does not show. -/
theorem refills_of_still {slot : Slot} (answer : Answer) (fill : Slot)
    (still : ∀ result, operation.proposed result = false)
    (applies : ∀ now (desk : Desk), desk.ledger.slot id = slot →
      commit.apply now desk = (.ok answer, desk.withLedger (desk.ledger.withSlot id fill))) :
    ∃ answer fill, Refills operation commit id slot answer fill := by
  refine ⟨fun _ => answer, fun _ => fill, applies, fun now later => ?_, fun now later => ?_⟩
  · rw [redated, still]
    rfl
  · rw [Slot.redated, still]
    rfl

theorem refills_of_grants (wellFormed : desk.ledger.WellFormed) (acts : operation.actsOn = some id)
    (grants : Grants settings desk.ledger operation request commit) :
    ∃ answer fill, Refills operation commit id (desk.ledger.slot id) answer fill := by
  obtain ⟨own, kind⟩ := own_of_grants acts grants
  cases commit with
  | registerPlayer | addPlayer | removePlayer | fileContract => cases own
  | patchContract patched patch =>
    cases own
    obtain ⟨_, _, ⟨⟩⟩ | still := kind
    obtain ⟨contract, stored⟩ := contract_of_grants grants
    refine refills_of_still (.contract (contract.apply patch))
      ⟨some (contract.apply patch), desk.ledger.payout? id⟩ still fun now other same => ?_
    have stored : other.ledger.contract? id = some contract :=
      (congrArg Slot.contract? same).trans stored
    have payout : other.ledger.payout? id = desk.ledger.payout? id := congrArg Slot.payout? same
    rw [Commit.apply, Ledger.updateContract, stored, ← payout, Ledger.withSlot_payout?]
    rfl
  | removeContract removed =>
    cases own
    obtain ⟨_, _, ⟨⟩⟩ | still := kind
    exact refills_of_still .done ⟨none, none⟩ still fun _ _ _ => rfl
  | filePayout filed amountOne amountTwo =>
    cases own
    cases grants with
    | @proposePayout _ _ _ _ contract sees split =>
      refine ⟨fun now => .payout (.new id amountOne amountTwo now),
        fun now => ⟨some contract, some (.new id amountOne amountTwo now)⟩, ?_,
        fun _ _ => rfl, fun _ _ => rfl⟩
      intro now other same
      have stored : other.ledger.contract? id = some contract :=
        (congrArg Slot.contract? same).trans sees.stored
      rw [Commit.apply_filePayout stored, ← stored, Ledger.withSlot_contract?]
      rfl
  | patchPayout patched patch =>
    cases own
    obtain ⟨_, _, ⟨⟩⟩ | still := kind
    obtain ⟨payout, stored⟩ := payout_of_grants wellFormed grants
    refine refills_of_still (.payout (payout.apply patch))
      ⟨desk.ledger.contract? id, some (payout.apply patch)⟩ still fun now other same => ?_
    have stored : other.ledger.payout? id = some payout :=
      (congrArg Slot.payout? same).trans stored
    have contract : other.ledger.contract? id = desk.ledger.contract? id :=
      congrArg Slot.contract? same
    rw [Commit.apply, Ledger.updatePayout, stored, ← contract, Ledger.withSlot_contract?]
    rfl
  | removePayout removed =>
    cases own
    obtain ⟨_, _, ⟨⟩⟩ | still := kind
    refine refills_of_still .done ⟨desk.ledger.contract? id, none⟩ still
      fun now other same => ?_
    have contract : other.ledger.contract? id = desk.ledger.contract? id :=
      congrArg Slot.contract? same
    rw [Commit.apply, ← contract, Ledger.withSlot_contract?]
    rfl

/-! ### What a run comes to -/

variable {σ : Type} {call : Wallet.Request → σ → Except EscrowError String × σ}
  {reply : Wallet.Request → Except EscrowError String}

/--
On every desk that agrees with one at a slot, an operation gives the same result
and refills the slot in the same way, and this is all it does to the desk; the
instant shows only in a payout that is newly proposed.
-/
structure Confined (call : Wallet.Request → σ → Except EscrowError String × σ)
    (settings : Settings) (operation : Operation) (id : ContractId) (ledger : Ledger)
    (result : Instant → Except EscrowError Answer) (fill : Instant → Slot) : Prop where
  result_eq : ∀ now wallet (desk : Desk), ledger.AgreesAt desk.ledger id →
    (operation.run call settings now wallet desk).1 = result now
  desk_eq : ∀ now wallet (desk : Desk), ledger.AgreesAt desk.ledger id →
    (operation.run call settings now wallet desk).2.2 =
      desk.withLedger (desk.ledger.withSlot id (fill now))
  result_dated : ∀ now later, result later = operation.redated later (result now)
  fill_dated : ∀ now later,
    fill later = (fill now).redated later (operation.proposed (result now))

theorem proposed_error (operation : Operation) (fault : EscrowError) :
    operation.proposed (.error fault) = false := by
  cases operation <;> rfl

/-- An operation that fails leaves its slot as it is. -/
theorem confined_of_error {ledger : Ledger} (fault : EscrowError)
    (fails : ∀ now wallet (desk : Desk), ledger.AgreesAt desk.ledger id →
      ∃ left, operation.run call settings now wallet desk = (.error fault, left, desk)) :
    ∃ result fill, Confined call settings operation id ledger result fill := by
  refine ⟨fun _ => .error fault, fun _ => ledger.slot id, fun now wallet desk agrees => ?_,
    fun now wallet desk agrees => ?_, fun now later => ?_, fun now later => ?_⟩
  · obtain ⟨left, ran⟩ := fails now wallet desk agrees
    rw [ran]
  · obtain ⟨left, ran⟩ := fails now wallet desk agrees
    rw [ran, agrees.slot, Ledger.withSlot_slot]
    rfl
  · rw [redated, proposed_error]
    rfl
  · rw [Slot.redated, proposed_error]
    rfl

theorem confined_of_actsOn (wellFormed : desk.ledger.WellFormed)
    (acts : operation.actsOn = some id)
    (answers : ∀ request wallet, (call request wallet).1 = reply request) :
    ∃ result fill, Confined call settings operation id desk.ledger result fill := by
  have same_check : ∀ {other : Desk}, desk.ledger.AgreesAt other.ledger id →
      operation.check settings other.ledger = operation.check settings desk.ledger :=
    fun agrees => (check_congr agrees wellFormed acts).symm
  cases checked : operation.check settings desk.ledger with
  | error fault =>
    refine confined_of_error fault fun now wallet other agrees => ⟨wallet, ?_⟩
    rw [run, same_check agrees, checked]
  | ok verdict =>
    have due := due_of_check checked
    cases verdict with
    | settled answer ledger =>
      cases due with
      | look looks =>
        rw [looks_of_asksWallet (asksWallet_of_actsOn acts).1] at looks
        cases looks
      | select | known => cases acts
    | asks request commit =>
      cases outcome : (reply request).bind Wallet.Reply.parse with
      | error fault =>
        refine confined_of_error fault fun now wallet other agrees =>
          ⟨(call request wallet).2, ?_⟩
        rw [run, same_check agrees, checked]
        simp only [conclude, answers, outcome]
      | ok accepted =>
        obtain ⟨answer, fill, refills⟩ := refills_of_grants wellFormed acts due
        have ran : ∀ now wallet (other : Desk), desk.ledger.AgreesAt other.ledger id →
            operation.run call settings now wallet other =
              (.ok (answer now), (call request wallet).2,
                other.withLedger (other.ledger.withSlot id (fill now))) := by
          intro now wallet other agrees
          rw [run, same_check agrees, checked]
          simp only [conclude, answers, outcome, refills.applies now other agrees.slot.symm]
        exact ⟨fun now => .ok (answer now), fill,
          fun now wallet other agrees => by rw [ran now wallet other agrees],
          fun now wallet other agrees => by rw [ran now wallet other agrees],
          refills.answer_dated, refills.fill_dated⟩

end Operation

end ArbitratedEscrow
