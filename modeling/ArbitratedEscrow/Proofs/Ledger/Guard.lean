import ArbitratedEscrow.Operation.Basic
import ArbitratedEscrow.Proofs.Ledger.WellFormed
import ArbitratedEscrow.Proofs.Lifecycle.Standing

/-!
# What guards find out

When the reads and guards of an operation go through, and what the guarded
statuses then say about the records themselves. Statuses depend on who looks,
and a player without a seat looks too: the facts below hold for every viewer.
-/

namespace ArbitratedEscrow

theorem bind_eq_ok {ε α β : Type} {x : Except ε α} {f : α → Except ε β} {b : β} :
    (x >>= f) = .ok b ↔ ∃ a, x = .ok a ∧ f a = .ok b := by
  cases x with
  | error fault =>
    constructor
    · intro result
      cases result
    · rintro ⟨a, result, _⟩
      cases result
  | ok a =>
    constructor
    · intro result
      exact ⟨a, rfl, result⟩
    · rintro ⟨_, ⟨⟩, result⟩
      exact result

theorem map_eq_ok {ε α β : Type} {x : Except ε α} {f : α → β} {b : β} :
    x.map f = .ok b ↔ ∃ a, x = .ok a ∧ f a = b := by
  cases x with
  | error fault =>
    constructor
    · intro result
      cases result
    · rintro ⟨a, result, _⟩
      cases result
  | ok a =>
    constructor
    · rintro ⟨⟩
      exact ⟨a, rfl, rfl⟩
    · rintro ⟨_, ⟨⟩, rfl⟩
      rfl

namespace Ledger

variable {ledger : Ledger}

/-- The selected player sees a contract in a status. -/
structure Sees (ledger : Ledger) (id : ContractId) (viewer : PlayerId) (contract : Contract)
    (status : ContractStatus) : Prop where
  selected : ledger.selected = some viewer
  stored : ledger.contract? id = some contract
  shown : contract.Shows ledger.lookup viewer status

theorem theLocalPlayer_eq_ok {player : PlayerId} :
    ledger.theLocalPlayer = .ok player ↔ ledger.selected = some player := by
  unfold theLocalPlayer
  cases ledger.selected <;> simp

theorem thePlayer_eq_ok {id : PlayerId} {player : Player} :
    ledger.thePlayer id = .ok player ↔ ledger.player? id = some player := by
  unfold thePlayer
  cases ledger.player? id <;> simp

theorem theContract_eq_ok {id : ContractId} {contract : Contract} :
    ledger.theContract id = .ok contract ↔ ledger.contract? id = some contract := by
  unfold theContract
  cases ledger.contract? id <;> simp

theorem thePayout_eq_ok {id : ContractId} {payout : Payout} :
    ledger.thePayout id = .ok payout ↔ ledger.payout? id = some payout := by
  unfold thePayout
  cases ledger.payout? id <;> simp

theorem theStatus_eq_ok {id : ContractId} {status : ContractStatus} :
    ledger.theStatus id = .ok status ↔
      ∃ viewer contract, ledger.Sees id viewer contract status := by
  simp only [theStatus, bind_eq_ok, theLocalPlayer_eq_ok, theContract_eq_ok]
  constructor
  · rintro ⟨viewer, selected, contract, stored, found⟩
    exact ⟨viewer, contract, selected, stored, Contract.status_eq_iff.mp (by injection found)⟩
  · rintro ⟨viewer, contract, sees⟩
    exact ⟨viewer, sees.selected, contract, sees.stored,
      congrArg Except.ok (Contract.status_eq_iff.mpr sees.shown)⟩

theorem requireStatus_eq_ok {id : ContractId} {allowed : List ContractStatus} {u : Unit} :
    ledger.requireStatus id allowed = .ok u ↔
      ∃ status ∈ allowed, ∃ viewer contract, ledger.Sees id viewer contract status := by
  simp only [requireStatus, bind_eq_ok, theStatus_eq_ok]
  constructor
  · rintro ⟨status, sees, found⟩
    split at found
    · rename_i member
      exact ⟨status, by simpa using member, sees⟩
    · cases found
  · rintro ⟨status, member, sees⟩
    refine ⟨status, sees, ?_⟩
    rw [if_pos (by simpa using member)]
    rfl

theorem localSeat_eq_ok {contract : Contract} {seat : Seat} :
    ledger.localSeat contract = .ok seat ↔
      ∃ viewer, ledger.selected = some viewer ∧ contract.seatOf viewer = some seat := by
  simp only [localSeat, bind_eq_ok, theLocalPlayer_eq_ok]
  refine exists_congr fun viewer => and_congr_right fun _ => ?_
  cases contract.seatOf viewer with
  | none =>
    constructor
    · intro result
      cases result
    · intro seated
      cases seated
  | some held =>
    constructor
    · rintro ⟨⟩
      rfl
    · rintro ⟨⟩
      rfl

/-! ### What the guarded statuses say -/

namespace Sees

variable {id : ContractId} {viewer : PlayerId} {contract : Contract} {status : ContractStatus}
  {seat : Seat}

/-- There is one selected player, one contract and one status that this player sees. -/
theorem unique {other : PlayerId} {another : Contract} {seen : ContractStatus}
    (sees : ledger.Sees id viewer contract status) (also : ledger.Sees id other another seen) :
    other = viewer ∧ another = contract ∧ seen = status := by
  obtain rfl := Option.some.inj (also.selected.symm.trans sees.selected)
  obtain rfl := Option.some.inj (also.stored.symm.trans sees.stored)
  have told : another.status ledger.lookup other = status :=
    Contract.status_eq_iff.mpr sees.shown
  exact ⟨rfl, rfl, (Contract.status_eq_iff.mpr also.shown).symm.trans told⟩

/-- Who may still sign a contract has not done so, and neither has the arbiter. -/
theorem unsigned_contract (sees : ledger.Sees id viewer contract status)
    (allowed : status = .unsigned ∨ status = .received)
    (seated : contract.seatOf viewer = some seat) :
    contract.signatures.of seat = false ∧ contract.signatures.arbiter = false := by
  rcases allowed with rfl | rfl
  · have blank : contract.signatures = .blank := sees.shown
    rw [blank]
    cases seat <;> exact ⟨rfl, rfl⟩
  · obtain ⟨half, unsigned⟩ := sees.shown
    exact ⟨(Signable.signedBy_contract_eq seated).symm.trans unsigned, half.1⟩

/-- The payout that a status is told by is the one stored for the contract. -/
theorem payout (sees : ledger.Sees id viewer contract status) (wellFormed : ledger.WellFormed)
    {payoutStatus : PayoutStatus}
    (shown : contract.ShowsPayout ledger.lookup viewer payoutStatus) :
    contract.Funded ∧ ∃ payout, ledger.payout? id = some payout ∧
      payout.Shows ledger.lookup viewer payoutStatus ∧
      ledger.lookup.contract payout.contract = some contract := by
  obtain ⟨funded, payout, found, seen⟩ := shown
  have stored : ledger.payout? id = some payout :=
    wellFormed.contract_keyed sees.stored ▸ found
  refine ⟨funded, payout, stored, Payout.status_eq_iff.mp seen, ?_⟩
  rw [wellFormed.payout_keyed stored]
  exact sees.stored

/-- Who may still sign a payout has not done so, and neither has the arbiter. -/
theorem unsigned_payout (sees : ledger.Sees id viewer contract status)
    (wellFormed : ledger.WellFormed)
    (allowed : status = .payoutUnsigned ∨ status = .payoutReceived)
    (seated : contract.seatOf viewer = some seat) :
    contract.Funded ∧ ∃ payout, ledger.payout? id = some payout ∧ payout.Open ∧
      payout.signatures.of seat = false ∧ payout.signatures.arbiter = false := by
  rcases allowed with rfl | rfl
  · obtain ⟨funded, payout, stored, ⟨isOpen, _, _, blank⟩, _⟩ := sees.payout wellFormed sees.shown
    refine ⟨funded, payout, stored, isOpen, ?_⟩
    rw [blank]
    cases seat <;> exact ⟨rfl, rfl⟩
  · obtain ⟨funded, payout, stored, ⟨isOpen, unsigned, across⟩, parent⟩ :=
      sees.payout wellFormed sees.shown
    have free := Payout.seat_free_of_signedAcross parent seated unsigned across
    exact ⟨funded, payout, stored, isOpen, free.1,
      (Signatures.alone_of_not_quorum isOpen.2 free.2).2⟩

/-- A payout goes to the arbiter with one signature, given by token. -/
theorem tokenSigned_payout (sees : ledger.Sees id viewer contract .payoutSignedWithToken)
    (wellFormed : ledger.WellFormed) :
    contract.Funded ∧ ∃ payout, ledger.payout? id = some payout ∧ payout.Open ∧
      payout.signatures.playerCount = 1 ∧ payout.signatures.arbiter = false ∧
      payout.withToken = true := by
  obtain ⟨funded, payout, stored, ⟨isOpen, signed, token⟩, parent⟩ :=
    sees.payout wellFormed sees.shown
  obtain ⟨seat, seated, signed⟩ := (Signable.signedBy_payout parent).mp signed
  have alone := Signatures.alone_of_not_quorum isOpen.2 signed
  exact ⟨funded, payout, stored, isOpen, Signatures.playerCount_of_alone signed alone.1,
    alone.2, token⟩

end Sees

end Ledger

end ArbitratedEscrow
