import ArbitratedEscrow.Proofs.Operation.Sound
import ArbitratedEscrow.Proofs.Operation.Success

/-!
# What a party is offered

Each guarded step of a contract's life is open in some statuses, and each status
advises a player of some steps. For a party the two agree with what succeeds: a
step succeeds exactly if it is open (`succeeds_iff_openIn`), and steps that are
advised are open. Who is told to wait waits for the other party, and that one is
not told to wait.
-/

namespace ArbitratedEscrow

namespace Operation

/-- The contract in whose life an operation is a step that its status guards. -/
def guardedContract : Operation → Option ContractId
  | signContract id _ | certifyContract id | broadcastFunding id | confirmFunding id
  | declineContract id | proposePayout id _ _ | signPayout id _ | certifyPayout id | denyPayout id
  | broadcastPayout id | confirmPayout id => some id
  | _ => none

def actsOn : Operation → Option ContractId
  | dismissContract id => some id
  | operation => operation.guardedContract

/-- Whether a guarded step is open to a party who sees a contract with a pot in a status. -/
def OpenIn (pot : Amount) (status : ContractStatus) : Operation → Prop
  | signContract .. => status = .unsigned ∨ status = .received
  | certifyContract _ => status = .playersSigned
  | broadcastFunding _ => status = .certified
  | confirmFunding _ => status = .fundingBroadcast
  | declineContract _ => status = .received
  | proposePayout _ one two => status = .live ∧ one.toNat + two.toNat = pot.toNat
  | signPayout .. | denyPayout _ => status = .payoutUnsigned ∨ status = .payoutReceived
  | certifyPayout _ => status = .payoutSignedWithToken
  | broadcastPayout _ => status = .payoutCertified
  | confirmPayout _ => status = .payoutBroadcast
  | _ => False

end Operation

/-- The steps that an action at a contract with a pot stands for. -/
def ContractAction.Names (pot : Amount) : ContractAction → Operation → Prop
  | issue, .signContract .. => True
  | acceptOrDecline, .signContract .. => True
  | acceptOrDecline, .declineContract _ => True
  | sendToArbiter, .certifyContract _ => True
  | broadcastFunding, .broadcastFunding _ => True
  | awaitFundingConfirmation, .confirmFunding _ => True
  | requestPayout, .proposePayout _ one two => one.toNat + two.toNat = pot.toNat
  | signPayout, .signPayout .. => True
  | sendPayoutToArbiter, .certifyPayout _ => True
  | acceptOrDenyPayout, .signPayout .. => True
  | acceptOrDenyPayout, .denyPayout _ => True
  | broadcastPayout, .broadcastPayout _ => True
  | awaitPayoutConfirmation, .confirmPayout _ => True
  | dismiss, .dismissContract _ => True
  | _, _ => False

namespace Operation

variable {settings : Settings} {operation : Operation} {id : ContractId}

theorem asksWallet_of_actsOn (acts : operation.actsOn = some id) :
    operation.asksWallet = true ∧ ∀ name, operation ≠ .addPlayer name := by
  cases operation <;> cases acts <;> exact ⟨rfl, by rintro _ ⟨⟩⟩

theorem actsOn_of_guarded (guarded : operation.guardedContract = some id) :
    operation.actsOn = some id := by
  cases operation <;> first | exact guarded | cases guarded

/-- A step that an action names is open in any status that advises the action. -/
theorem openIn_of_names {pot : Amount} {status : ContractStatus}
    (guarded : operation.guardedContract = some id)
    (named : status.nextAction.Names pot operation) : operation.OpenIn pot status := by
  cases operation <;> cases guarded <;> cases status <;>
    first | exact False.elim named | exact ⟨rfl, named⟩ | simp [OpenIn]

/-! ### Grants and open steps -/

theorem openIn_of_grants {ledger : Ledger} {request : Wallet.Request} {commit : Commit}
    (guarded : operation.guardedContract = some id)
    (grants : Grants settings ledger operation request commit) :
    ∃ viewer contract status, ledger.Sees id viewer contract status ∧
      operation.OpenIn contract.amount status := by
  cases grants with
  | registerPlayer | addPlayer | removePlayer | newContract | dismissContract => cases guarded
  | signContract sees allowed | signPayout sees allowed =>
    cases guarded
    exact ⟨_, _, _, sees, allowed⟩
  | denyPayout sees allowed =>
    cases guarded
    exact ⟨_, _, _, sees, allowed.symm⟩
  | certifyContract sees | broadcastFunding sees | confirmFunding sees | declineContract sees
  | certifyPayout sees | broadcastPayout sees | confirmPayout sees =>
    cases guarded
    exact ⟨_, _, _, sees, rfl⟩
  | proposePayout sees split =>
    cases guarded
    exact ⟨_, _, _, sees, rfl, split⟩

/-- What is open to a party can be granted. -/
theorem grants_of_openIn {ledger : Ledger} (wellFormed : ledger.WellFormed) {viewer : PlayerId}
    {contract : Contract} {status : ContractStatus} {seat : Seat}
    (sees : ledger.Sees id viewer contract status) (seated : contract.seatOf viewer = some seat)
    (guarded : operation.guardedContract = some id)
    (opens : operation.OpenIn contract.amount status) :
    ∃ request commit, Grants settings ledger operation request commit := by
  cases operation <;> cases guarded <;> simp only [OpenIn] at opens
  case signContract => exact ⟨_, _, .signContract sees opens seated⟩
  case certifyContract => exact ⟨_, _, .certifyContract (opens ▸ sees)⟩
  case broadcastFunding => exact ⟨_, _, .broadcastFunding (opens ▸ sees)⟩
  case confirmFunding => exact ⟨_, _, .confirmFunding (opens ▸ sees)⟩
  case declineContract => exact ⟨_, _, .declineContract (opens ▸ sees)⟩
  case proposePayout => exact ⟨_, _, .proposePayout (opens.1 ▸ sees) opens.2⟩
  case signPayout => exact ⟨_, _, .signPayout sees opens seated⟩
  case certifyPayout =>
    have sees : ledger.Sees id viewer contract .payoutSignedWithToken := opens ▸ sees
    obtain ⟨_, payout, stored, _, _, _, token⟩ := sees.tokenSigned_payout wellFormed
    exact ⟨_, _, .certifyPayout sees stored token⟩
  case denyPayout => exact ⟨_, _, .denyPayout sees opens.symm⟩
  case broadcastPayout => exact ⟨_, _, .broadcastPayout (opens ▸ sees)⟩
  case confirmPayout => exact ⟨_, _, .confirmPayout (opens ▸ sees)⟩

variable {σ : Type} {call : Wallet.Request → σ → Except EscrowError String × σ} {wallet : σ}
  {now : Instant} {desk : Desk} {viewer : PlayerId} {contract : Contract}
  {status : ContractStatus} {seat : Seat}

theorem succeeds_iff_openIn (wellFormed : desk.ledger.WellFormed)
    (sees : desk.ledger.Sees id viewer contract status)
    (seated : contract.seatOf viewer = some seat)
    (guarded : operation.guardedContract = some id)
    (accepted : operation.AcceptedBy call wallet) :
    operation.Succeeds call settings now wallet desk ↔
      operation.OpenIn contract.amount status := by
  constructor
  · intro succeeds
    obtain ⟨asks, unknown⟩ := asksWallet_of_actsOn (actsOn_of_guarded guarded)
    obtain ⟨_, _, grants⟩ := grants_of_succeeds wellFormed asks unknown succeeds
    obtain ⟨_, _, _, also, opens⟩ := openIn_of_grants guarded grants
    obtain ⟨_, rfl, rfl⟩ := sees.unique also
    exact opens
  · intro opens
    obtain ⟨_, _, grants⟩ := grants_of_openIn wellFormed sees seated guarded opens
    exact succeeds_of_grants wellFormed grants accepted

/-- A party can do what the next action names. -/
theorem succeeds_of_names (wellFormed : desk.ledger.WellFormed)
    (sees : desk.ledger.Sees id viewer contract status)
    (seated : contract.seatOf viewer = some seat) (acts : operation.actsOn = some id)
    (accepted : operation.AcceptedBy call wallet)
    (named : status.nextAction.Names contract.amount operation) :
    operation.Succeeds call settings now wallet desk := by
  by_cases dismisses : operation = .dismissContract id
  · subst dismisses
    exact succeeds_of_grants wellFormed (.dismissContract sees.stored) accepted
  · have guarded : operation.guardedContract = some id := by
      cases operation <;> first
        | exact acts
        | exact False.elim (dismisses (congrArg dismissContract (Option.some.inj acts)))
    exact (succeeds_iff_openIn wellFormed sees seated guarded accepted).mpr
      (openIn_of_names guarded named)

end Operation

/-! ### Waiting for the other party -/

namespace Ledger.Sound

variable {ledger : Ledger} {id : ContractId} {viewer : PlayerId} {contract : Contract}
  {seat : Seat}

theorem received_of_signed (sound : ledger.Sound) (seated : contract.seatOf viewer = some seat)
    (sees : ledger.Sees id viewer contract .signed) :
    contract.Shows ledger.lookup (contract.player seat.other) .received := by
  obtain ⟨half, signed⟩ := sees.shown
  have across := (sound.contract sees.stored).seatOf_player seat.other
  have signed : contract.signatures.of seat = true :=
    (Signable.signedBy_contract_eq seated).symm.trans signed
  have short : ¬ contract.signatures.Quorum := by
    rintro (two | ⟨_, arbiter⟩)
    · rw [half.2] at two
      cases two
    · rw [half.1] at arbiter
      cases arbiter
  have free := (Signatures.alone_of_not_quorum short signed).1
  exact ⟨half, (Signable.signedBy_contract_eq across).trans free⟩

theorem payoutReceived_of_signed (sound : ledger.Sound)
    (seated : contract.seatOf viewer = some seat)
    (sees : ledger.Sees id viewer contract .payoutSigned) :
    contract.Shows ledger.lookup (contract.player seat.other) .payoutReceived := by
  obtain ⟨funded, payout, stored, ⟨isOpen, signed, _⟩, parent⟩ :=
    sees.payout sound.wellFormed sees.shown
  have whole := sound.contract sees.stored
  have across := whole.seatOf_player seat.other
  have found : ledger.lookup.payout contract.id = some payout :=
    (sound.wellFormed.contract_keyed sees.stored).symm ▸ stored
  have signed : payout.signatures.of seat = true :=
    (Signable.signedBy_payout_eq parent seated).symm.trans signed
  have free := (Signatures.alone_of_not_quorum isOpen.2 signed).1
  have back : payout.signatures.of seat.other.other = true := by cases seat <;> exact signed
  refine ⟨funded, payout, found, Payout.status_eq_iff.mpr ⟨isOpen, ?_, ?_⟩⟩
  · exact (Signable.signedBy_payout_eq parent across).trans free
  · exact (Payout.signedAcross_eq parent whole.different across).trans back

/-- Who is told to wait for the other party: that one has something to answer. -/
theorem answer_of_await (sound : ledger.Sound) (seated : contract.seatOf viewer = some seat)
    {status : ContractStatus} (sees : ledger.Sees id viewer contract status)
    (waits : status.nextAction = .awaitCounterparty) :
    (status = .signed ∧
      contract.status ledger.lookup (contract.player seat.other) = .received) ∨
    (status = .payoutSigned ∧
      contract.status ledger.lookup (contract.player seat.other) = .payoutReceived) := by
  cases status with
  | signed =>
    exact Or.inl ⟨rfl, Contract.status_eq_iff.mpr (sound.received_of_signed seated sees)⟩
  | payoutSigned =>
    exact Or.inr ⟨rfl, Contract.status_eq_iff.mpr (sound.payoutReceived_of_signed seated sees)⟩
  | _ => cases waits

end Ledger.Sound

end ArbitratedEscrow
