import ArbitratedEscrow.Proofs.Operation.Move

/-!
# When operations succeed

What an operation is granted, its check comes to (`check_of_grants`). So an
operation that the wallet accepts succeeds if there is something to grant, and
whatever the wallet is, an operation that may have to ask it succeeds only then
(`grants_of_succeeds`).
-/

namespace ArbitratedEscrow

theorem Ledger.requireStatus_bind {ledger : Ledger} {id : ContractId} {viewer : PlayerId}
    {contract : Contract} {status : ContractStatus} {allowed : List ContractStatus} {α : Type}
    (sees : ledger.Sees id viewer contract status) (member : status ∈ allowed)
    (next : Unit → Except EscrowError α) :
    (ledger.requireStatus id allowed >>= next) = next () := by
  have passed : ledger.requireStatus id allowed = .ok () :=
    requireStatus_eq_ok.mpr ⟨status, member, viewer, contract, sees⟩
  rw [passed]
  rfl

theorem Ledger.localSeat_bind {ledger : Ledger} {id : ContractId} {viewer : PlayerId}
    {contract : Contract} {status : ContractStatus} {seat : Seat} {α : Type}
    (sees : ledger.Sees id viewer contract status) (seated : contract.seatOf viewer = some seat)
    (next : Seat → Except EscrowError α) :
    (ledger.theContract id >>= fun found => ledger.localSeat found >>= next) = next seat := by
  have found : ledger.theContract id = .ok contract := theContract_eq_ok.mpr sees.stored
  have placed : ledger.localSeat contract = .ok seat :=
    localSeat_eq_ok.mpr ⟨viewer, sees.selected, seated⟩
  rw [found]
  exact (congrArg (· >>= next) placed).trans rfl

namespace Operation

variable {settings : Settings} {ledger : Ledger} {operation : Operation}
  {request : Wallet.Request} {commit : Commit}

/-- A check finds whatever can be granted. -/
theorem check_of_grants (grants : Grants settings ledger operation request commit) :
    operation.check settings ledger = .ok (.asks request commit) := by
  cases grants with
  | registerPlayer long => exact bind_eq_ok.mpr ⟨(), long, rfl⟩
  | addPlayer unnamed =>
    rw [check, unnamed]
    rfl
  | removePlayer stored => exact bind_eq_ok.mpr ⟨_, Ledger.thePlayer_eq_ok.mpr stored, rfl⟩
  | newContract different positive oneStored twoStored =>
    rw [check, if_neg different]
    dsimp only
    rw [if_neg positive]
    exact bind_eq_ok.mpr ⟨_, Ledger.thePlayer_eq_ok.mpr oneStored,
      bind_eq_ok.mpr ⟨_, Ledger.thePlayer_eq_ok.mpr twoStored, rfl⟩⟩
  | signContract sees allowed seated =>
    exact (Ledger.requireStatus_bind sees (by simpa using allowed) _).trans
      (Ledger.localSeat_bind sees seated _)
  | certifyContract sees | broadcastFunding sees | confirmFunding sees | declineContract sees
  | broadcastPayout sees | confirmPayout sees =>
    exact Ledger.requireStatus_bind sees (List.mem_singleton_self _) _
  | dismissContract stored =>
    exact bind_eq_ok.mpr ⟨_, Ledger.theContract_eq_ok.mpr stored, rfl⟩
  | @proposePayout id one two viewer contract sees split =>
    have fits : ¬ UInt64.size ≤ one.toNat + two.toNat := by
      rw [split]
      exact Nat.not_le.mpr contract.amount.toNat_lt
    have total : one + two = contract.amount := by
      rw [← UInt64.toNat_inj, UInt64.toNat_add, split]
      exact Nat.mod_eq_of_lt contract.amount.toNat_lt
    refine (Ledger.requireStatus_bind sees (List.mem_singleton_self _) _).trans ?_
    refine bind_eq_ok.mpr ⟨contract, Ledger.theContract_eq_ok.mpr sees.stored, ?_⟩
    rw [if_neg fits]
    dsimp only
    rw [if_neg (not_not.mpr total)]
    rfl
  | @signPayout id credential _ _ _ seat sees allowed seated =>
    refine ((Ledger.requireStatus_bind sees (by simpa using allowed) _).trans
      (Ledger.localSeat_bind sees seated _)).trans ?_
    cases credential with
    | password password => cases seat <;> rfl
    | token token => rfl
  | certifyPayout sees stored token =>
    refine (Ledger.requireStatus_bind sees (List.mem_singleton_self _) _).trans ?_
    refine bind_eq_ok.mpr ⟨_, Ledger.thePayout_eq_ok.mpr stored, ?_⟩
    rw [token]
    rfl
  | denyPayout sees allowed =>
    exact Ledger.requireStatus_bind sees (by simpa using allowed) _

/-! ### Accepting wallets -/

def secret? : Operation → Option Secret
  | registerPlayer _ passphrase => some passphrase
  | signContract _ password => some password
  | signPayout _ credential => some credential.secret
  | _ => none

/-- The wallet carries out any command that comes with the secret of an operation, if it has one. -/
def AcceptedBy {σ : Type} (call : Wallet.Request → σ → Except EscrowError String × σ) (wallet : σ)
    (operation : Operation) : Prop :=
  ∀ command, ∃ reply,
    (call ⟨command, operation.secret?⟩ wallet).1.bind Wallet.Reply.parse = .ok reply

/-- Whether an operation gives an answer and no error. -/
def Succeeds {σ : Type} (call : Wallet.Request → σ → Except EscrowError String × σ)
    (settings : Settings) (now : Instant) (wallet : σ) (desk : Desk) (operation : Operation) :
    Prop :=
  ∃ answer, (operation.run call settings now wallet desk).1 = .ok answer

theorem secret_of_grants (grants : Grants settings ledger operation request commit) :
    request.secret = operation.secret? := by
  cases grants with
  | @signPayout _ credential => cases credential <;> rfl
  | _ => rfl

variable {σ : Type} {call : Wallet.Request → σ → Except EscrowError String × σ} {wallet : σ}
  {now : Instant} {desk : Desk}

theorem succeeds_of_grants (wellFormed : desk.ledger.WellFormed)
    (grants : Grants settings desk.ledger operation request commit)
    (accepted : operation.AcceptedBy call wallet) :
    operation.Succeeds call settings now wallet desk := by
  obtain ⟨answer, after, applied, _⟩ : ∃ answer after, commit.apply now desk = (.ok answer, after) ∧
      Move settings now desk operation answer after := move_of_grants wellFormed grants
  obtain ⟨reply, accepts⟩ := accepted request.command
  rw [← secret_of_grants grants] at accepts
  have accepts : (call request wallet).1.bind Wallet.Reply.parse = .ok reply := accepts
  refine ⟨answer, ?_⟩
  simp only [run, check_of_grants grants, conclude, accepts, applied]

/-- An operation that may have to ask the wallet succeeds by a grant, or on a name that is known. -/
theorem grants_of_succeeds (wellFormed : desk.ledger.WellFormed)
    (asks : operation.asksWallet = true) (unknown : ∀ name, operation ≠ .addPlayer name)
    (succeeds : operation.Succeeds call settings now wallet desk) :
    ∃ request commit, Grants settings desk.ledger operation request commit := by
  obtain ⟨answer, succeeded⟩ := succeeds
  have course : operation.Course call settings now wallet desk
      (operation.run call settings now wallet desk) := course_run call wallet wellFormed
  generalize operation.run call settings now wallet desk = ran at course succeeded
  cases course with
  | refused | rejected => cases succeeded
  | settled settles =>
    cases settles with
    | look looks =>
      rw [looks_of_asksWallet asks] at looks
      cases looks
    | select => cases asks
    | known => exact False.elim (unknown _ rfl)
  | done grants => exact ⟨_, _, grants⟩

end Operation

end ArbitratedEscrow
