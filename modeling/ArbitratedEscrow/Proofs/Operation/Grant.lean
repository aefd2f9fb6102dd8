import ArbitratedEscrow.Proofs.Ledger.Guard

/-!
# What an operation is granted

`Operation.Grants` lists, for each operation, the one request that it may make,
what it may commit, and what its check has found out by then; `Operation.Settles`
lists those that need no wallet. Later proofs go through these cases and do not
open a check again.
-/

namespace ArbitratedEscrow

namespace Operation

/-- The signature of the player on a seat, marked if it is given by token. -/
def signatureBy (seat : Seat) (credential : Credential) : Payout.Patch :=
  { Payout.Patch.sign seat with withToken := if credential.isToken then some true else none }

def signatureRequest (id : ContractId) : Credential → Wallet.Request
  | .password password => ⟨.signPayout id, some password⟩
  | .token token => ⟨.signPayoutWithToken id, some token⟩

/-- The request and the commit that an operation is granted. -/
inductive Grants (settings : Settings) (ledger : Ledger) :
    Operation → Wallet.Request → Commit → Prop where
  | registerPlayer {name : String} {passphrase : Secret}
      (long : settings.checkPassphrase passphrase = .ok ()) :
      Grants settings ledger (.registerPlayer name passphrase)
        ⟨.registerPlayer name, some passphrase⟩ (.registerPlayer name)
  | addPlayer {name : String} (unnamed : ledger.playerNamed? name = none) :
      Grants settings ledger (.addPlayer name) ⟨.addPlayer name, none⟩ (.addPlayer name)
  | removePlayer {id : PlayerId} {player : Player} (stored : ledger.player? id = some player) :
      Grants settings ledger (.removePlayer id) ⟨.removePlayer player.name, none⟩
        (.removePlayer player)
  | newContract {playerOne playerTwo : PlayerId} {amount : Amount} {description : String}
      {one two : Player} (different : playerOne ≠ playerTwo) (positive : amount ≠ 0)
      (oneStored : ledger.player? playerOne = some one)
      (twoStored : ledger.player? playerTwo = some two) :
      Grants settings ledger (.newContract playerOne playerTwo amount description)
        ⟨.newContract one.name two.name amount, none⟩
        (.fileContract one.id two.id amount description)
  | signContract {id : ContractId} {password : Secret} {viewer : PlayerId} {contract : Contract}
      {status : ContractStatus} {seat : Seat} (sees : ledger.Sees id viewer contract status)
      (allowed : status = .unsigned ∨ status = .received)
      (seated : contract.seatOf viewer = some seat) :
      Grants settings ledger (.signContract id password) ⟨.signContract id, some password⟩
        (.patchContract id (.sign seat))
  | certifyContract {id : ContractId} {viewer : PlayerId} {contract : Contract}
      (sees : ledger.Sees id viewer contract .playersSigned) :
      Grants settings ledger (.certifyContract id) ⟨.submitContract id settings.arbiterUrl, none⟩
        (.patchContract id { arbiterSigned := some true })
  | broadcastFunding {id : ContractId} {viewer : PlayerId} {contract : Contract}
      (sees : ledger.Sees id viewer contract .certified) :
      Grants settings ledger (.broadcastFunding id) ⟨.broadcastContract id, none⟩
        (.patchContract id { funding := some .broadcast })
  | confirmFunding {id : ContractId} {viewer : PlayerId} {contract : Contract}
      (sees : ledger.Sees id viewer contract .fundingBroadcast) :
      Grants settings ledger (.confirmFunding id) ⟨.confirmContract id, none⟩
        (.patchContract id { funding := some .confirmed })
  | declineContract {id : ContractId} {viewer : PlayerId} {contract : Contract}
      (sees : ledger.Sees id viewer contract .received) :
      Grants settings ledger (.declineContract id) ⟨.deleteContract id, none⟩ (.removeContract id)
  | dismissContract {id : ContractId} {contract : Contract}
      (stored : ledger.contract? id = some contract) :
      Grants settings ledger (.dismissContract id) ⟨.deleteContract id, none⟩ (.removeContract id)
  | proposePayout {id : ContractId} {amountOne amountTwo : Amount} {viewer : PlayerId}
      {contract : Contract} (sees : ledger.Sees id viewer contract .live)
      (split : amountOne.toNat + amountTwo.toNat = contract.amount.toNat) :
      Grants settings ledger (.proposePayout id amountOne amountTwo)
        ⟨.newPayout id amountOne amountTwo, none⟩ (.filePayout id amountOne amountTwo)
  | signPayout {id : ContractId} {credential : Credential} {viewer : PlayerId}
      {contract : Contract} {status : ContractStatus} {seat : Seat}
      (sees : ledger.Sees id viewer contract status)
      (allowed : status = .payoutUnsigned ∨ status = .payoutReceived)
      (seated : contract.seatOf viewer = some seat) :
      Grants settings ledger (.signPayout id credential) (signatureRequest id credential)
        (.patchPayout id (signatureBy seat credential))
  | certifyPayout {id : ContractId} {viewer : PlayerId} {contract : Contract} {payout : Payout}
      (sees : ledger.Sees id viewer contract .payoutSignedWithToken)
      (stored : ledger.payout? id = some payout) (token : payout.withToken = true) :
      Grants settings ledger (.certifyPayout id) ⟨.submitPayout id settings.arbiterUrl, none⟩
        (.patchPayout id { arbiterSigned := some true })
  | denyPayout {id : ContractId} {viewer : PlayerId} {contract : Contract}
      {status : ContractStatus} (sees : ledger.Sees id viewer contract status)
      (allowed : status = .payoutReceived ∨ status = .payoutUnsigned) :
      Grants settings ledger (.denyPayout id) ⟨.deletePayout id, none⟩ (.removePayout id)
  | broadcastPayout {id : ContractId} {viewer : PlayerId} {contract : Contract}
      (sees : ledger.Sees id viewer contract .payoutCertified) :
      Grants settings ledger (.broadcastPayout id) ⟨.broadcastPayout id, none⟩
        (.patchPayout id { transaction := some .broadcast })
  | confirmPayout {id : ContractId} {viewer : PlayerId} {contract : Contract}
      (sees : ledger.Sees id viewer contract .payoutBroadcast) :
      Grants settings ledger (.confirmPayout id) ⟨.confirmPayout id, none⟩
        (.patchPayout id { transaction := some .confirmed })

def looks : Operation → Bool
  | localPlayer | contract _ | payout _ | status _ | payoutStatus _ => true
  | _ => false

inductive Settles (ledger : Ledger) : Operation → Answer → Ledger → Prop where
  | look {operation : Operation} {answer : Answer} (looks : operation.looks = true) :
      Settles ledger operation answer ledger
  | select {id : PlayerId} {player : Player} (stored : ledger.player? id = some player) :
      Settles ledger (.select id) .done (ledger.withSelected (some id))
  | known {name : String} {player : Player} (named : ledger.playerNamed? name = some player) :
      Settles ledger (.addPlayer name) (.player player) ledger

/-- Whether an operation may have to ask the wallet. -/
def asksWallet : Operation → Bool
  | select _ => false
  | operation => !operation.looks

def Due (settings : Settings) (ledger : Ledger) (operation : Operation) : Verdict → Prop
  | .settled answer after => Settles ledger operation answer after
  | .asks request commit => Grants settings ledger operation request commit

variable {settings : Settings} {ledger : Ledger} {operation : Operation} {verdict : Verdict}

theorem looks_of_asksWallet (asks : operation.asksWallet = true) : operation.looks = false := by
  cases operation <;> first | rfl | cases asks

/-- A step of a contract's life that nothing but a status guards. -/
theorem asks_of_requireStatus {id : ContractId} {allowed : List ContractStatus}
    {command : Wallet.Command} {commit : Commit}
    (checked : (ledger.requireStatus id allowed >>= fun _ => ask command commit) = .ok verdict) :
    (∃ status ∈ allowed, ∃ viewer contract, ledger.Sees id viewer contract status) ∧
      verdict = .asks ⟨command, none⟩ commit := by
  obtain ⟨_, required, asked⟩ := bind_eq_ok.mp checked
  cases asked
  exact ⟨Ledger.requireStatus_eq_ok.mp required, rfl⟩

/-- What the two operations that sign have found out about the signer. -/
theorem seat_of_requireStatus {α : Type} {id : ContractId} {allowed : List ContractStatus}
    {next : Seat → Except EscrowError α} {result : α}
    (checked : (ledger.requireStatus id allowed >>= fun _ => ledger.theContract id >>=
      fun contract => ledger.localSeat contract >>= next) = .ok result) :
    ∃ status ∈ allowed, ∃ viewer contract seat, ledger.Sees id viewer contract status ∧
      contract.seatOf viewer = some seat ∧ next seat = .ok result := by
  obtain ⟨_, required, checked⟩ := bind_eq_ok.mp checked
  obtain ⟨status, member, viewer, contract, sees⟩ := Ledger.requireStatus_eq_ok.mp required
  obtain ⟨stored, found, checked⟩ := bind_eq_ok.mp checked
  cases sees.stored.symm.trans (Ledger.theContract_eq_ok.mp found)
  obtain ⟨seat, seated, checked⟩ := bind_eq_ok.mp checked
  obtain ⟨signer, selected, seated⟩ := Ledger.localSeat_eq_ok.mp seated
  cases sees.selected.symm.trans selected
  exact ⟨status, member, viewer, contract, seat, sees, seated, checked⟩

/-- The sum of two amounts that does not overflow. -/
theorem split_of_sum {one two pot : Amount} (fits : ¬ UInt64.size ≤ one.toNat + two.toNat)
    (total : ¬ one + two ≠ pot) : one.toNat + two.toNat = pot.toNat := by
  have size : UInt64.size = 2 ^ 64 := rfl
  rw [← not_ne_iff.mp total, UInt64.toNat_add]
  omega

theorem due_of_check (checked : operation.check settings ledger = .ok verdict) :
    Due settings ledger operation verdict := by
  cases operation with
  | localPlayer | contract | payout | status | payoutStatus =>
    obtain ⟨_, _, settled⟩ := bind_eq_ok.mp checked
    cases settled
    exact Settles.look rfl
  | select id =>
    obtain ⟨chosen, selected, settled⟩ := bind_eq_ok.mp checked
    cases settled
    rw [Ledger.select] at selected
    split at selected
    · rename_i stored
      cases selected
      obtain ⟨player, found⟩ := Directory.contains_iff.mp stored
      exact Settles.select found
    · cases selected
  | registerPlayer name passphrase =>
    obtain ⟨_, long, asked⟩ := bind_eq_ok.mp checked
    cases asked
    exact Grants.registerPlayer long
  | addPlayer name =>
    rw [check] at checked
    split at checked
    · rename_i named
      cases checked
      exact Settles.known named
    · rename_i unnamed
      cases checked
      exact Grants.addPlayer unnamed
  | removePlayer id =>
    obtain ⟨player, stored, asked⟩ := bind_eq_ok.mp checked
    cases asked
    exact Grants.removePlayer (Ledger.thePlayer_eq_ok.mp stored)
  | newContract playerOne playerTwo amount description =>
    rw [check] at checked
    split at checked
    · cases checked
    · rename_i different
      dsimp only at checked
      split at checked
      · cases checked
      · rename_i positive
        obtain ⟨one, oneStored, checked⟩ := bind_eq_ok.mp checked
        obtain ⟨two, twoStored, asked⟩ := bind_eq_ok.mp checked
        cases asked
        exact Grants.newContract different positive (Ledger.thePlayer_eq_ok.mp oneStored)
          (Ledger.thePlayer_eq_ok.mp twoStored)
  | signContract id password =>
    obtain ⟨status, member, viewer, contract, seat, sees, seated, asked⟩ :=
      seat_of_requireStatus checked
    cases asked
    exact Grants.signContract sees (by simpa using member) seated
  | certifyContract id =>
    obtain ⟨⟨status, member, viewer, contract, sees⟩, rfl⟩ := asks_of_requireStatus checked
    cases List.mem_singleton.mp member
    exact Grants.certifyContract sees
  | broadcastFunding id =>
    obtain ⟨⟨status, member, viewer, contract, sees⟩, rfl⟩ := asks_of_requireStatus checked
    cases List.mem_singleton.mp member
    exact Grants.broadcastFunding sees
  | confirmFunding id =>
    obtain ⟨⟨status, member, viewer, contract, sees⟩, rfl⟩ := asks_of_requireStatus checked
    cases List.mem_singleton.mp member
    exact Grants.confirmFunding sees
  | declineContract id =>
    obtain ⟨⟨status, member, viewer, contract, sees⟩, rfl⟩ := asks_of_requireStatus checked
    cases List.mem_singleton.mp member
    exact Grants.declineContract sees
  | dismissContract id =>
    obtain ⟨contract, stored, asked⟩ := bind_eq_ok.mp checked
    cases asked
    exact Grants.dismissContract (Ledger.theContract_eq_ok.mp stored)
  | proposePayout id amountOne amountTwo =>
    obtain ⟨_, required, checked⟩ := bind_eq_ok.mp checked
    obtain ⟨status, member, viewer, contract, sees⟩ := Ledger.requireStatus_eq_ok.mp required
    cases List.mem_singleton.mp member
    obtain ⟨stored, found, checked⟩ := bind_eq_ok.mp checked
    cases sees.stored.symm.trans (Ledger.theContract_eq_ok.mp found)
    split at checked
    · cases checked
    · rename_i fits
      dsimp only at checked
      split at checked
      · cases checked
      · rename_i total
        cases checked
        exact Grants.proposePayout sees (split_of_sum fits total)
  | signPayout id credential =>
    obtain ⟨status, member, viewer, contract, seat, sees, seated, asked⟩ :=
      seat_of_requireStatus checked
    have granted : Grants settings ledger (.signPayout id credential)
        (signatureRequest id credential) (.patchPayout id (signatureBy seat credential)) :=
      .signPayout sees (by simpa using member) seated
    cases credential with
    | password password =>
      cases asked
      cases seat <;> exact granted
    | token token =>
      cases asked
      exact granted
  | certifyPayout id =>
    obtain ⟨_, required, checked⟩ := bind_eq_ok.mp checked
    obtain ⟨status, member, viewer, contract, sees⟩ := Ledger.requireStatus_eq_ok.mp required
    cases List.mem_singleton.mp member
    obtain ⟨payout, stored, checked⟩ := bind_eq_ok.mp checked
    split at checked
    · cases checked
    · rename_i token
      cases checked
      exact Grants.certifyPayout sees (Ledger.thePayout_eq_ok.mp stored) (by simpa using token)
  | denyPayout id =>
    obtain ⟨⟨status, member, viewer, contract, sees⟩, rfl⟩ := asks_of_requireStatus checked
    exact Grants.denyPayout sees (by simpa using member)
  | broadcastPayout id =>
    obtain ⟨⟨status, member, viewer, contract, sees⟩, rfl⟩ := asks_of_requireStatus checked
    cases List.mem_singleton.mp member
    exact Grants.broadcastPayout sees
  | confirmPayout id =>
    obtain ⟨⟨status, member, viewer, contract, sees⟩, rfl⟩ := asks_of_requireStatus checked
    cases List.mem_singleton.mp member
    exact Grants.confirmPayout sees

end Operation

end ArbitratedEscrow
