import ArbitratedEscrow.Proofs.Operation.Move

/-!
# Where contracts and payouts come from

A contract that is in the ledger after a move was there before, or is a patched
one that was there, or has just been filed; likewise for payouts. Moves with
other contracts are not told apart: they leave this one as it is.
-/

namespace ArbitratedEscrow

theorem Contract.player_apply (contract : Contract) (patch : Contract.Patch) :
    (contract.apply patch).player = contract.player := by
  funext seat
  cases seat <;> rfl

namespace Operation

def patchedContract : Operation → Option ContractId
  | signContract id _ | certifyContract id | broadcastFunding id | confirmFunding id => some id
  | _ => none

def changedPayout : Operation → Option ContractId
  | proposePayout id _ _ | signPayout id _ | certifyPayout id | broadcastPayout id
  | confirmPayout id => some id
  | _ => none

def signedContract : Operation → Option ContractId
  | signContract id _ => some id
  | _ => none

def signedPayout : Operation → Option ContractId
  | signPayout id _ => some id
  | _ => none

def filed? : Operation → Answer → Option ContractId
  | newContract .., .contract made => some made.id
  | _, _ => none

variable {settings : Settings} {now : Instant} {desk after : Desk} {operation : Operation}
  {answer : Answer} {request : Wallet.Request} {id : ContractId}

theorem patchedContract_of_grants {ledger : Ledger} {patch : Contract.Patch}
    (grants : Grants settings ledger operation request (.patchContract id patch)) :
    operation.patchedContract = some id := by
  cases grants <;> rfl

theorem changedPayout_of_grants {ledger : Ledger} {patch : Payout.Patch}
    (grants : Grants settings ledger operation request (.patchPayout id patch)) :
    operation.changedPayout = some id := by
  cases grants <;> rfl

theorem patchedContract_of_signed (signed : operation.signedContract = some id) :
    operation.patchedContract = some id := by
  cases operation <;> first | exact signed | cases signed

theorem changedPayout_of_signed (signed : operation.signedPayout = some id) :
    operation.changedPayout = some id := by
  cases operation <;> first | exact signed | cases signed

theorem untouched_of_looks (looks : operation.looks = true) :
    operation.patchedContract = none ∧ operation.changedPayout = none := by
  cases operation <;> first | exact ⟨rfl, rfl⟩ | cases looks

theorem patchedContract_of_filed (files : operation.filed? answer = some id) :
    operation.patchedContract = none := by
  cases operation <;> first | rfl | cases files

/-- How a contract in the ledger after a move has come there. -/
inductive OnContract (settings : Settings) (now : Instant) (desk : Desk) (operation : Operation)
    (answer : Answer) (id : ContractId) : Contract → Prop where
  | left {contract : Contract} (stored : desk.ledger.contract? id = some contract)
      (apart : operation.patchedContract ≠ some id) :
      OnContract settings now desk operation answer id contract
  | patched {contract : Contract} {patch : Contract.Patch} {request : Wallet.Request}
      (grants : Grants settings desk.ledger operation request (.patchContract id patch))
      (stored : desk.ledger.contract? id = some contract) :
      OnContract settings now desk operation answer id (contract.apply patch)
  | filed {playerOne playerTwo : PlayerId} {amount : Amount} {description : String}
      (files : operation.filed? answer = some id) :
      OnContract settings now desk operation answer id
        (desk.file now playerOne playerTwo amount description).1

inductive OnPayout (settings : Settings) (now : Instant) (desk : Desk) (operation : Operation)
    (id : ContractId) : Payout → Prop where
  | left {payout : Payout} (stored : desk.ledger.payout? id = some payout)
      (apart : operation.changedPayout ≠ some id) :
      OnPayout settings now desk operation id payout
  | patched {payout : Payout} {patch : Payout.Patch} {request : Wallet.Request}
      (grants : Grants settings desk.ledger operation request (.patchPayout id patch))
      (stored : desk.ledger.payout? id = some payout) :
      OnPayout settings now desk operation id (payout.apply patch)
  | filed {amountOne amountTwo : Amount}
      (proposes : operation = .proposePayout id amountOne amountTwo) :
      OnPayout settings now desk operation id (Payout.new id amountOne amountTwo now)

/-- The parties of a contract stay the same, unless another one is filed in its place. -/
theorem OnContract.player {contract before : Contract}
    (on : OnContract settings now desk operation answer id contract)
    (stored : desk.ledger.contract? id = some before)
    (unstored : operation.filed? answer = some id → desk.ledger.contract? id = none) :
    contract.player = before.player := by
  cases on with
  | left same _ =>
    cases same.symm.trans stored
    rfl
  | patched _ same =>
    cases same.symm.trans stored
    exact before.player_apply _
  | filed files =>
    rw [unstored files] at stored
    cases stored

theorem onContract_of_move (wellFormed : desk.ledger.WellFormed) {contract : Contract}
    (move : Move settings now desk operation answer after)
    (stored : after.ledger.contract? id = some contract) :
    OnContract settings now desk operation answer id contract := by
  cases move with
  | settle settles =>
    cases settles with
    | look looks => exact .left stored (by rw [(untouched_of_looks looks).1]; rintro ⟨⟩)
    | select _ | known _ => exact .left stored (by rintro ⟨⟩)
  | claim _ | register _ | add _ | removePlayer _ => exact .left stored (by rintro ⟨⟩)
  | file =>
    rw [Desk.file, Ledger.contract?_addContract] at stored
    split at stored
    · rename_i same
      cases stored
      exact .filed (congrArg some same)
    · exact .left stored (by rintro ⟨⟩)
  | patchContract grants before =>
    rw [Desk.withLedger, Ledger.contract?_addContract] at stored
    have keyed := wellFormed.contract_keyed before
    split at stored
    · rename_i same
      cases stored
      cases keyed.symm.trans same
      exact .patched grants before
    · rename_i different
      refine .left stored fun patched => different ?_
      have same := (patchedContract_of_grants grants).symm.trans patched
      exact keyed.trans (Option.some.inj same)
  | removeContract grants _ =>
    rw [Desk.withLedger, Ledger.contract?_removeContract] at stored
    split at stored
    · cases stored
    · exact .left stored (by cases grants <;> rintro ⟨⟩)
  | filePayout _ _ => exact .left stored (by rintro ⟨⟩)
  | patchPayout grants _ | removePayout grants =>
    exact .left stored (by cases grants <;> rintro ⟨⟩)

/-- Only a contract that is there is patched. -/
theorem Move.stored_of_patched (move : Move settings now desk operation answer after)
    (patched : operation.patchedContract = some id) :
    ∃ contract, desk.ledger.contract? id = some contract := by
  cases move with
  | settle settles =>
    cases settles with
    | look looks =>
      rw [(untouched_of_looks looks).1] at patched
      cases patched
    | select _ | known _ => cases patched
  | claim | register | add | removePlayer | file | filePayout => cases patched
  | patchContract grants stored =>
    cases (patchedContract_of_grants grants).symm.trans patched
    exact ⟨_, stored⟩
  | removeContract grants _ | patchPayout grants _ | removePayout grants =>
    cases grants <;> cases patched

theorem onPayout_of_move (wellFormed : desk.ledger.WellFormed) {payout : Payout}
    (move : Move settings now desk operation answer after)
    (stored : after.ledger.payout? id = some payout) :
    OnPayout settings now desk operation id payout := by
  cases move with
  | settle settles =>
    cases settles with
    | look looks => exact .left stored (by rw [(untouched_of_looks looks).2]; rintro ⟨⟩)
    | select _ | known _ => exact .left stored (by rintro ⟨⟩)
  | claim _ | register _ | add _ | removePlayer _ | file =>
    exact .left stored (by rintro ⟨⟩)
  | patchContract grants _ => exact .left stored (by cases grants <;> rintro ⟨⟩)
  | removeContract grants _ =>
    rw [Desk.withLedger, Ledger.payout?_removeContract] at stored
    split at stored
    · cases stored
    · exact .left stored (by cases grants <;> rintro ⟨⟩)
  | filePayout _ _ =>
    rw [Desk.withLedger, Ledger.payout?_withPayout] at stored
    split at stored
    · rename_i same
      cases stored
      cases same
      exact .filed rfl
    · rename_i different
      refine .left stored fun changed => different ?_
      exact Option.some.inj changed
  | patchPayout grants before =>
    rw [Desk.withLedger, Ledger.payout?_withPayout] at stored
    have keyed := wellFormed.payout_keyed before
    split at stored
    · rename_i same
      cases stored
      cases keyed.symm.trans same
      exact .patched grants before
    · rename_i different
      refine .left stored fun changed => different ?_
      have same := (changedPayout_of_grants grants).symm.trans changed
      exact keyed.trans (Option.some.inj same)
  | removePayout grants =>
    rw [Desk.withLedger, Ledger.payout?_removePayout] at stored
    split at stored
    · cases stored
    · exact .left stored (by cases grants; rintro ⟨⟩)

end Operation

end ArbitratedEscrow
