import ArbitratedEscrow.Proofs.Lifecycle.Progress
import ArbitratedEscrow.Proofs.Operation.Effect

/-!
# Steps forward

`Operation.Advances` tells what a step that furthers a contract makes of a
ledger: it gives one signature that was missing, or takes one transaction to its
next status, in one record. Guards see to it that the field which the patch
overwrites has the value before (`Operation.advances_of_move`); whatever else
happens, records at most come further (`OnContract.onward`, `OnPayout.onward`).
-/

namespace ArbitratedEscrow

/-- How far a contract and its payout have come in a ledger. -/
def Ledger.progress (ledger : Ledger) (id : ContractId) : Nat :=
  (ledger.contract? id).elim 0 Contract.progress + (ledger.payout? id).elim 0 Payout.progress

theorem Ledger.progress_le (ledger : Ledger) (id : ContractId) : ledger.progress id ≤ 11 := by
  have contract : (ledger.contract? id).elim 0 Contract.progress ≤ 5 := by
    cases ledger.contract? id with
    | none => exact Nat.zero_le 5
    | some contract => exact contract.progress_le
  have payout : (ledger.payout? id).elim 0 Payout.progress ≤ 6 := by
    cases ledger.payout? id with
    | none => exact Nat.zero_le 6
    | some payout => exact payout.progress_le
  exact Nat.add_le_add contract payout

theorem Ledger.progress_addContract {ledger : Ledger} {id : ContractId} {contract : Contract}
    (keyed : contract.id = id) : (ledger.addContract contract).progress id =
      contract.progress + (ledger.payout? id).elim 0 Payout.progress := by
  have added := contract?_addContract ledger contract id
  rw [if_pos keyed] at added
  rw [progress, added]
  rfl

theorem Ledger.progress_withPayout {ledger : Ledger} {id : ContractId} {payout : Payout}
    (keyed : payout.contract = id) : (ledger.withPayout payout).progress id =
      (ledger.contract? id).elim 0 Contract.progress + payout.progress := by
  have added := payout?_withPayout ledger payout id
  rw [if_pos keyed] at added
  rw [progress, added]
  rfl

namespace Operation

/-- The contract that an operation takes a step further, by itself or by its payout. -/
def furthers (operation : Operation) : Option ContractId :=
  operation.patchedContract.or operation.changedPayout

def proposes : Operation → Bool
  | proposePayout .. => true
  | _ => false

/-- What a step makes of a contract while a player is selected. -/
inductive AdvancesContract (viewer : PlayerId) (contract : Contract) :
    Operation → Contract → Prop where
  | sign {id : ContractId} {password : Secret} {seat : Seat}
      (seated : contract.seatOf viewer = some seat)
      (unsigned : contract.signatures.of seat = false) :
      AdvancesContract viewer contract (.signContract id password)
        { contract with signatures := contract.signatures.add seat }
  | certify {id : ContractId} (unsigned : contract.signatures.arbiter = false) :
      AdvancesContract viewer contract (.certifyContract id)
        { contract with signatures := contract.signatures.certify }
  | broadcast {id : ContractId} (inside : contract.funding = .unbroadcast) :
      AdvancesContract viewer contract (.broadcastFunding id)
        { contract with funding := .broadcast }
  | confirm {id : ContractId} (out : contract.funding = .broadcast) :
      AdvancesContract viewer contract (.confirmFunding id)
        { contract with funding := .confirmed }

inductive AdvancesPayout (viewer : PlayerId) (contract : Contract) (payout : Payout) :
    Operation → Payout → Prop where
  | sign {id : ContractId} {credential : Credential} {seat : Seat}
      (seated : contract.seatOf viewer = some seat)
      (unsigned : payout.signatures.of seat = false) :
      AdvancesPayout viewer contract payout (.signPayout id credential)
        { payout with
          signatures := payout.signatures.add seat
          withToken := payout.withToken || credential.isToken }
  | certify {id : ContractId} (unsigned : payout.signatures.arbiter = false) :
      AdvancesPayout viewer contract payout (.certifyPayout id)
        { payout with signatures := payout.signatures.certify }
  | broadcast {id : ContractId} (inside : payout.transaction = .unbroadcast) :
      AdvancesPayout viewer contract payout (.broadcastPayout id)
        { payout with transaction := .broadcast }
  | confirm {id : ContractId} (out : payout.transaction = .broadcast) :
      AdvancesPayout viewer contract payout (.confirmPayout id)
        { payout with transaction := .confirmed }

/--
What a step makes of a ledger: the contract comes further, or its payout, and
nothing else. The first step of a payout is to be proposed where there is none.
-/
inductive Advances (before : Ledger) (id : ContractId) : Operation → Ledger → Prop where
  | contract {operation : Operation} {viewer : PlayerId} {contract later : Contract}
      (selected : before.selected = some viewer) (stored : before.contract? id = some contract)
      (keyed : contract.id = id) (advances : AdvancesContract viewer contract operation later) :
      Advances before id operation (before.addContract later)
  | payout {operation : Operation} {viewer : PlayerId} {contract : Contract}
      {payout later : Payout} (selected : before.selected = some viewer)
      (backed : before.contract? id = some contract) (stored : before.payout? id = some payout)
      (keyed : payout.contract = id)
      (advances : AdvancesPayout viewer contract payout operation later) :
      Advances before id operation (before.withPayout later)
  | propose {amountOne amountTwo : Amount} {now : Instant} {contract : Contract}
      (backed : before.contract? id = some contract) (unpaid : before.payout? id = none) :
      Advances before id (.proposePayout id amountOne amountTwo)
        (before.withPayout (Payout.new id amountOne amountTwo now))

variable {operation : Operation} {viewer : PlayerId} {contract : Contract} {payout : Payout}
  {id : ContractId}

theorem AdvancesContract.onward {later : Contract}
    (advances : AdvancesContract viewer contract operation later) : contract.Onward later := by
  cases advances with
  | sign _ _ => exact { contract.onward_refl with signatures := Signatures.within_add _ _ }
  | certify _ => exact { contract.onward_refl with signatures := Signatures.within_certify _ }
  | broadcast inside =>
    exact { contract.onward_refl with funding := Or.inr (by rw [inside]; rfl) }
  | confirm out => exact { contract.onward_refl with funding := Or.inr (by rw [out]; rfl) }

theorem AdvancesContract.progress {later : Contract}
    (advances : AdvancesContract viewer contract operation later) :
    later.progress = contract.progress + 1 := by
  cases advances with
  | sign _ unsigned =>
    simp only [Contract.progress, Signatures.count_add unsigned]
    omega
  | certify unsigned =>
    simp only [Contract.progress, Signatures.count_certify unsigned]
    omega
  | broadcast inside => simp only [Contract.progress, inside, TxStatus.rank]
  | confirm out => simp only [Contract.progress, out, TxStatus.rank]

theorem AdvancesPayout.onward {later : Payout}
    (advances : AdvancesPayout viewer contract payout operation later) : payout.Onward later := by
  cases advances with
  | sign _ _ =>
    exact { payout.onward_refl with
      signatures := Signatures.within_add _ _
      withToken := fun token => by rw [token]; rfl }
  | certify _ => exact { payout.onward_refl with signatures := Signatures.within_certify _ }
  | broadcast inside =>
    exact { payout.onward_refl with transaction := Or.inr (by rw [inside]; rfl) }
  | confirm out => exact { payout.onward_refl with transaction := Or.inr (by rw [out]; rfl) }

theorem AdvancesPayout.progress {later : Payout}
    (advances : AdvancesPayout viewer contract payout operation later) :
    later.progress = payout.progress + 1 := by
  cases advances with
  | sign _ unsigned =>
    simp only [Payout.progress, Signatures.count_add unsigned]
    omega
  | certify unsigned =>
    simp only [Payout.progress, Signatures.count_certify unsigned]
    omega
  | broadcast inside => simp only [Payout.progress, inside, TxStatus.rank]
  | confirm out => simp only [Payout.progress, out, TxStatus.rank]

namespace Advances

variable {before later : Ledger}

theorem progress (advances : Advances before id operation later) :
    later.progress id = before.progress id + 1 := by
  cases advances with
  | contract _ stored keyed advances =>
    rw [Ledger.progress_addContract (advances.onward.id.trans keyed), Ledger.progress, stored,
      Option.elim_some, advances.progress]
    omega
  | payout _ _ stored keyed advances =>
    rw [Ledger.progress_withPayout (advances.onward.contract.trans keyed), Ledger.progress, stored,
      Option.elim_some, advances.progress]
    omega
  | propose _ unpaid =>
    refine (Ledger.progress_withPayout (by rfl)).trans ?_
    rw [Ledger.progress, unpaid]
    rfl

/-- Players are left alone. -/
theorem players (advances : Advances before id operation later) :
    later.players = before.players := by
  cases advances <;> rfl

/-- The contract is still there. -/
theorem onward (advances : Advances before id operation later) {contract : Contract}
    (stored : before.contract? id = some contract) :
    ∃ found, later.contract? id = some found ∧ contract.Onward found := by
  cases advances with
  | @contract _ _ _ further _ same keyed advances =>
    cases same.symm.trans stored
    have added := Ledger.contract?_addContract before further id
    rw [if_pos (advances.onward.id.trans keyed)] at added
    exact ⟨further, added, advances.onward⟩
  | payout | propose => exact ⟨contract, stored, contract.onward_refl⟩

end Advances

/-! ### Patches are steps -/

variable {settings : Settings} {ledger : Ledger} {request : Wallet.Request}

theorem advancesContract_of_grants {patch : Contract.Patch}
    (grants : Grants settings ledger operation request (.patchContract id patch))
    (stored : ledger.contract? id = some contract) :
    ∃ viewer, ledger.selected = some viewer ∧
      AdvancesContract viewer contract operation (contract.apply patch) := by
  cases grants with
  | @signContract _ _ _ _ _ seat sees allowed seated =>
    cases stored.symm.trans sees.stored
    refine ⟨_, sees.selected, ?_⟩
    have unsigned := (sees.unsigned_contract allowed seated).1
    cases seat <;> exact .sign seated unsigned
  | certifyContract sees =>
    cases stored.symm.trans sees.stored
    have players : contract.signatures = ⟨true, true, false⟩ := sees.shown
    exact ⟨_, sees.selected, .certify (congrArg Signatures.arbiter players)⟩
  | broadcastFunding sees =>
    cases stored.symm.trans sees.stored
    exact ⟨_, sees.selected, .broadcast sees.shown.2⟩
  | confirmFunding sees =>
    cases stored.symm.trans sees.stored
    exact ⟨_, sees.selected, .confirm sees.shown.2⟩

/-- A payout that a signature is granted for takes it, and notes a token. -/
theorem apply_signatureBy (seat : Seat) (credential : Credential) :
    payout.apply (signatureBy seat credential) =
      { payout with
        signatures := payout.signatures.add seat
        withToken := payout.withToken || credential.isToken } := by
  cases seat <;> cases token : credential.isToken <;>
    simp [signatureBy, Payout.apply, Payout.Patch.sign, Signatures.add, token]

theorem advancesPayout_of_grants (wellFormed : ledger.WellFormed) {patch : Payout.Patch}
    (grants : Grants settings ledger operation request (.patchPayout id patch))
    (stored : ledger.payout? id = some payout) :
    ∃ viewer contract, ledger.selected = some viewer ∧ ledger.contract? id = some contract ∧
      AdvancesPayout viewer contract payout operation (payout.apply patch) := by
  cases grants with
  | signPayout sees allowed seated =>
    obtain ⟨_, found, same, _, unsigned, _⟩ := sees.unsigned_payout wellFormed allowed seated
    cases stored.symm.trans same
    refine ⟨_, _, sees.selected, sees.stored, ?_⟩
    rw [apply_signatureBy]
    exact .sign seated unsigned
  | certifyPayout sees =>
    obtain ⟨_, found, same, _, _, unsigned, _⟩ := sees.tokenSigned_payout wellFormed
    cases stored.symm.trans same
    exact ⟨_, _, sees.selected, sees.stored, .certify unsigned⟩
  | broadcastPayout sees =>
    obtain ⟨_, found, same, ⟨inside, _⟩, _⟩ := sees.payout wellFormed sees.shown
    cases stored.symm.trans same
    exact ⟨_, _, sees.selected, sees.stored, .broadcast inside⟩
  | confirmPayout sees =>
    obtain ⟨_, found, same, out, _⟩ := sees.payout wellFormed sees.shown
    cases stored.symm.trans same
    exact ⟨_, _, sees.selected, sees.stored, .confirm out⟩

/-! ### Moves -/

variable {now : Instant} {desk after : Desk} {answer : Answer}

theorem furthers_of_patchesContract {patch : Contract.Patch}
    (grants : Grants settings ledger operation request (.patchContract id patch)) :
    operation.furthers = some id := by
  rw [furthers, patchedContract_of_grants grants]
  rfl

theorem furthers_of_patchesPayout {patch : Payout.Patch}
    (grants : Grants settings ledger operation request (.patchPayout id patch)) :
    operation.furthers = some id := by
  cases grants <;> rfl

theorem advances_of_move (wellFormed : desk.ledger.WellFormed)
    (move : Move settings now desk operation answer after)
    (further : operation.furthers = some id)
    (unpaid : operation.proposes = true → desk.ledger.payout? id = none) :
    Advances desk.ledger id operation after.ledger := by
  cases move with
  | settle settles =>
    cases settles with
    | look looks =>
      rw [furthers, (untouched_of_looks looks).1, (untouched_of_looks looks).2] at further
      cases further
    | select _ | known _ => cases further
  | claim | register | add | removePlayer | file => cases further
  | patchContract grants stored =>
    cases (furthers_of_patchesContract grants).symm.trans further
    obtain ⟨_, selected, advances⟩ := advancesContract_of_grants grants stored
    exact .contract selected stored (wellFormed.contract_keyed stored) advances
  | removeContract grants _ | removePayout grants => cases grants <;> cases further
  | filePayout sees _ =>
    cases further
    exact .propose sees.stored (unpaid rfl)
  | patchPayout grants stored =>
    cases (furthers_of_patchesPayout grants).symm.trans further
    obtain ⟨_, _, selected, backed, advances⟩ := advancesPayout_of_grants wellFormed grants stored
    exact .payout selected backed stored (wellFormed.payout_keyed stored) advances

theorem OnContract.onward {before : Contract}
    (on : OnContract settings now desk operation answer id contract)
    (stored : desk.ledger.contract? id = some before)
    (unstored : operation.filed? answer = some id → desk.ledger.contract? id = none) :
    before.Onward contract := by
  cases on with
  | left same _ =>
    cases same.symm.trans stored
    exact Contract.onward_refl _
  | patched grants same =>
    cases same.symm.trans stored
    obtain ⟨_, _, advances⟩ := advancesContract_of_grants grants stored
    exact advances.onward
  | filed files =>
    rw [unstored files] at stored
    cases stored

theorem OnPayout.onward (wellFormed : desk.ledger.WellFormed) {before : Payout}
    (on : OnPayout settings now desk operation id payout)
    (stored : desk.ledger.payout? id = some before)
    (unproposed : ∀ one two, operation ≠ .proposePayout id one two) : before.Onward payout := by
  cases on with
  | left same _ =>
    cases same.symm.trans stored
    exact Payout.onward_refl _
  | patched grants same =>
    cases same.symm.trans stored
    obtain ⟨_, _, _, _, advances⟩ := advancesPayout_of_grants wellFormed grants stored
    exact advances.onward
  | filed proposes => exact False.elim (unproposed _ _ proposes)

end Operation

end ArbitratedEscrow
