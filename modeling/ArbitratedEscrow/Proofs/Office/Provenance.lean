import ArbitratedEscrow.Proofs.Office.Sound

/-!
# Where signatures come from

Every signature on a contract goes back to one operation of the run, and every
signature on a payout to one since the payout was proposed. It was given while
the player who holds the seat was selected, and on the split that the payout
still has.

Archives may be kept and offices restarted at any time. A run that loads an
archive at will is another matter: it forgets signatures and may collect them
again.
-/

namespace ArbitratedEscrow

namespace Contract

variable {contract : Contract} {viewer : PlayerId} {seat : Seat}

theorem player_of_seatOf (seated : contract.seatOf viewer = some seat) :
    contract.player seat = viewer := by
  rw [seatOf] at seated
  split at seated
  · cases seated
    assumption
  · split at seated
    · cases seated
      assumption
    · cases seated

theorem Sound.player_eq_iff (sound : contract.Sound) (seated : contract.seatOf viewer = some seat)
    (held : Seat) : viewer = contract.player held ↔ held = seat := by
  constructor
  · rintro rfl
    exact Option.some.inj ((sound.seatOf_player held).symm.trans seated)
  · rintro rfl
    exact (player_of_seatOf seated).symm

theorem player_wholeSecond : contract.wholeSecond.player = contract.player := by
  funext seat
  cases seat <;> rfl

/-- A signature is added to those that are there. -/
theorem of_sign (held : Seat) :
    (contract.apply (.sign seat)).signatures.of held =
      (contract.signatures.of held || decide (held = seat)) := by
  cases seat <;> cases held <;> simp [apply, Patch.sign, Signatures.of]

end Contract

theorem Payout.of_sign {payout : Payout} {seat : Seat} (withToken : Option Bool) (held : Seat) :
    (payout.apply { Payout.Patch.sign seat with withToken }).signatures.of held =
      (payout.signatures.of held || decide (held = seat)) := by
  cases seat <;> cases held <;> simp [apply, Patch.sign, Signatures.of]

namespace Office

variable {settings : Settings} {id : ContractId}

def Entry.selected (entry : Entry) : Option PlayerId := entry.before.desk.ledger.selected

/-- Whether an entry is a signature by a player; `signed` tells what an operation signs. -/
def Entry.signs (signed : Operation → Option ContractId) (id : ContractId) (player : PlayerId)
    (entry : Entry) : Bool :=
  match entry.done? with
  | some operation => signed operation = some id ∧ entry.selected = some player
  | none => false

/-- The signatures of a contract are those that a history tells of, each given once. -/
structure ContractSigned (entries : List Entry) (id : ContractId) (contract : Contract) :
    Prop where
  players : ∀ seat,
    entries.countP (Entry.signs Operation.signedContract id (contract.player seat)) =
      (contract.signatures.of seat).toNat
  arbiter : contract.signatures.arbiter = true ↔
    ∃ entry ∈ entries, entry.done? = some (.certifyContract id)

/--
The signatures of a payout are those that the history since it was proposed
tells of, each given once, and by players who had its split before them.
-/
structure PayoutSigned (since : List Entry) (id : ContractId) (parties : Seat → PlayerId)
    (payout : Payout) : Prop where
  latest : ∀ entry ∈ since, ∀ amountOne amountTwo,
    entry.done? ≠ some (.proposePayout id amountOne amountTwo)
  players : ∀ seat, since.countP (Entry.signs Operation.signedPayout id (parties seat)) =
    (payout.signatures.of seat).toNat
  split : ∀ entry ∈ since, ∀ credential, entry.done? = some (.signPayout id credential) →
    ∃ met, entry.before.desk.ledger.payout? id = some met ∧
      met.amountOne = payout.amountOne ∧ met.amountTwo = payout.amountTwo
  token : payout.withToken = true ↔ ∃ entry ∈ since, ∃ seat token,
    entry.done? = some (.signPayout id (.token token)) ∧ entry.selected = some (parties seat)
  arbiter : payout.signatures.arbiter = true ↔
    ∃ entry ∈ since, entry.done? = some (.certifyPayout id)

/-- A payout was proposed as it is, and signed since. -/
def PayoutTraced (entries : List Entry) (id : ContractId) (parties : Seat → PlayerId)
    (payout : Payout) : Prop :=
  ∃ earlier proposal since, entries = earlier ++ proposal :: since ∧
    proposal.done? = some (.proposePayout id payout.amountOne payout.amountTwo) ∧
    PayoutSigned since id parties payout

/-! ### One more entry -/

theorem countP_concat {α : Type} (p : α → Bool) (l : List α) (a : α) :
    (l ++ [a]).countP p = l.countP p + (p a).toNat := by
  rw [List.countP_append, List.countP_singleton]
  cases p a <;> rfl

theorem exists_mem_concat {α : Type} {p : α → Prop} {l : List α} {a : α} :
    (∃ b ∈ l ++ [a], p b) ↔ (∃ b ∈ l, p b) ∨ p a := by
  simp [or_and_right, exists_or]

variable {entries since : List Entry} {entry : Entry} {contract : Contract} {payout : Payout}
  {parties : Seat → PlayerId}

theorem ContractSigned.concat {patched : Contract} (signed : ContractSigned entries id contract)
    (same : patched.player = contract.player)
    (players : ∀ seat, (patched.signatures.of seat).toNat =
      (contract.signatures.of seat).toNat +
        (entry.signs Operation.signedContract id (contract.player seat)).toNat)
    (arbiter : patched.signatures.arbiter = true ↔
      contract.signatures.arbiter = true ∨ entry.done? = some (.certifyContract id)) :
    ContractSigned (entries ++ [entry]) id patched where
  players seat := by rw [countP_concat, same, signed.players, players]
  arbiter := by rw [exists_mem_concat, arbiter, signed.arbiter]

theorem PayoutSigned.concat {patched : Payout} (signed : PayoutSigned since id parties payout)
    (latest : ∀ amountOne amountTwo, entry.done? ≠ some (.proposePayout id amountOne amountTwo))
    (amounts : patched.amountOne = payout.amountOne ∧ patched.amountTwo = payout.amountTwo)
    (met : entry.before.desk.ledger.payout? id = some payout)
    (players : ∀ seat, (patched.signatures.of seat).toNat =
      (payout.signatures.of seat).toNat +
        (entry.signs Operation.signedPayout id (parties seat)).toNat)
    (token : patched.withToken = true ↔ payout.withToken = true ∨ ∃ seat token,
      entry.done? = some (.signPayout id (.token token)) ∧ entry.selected = some (parties seat))
    (arbiter : patched.signatures.arbiter = true ↔
      payout.signatures.arbiter = true ∨ entry.done? = some (.certifyPayout id)) :
    PayoutSigned (since ++ [entry]) id parties patched where
  latest := by
    intro other member
    rcases List.mem_append.mp member with member | member
    · exact signed.latest other member
    · cases List.mem_singleton.mp member
      exact latest
  players seat := by rw [countP_concat, signed.players, players]
  split := by
    intro other member credential done
    rw [amounts.1, amounts.2]
    rcases List.mem_append.mp member with member | member
    · exact signed.split other member credential done
    · cases List.mem_singleton.mp member
      exact ⟨payout, met, rfl, rfl⟩
  token := by rw [exists_mem_concat, token, signed.token]
  arbiter := by rw [exists_mem_concat, arbiter, signed.arbiter]

/-! ### Entries that leave a contract alone -/

theorem Entry.signs_eq_false {signed : Operation → Option ContractId}
    (apart : ∀ operation, entry.done? = some operation → signed operation ≠ some id)
    (player : PlayerId) : entry.signs signed id player = false := by
  rw [Entry.signs]
  split
  · rename_i operation done
    simp [apart operation done]
  · rfl

theorem Entry.signs_eq {signed : Operation → Option ContractId} {operation : Operation}
    {viewer : PlayerId} (done : entry.done? = some operation) (signs : signed operation = some id)
    (selected : entry.selected = some viewer) (player : PlayerId) :
    entry.signs signed id player = decide (viewer = player) := by
  simp [Entry.signs, done, signs, selected]

theorem Entry.unsigned_contract
    (apart : ∀ operation, entry.done? = some operation → operation.patchedContract ≠ some id)
    (player : PlayerId) : entry.signs Operation.signedContract id player = false :=
  Entry.signs_eq_false (fun operation done signed =>
    apart operation done (Operation.patchedContract_of_signed signed)) player

theorem Entry.unsigned_payout
    (apart : ∀ operation, entry.done? = some operation → operation.changedPayout ≠ some id)
    (player : PlayerId) : entry.signs Operation.signedPayout id player = false :=
  Entry.signs_eq_false (fun operation done signed =>
    apart operation done (Operation.changedPayout_of_signed signed)) player

theorem ContractSigned.left {again : Contract} (signed : ContractSigned entries id contract)
    (apart : ∀ operation, entry.done? = some operation → operation.patchedContract ≠ some id)
    (same : again.player = contract.player) (signatures : again.signatures = contract.signatures) :
    ContractSigned (entries ++ [entry]) id again := by
  refine signed.concat same (fun seat => ?_) ?_
  · rw [Entry.unsigned_contract apart, signatures]
    rfl
  · rw [signatures]
    exact (or_iff_left fun done => apart _ done rfl).symm

theorem PayoutTraced.left {again : Payout} (traced : PayoutTraced entries id parties payout)
    (apart : ∀ operation, entry.done? = some operation → operation.changedPayout ≠ some id)
    (met : entry.before.desk.ledger.payout? id = some payout)
    (amounts : again.amountOne = payout.amountOne ∧ again.amountTwo = payout.amountTwo)
    (signatures : again.signatures = payout.signatures)
    (token : again.withToken = payout.withToken) :
    PayoutTraced (entries ++ [entry]) id parties again := by
  obtain ⟨earlier, proposal, since, rfl, proposed, signed⟩ := traced
  refine ⟨earlier, proposal, since ++ [entry], by simp, ?_, ?_⟩
  · rw [amounts.1, amounts.2]
    exact proposed
  · refine signed.concat (fun _ _ done => apart _ done rfl) amounts met (fun seat => ?_) ?_ ?_
    · rw [Entry.unsigned_payout apart, signatures]
      rfl
    · rw [token]
      refine (or_iff_left ?_).symm
      rintro ⟨_, _, done, _⟩
      exact apart _ done rfl
    · rw [signatures]
      exact (or_iff_left fun done => apart _ done rfl).symm

/-! ### Entries that sign -/

theorem toNat_or {a b : Bool} (apart : b = true → a = false) :
    (a || b).toNat = a.toNat + b.toNat := by
  cases b with
  | false => cases a <;> rfl
  | true => rw [apart rfl]; rfl

theorem ContractSigned.patch {operation : Operation} {request : Wallet.Request}
    {patch : Contract.Patch} (signed : ContractSigned entries id contract)
    (sound : contract.Sound) (done : entry.done? = some operation)
    (grants : operation.Grants settings entry.before.desk.ledger request (.patchContract id patch))
    (stored : entry.before.desk.ledger.contract? id = some contract) :
    ContractSigned (entries ++ [entry]) id (contract.apply patch) := by
  refine signed.concat (contract.player_apply patch) (fun held => ?_) ?_
  · cases grants with
    | @signContract _ _ viewer _ _ seat sees allowed seated =>
      cases stored.symm.trans sees.stored
      have signs : entry.signs Operation.signedContract id (contract.player held) =
          decide (viewer = contract.player held) := Entry.signs_eq done rfl sees.selected _
      rw [Contract.of_sign, signs, decide_eq_decide.mpr (sound.player_eq_iff seated held)]
      refine toNat_or fun same => ?_
      rw [of_decide_eq_true same]
      exact (sees.unsigned_contract allowed seated).1
    | certifyContract | broadcastFunding | confirmFunding =>
      have unsigned : entry.signs Operation.signedContract id (contract.player held) = false :=
        Entry.signs_eq_false (fun other same => by cases done.symm.trans same; rintro ⟨⟩) _
      rw [unsigned]
      cases held <;> rfl
  · rw [done]
    cases grants with
    | @signContract _ _ _ _ _ seat => cases seat <;> simp [Contract.apply, Contract.Patch.sign]
    | certifyContract | broadcastFunding | confirmFunding => simp [Contract.apply]

theorem PayoutTraced.patch {operation : Operation} {request : Wallet.Request}
    {patch : Payout.Patch} (traced : PayoutTraced entries id contract.player payout)
    (sound : entry.before.desk.ledger.Sound) (done : entry.done? = some operation)
    (grants : operation.Grants settings entry.before.desk.ledger request (.patchPayout id patch))
    (stored : entry.before.desk.ledger.contract? id = some contract)
    (paid : entry.before.desk.ledger.payout? id = some payout) :
    PayoutTraced (entries ++ [entry]) id contract.player (payout.apply patch) := by
  obtain ⟨earlier, proposal, since, rfl, proposed, signed⟩ := traced
  refine ⟨earlier, proposal, since ++ [entry], by simp, proposed, ?_⟩
  refine signed.concat ?_ ⟨rfl, rfl⟩ paid (fun held => ?_) ?_ ?_
  · rw [done]
    cases grants <;> simp
  · cases grants with
    | @signPayout _ credential viewer _ _ seat sees allowed seated =>
      cases stored.symm.trans sees.stored
      have signs : entry.signs Operation.signedPayout id (contract.player held) =
          decide (viewer = contract.player held) := Entry.signs_eq done rfl sees.selected _
      rw [Operation.signatureBy, Payout.of_sign, signs,
        decide_eq_decide.mpr ((sound.contract stored).player_eq_iff seated held)]
      refine toNat_or fun same => ?_
      rw [of_decide_eq_true same]
      obtain ⟨_, found, same, _, free, _⟩ :=
        sees.unsigned_payout sound.wellFormed allowed seated
      cases paid.symm.trans same
      exact free
    | certifyPayout | broadcastPayout | confirmPayout =>
      have unsigned : entry.signs Operation.signedPayout id (contract.player held) = false :=
        Entry.signs_eq_false (fun other same => by cases done.symm.trans same; rintro ⟨⟩) _
      rw [unsigned]
      cases held <;> rfl
  · rw [done]
    cases grants with
    | @signPayout _ credential viewer _ _ seat sees allowed seated =>
      cases stored.symm.trans sees.stored
      have selected : entry.selected = some (contract.player seat) :=
        (Contract.player_of_seatOf seated).symm ▸ sees.selected
      cases credential with
      | password secret =>
        cases seat <;> simp [Payout.apply, Operation.signatureBy, Payout.Patch.sign,
          Credential.isToken]
      | token secret => exact iff_of_true rfl (Or.inr ⟨seat, secret, rfl, selected⟩)
    | certifyPayout | broadcastPayout | confirmPayout => simp [Payout.apply]
  · rw [done]
    cases grants with
    | @signPayout _ _ _ _ _ seat =>
      cases seat <;> simp [Payout.apply, Operation.signatureBy, Payout.Patch.sign]
    | certifyPayout | broadcastPayout | confirmPayout => simp [Payout.apply]

/-! ### Turns -/

structure Traced (entries : List Entry) (ledger : Ledger) : Prop where
  contract : ∀ {id contract}, ledger.contract? id = some contract →
    ContractSigned entries id contract
  payout : ∀ {id payout contract}, ledger.payout? id = some payout →
    ledger.contract? id = some contract → PayoutTraced entries id contract.player payout

theorem ContractSigned.blank (blank : contract.signatures = .blank)
    (unsigned : ∀ entry ∈ entries, ∀ operation, entry.done? = some operation →
      operation.patchedContract ≠ some id) : ContractSigned entries id contract where
  players seat := by
    have none_signs : entries.countP
        (Entry.signs Operation.signedContract id (contract.player seat)) = 0 := by
      refine List.countP_eq_zero.mpr fun entry member signs => ?_
      rw [Entry.unsigned_contract (unsigned entry member)] at signs
      cases signs
    rw [none_signs, blank]
    cases seat <;> rfl
  arbiter := by
    rw [blank]
    constructor
    · intro signed
      cases signed
    · rintro ⟨entry, member, done⟩
      exact False.elim (unsigned entry member _ done rfl)

theorem PayoutSigned.blank (amountOne amountTwo : Amount) (now : Instant) :
    PayoutSigned [] id parties (Payout.new id amountOne amountTwo now) where
  latest _ member := by cases member
  players seat := by cases seat <;> rfl
  split _ member := by cases member
  token := by simp [Payout.new]
  arbiter := by simp [Payout.new, Signatures.blank]

theorem Entry.apart_of_idle (idle : entry.done? = none) {part : Operation → Option ContractId}
    (operation : Operation) (done : entry.done? = some operation) : part operation ≠ some id := by
  rw [idle] at done
  cases done

theorem Traced.idle {ledger : Ledger} (traced : Traced entries ledger)
    (idle : entry.done? = none) (met : entry.before.desk.ledger = ledger) :
    Traced (entries ++ [entry]) ledger where
  contract stored := (traced.contract stored).left (Entry.apart_of_idle idle) rfl rfl
  payout paid stored :=
    (traced.payout paid stored).left (Entry.apart_of_idle idle) (met ▸ paid) ⟨rfl, rfl⟩ rfl rfl

theorem Traced.restart {ledger : Ledger} (traced : Traced entries ledger)
    (idle : entry.done? = none) (met : entry.before.desk.ledger = ledger) :
    Traced (entries ++ [entry]) ledger.wholeSeconds where
  contract {id found} stored := by
    rw [Ledger.contract?_wholeSeconds] at stored
    obtain ⟨contract, before, rfl⟩ := Option.map_eq_some_iff.mp stored
    exact (traced.contract before).left (Entry.apart_of_idle idle) Contract.player_wholeSecond rfl
  payout {id found parent} paid stored := by
    rw [Ledger.payout?_wholeSeconds] at paid
    rw [Ledger.contract?_wholeSeconds] at stored
    obtain ⟨payout, before, rfl⟩ := Option.map_eq_some_iff.mp paid
    obtain ⟨contract, beneath, rfl⟩ := Option.map_eq_some_iff.mp stored
    rw [Contract.player_wholeSecond]
    exact (traced.payout before beneath).left (Entry.apart_of_idle idle) (met ▸ before) ⟨rfl, rfl⟩
      rfl rfl

theorem Traced.move {operation : Operation} {now : Instant} {answer : Answer} {desk : Desk}
    (traced : Traced entries entry.before.desk.ledger) (sound : entry.before.desk.ledger.Sound)
    (done : entry.done? = some operation)
    (move : operation.Move settings now entry.before.desk answer desk)
    (unstored : ∀ {id}, operation.filed? answer = some id →
      entry.before.desk.ledger.contract? id = none)
    (unsigned : ∀ {id}, operation.filed? answer = some id → ∀ earlier ∈ entries,
      ∀ operation, earlier.done? = some operation → operation.patchedContract ≠ some id) :
    Traced (entries ++ [entry]) desk.ledger := by
  constructor
  · intro id contract stored
    cases Operation.onContract_of_move sound.wellFormed move stored with
    | left before apart =>
      refine (traced.contract before).left (fun other same => ?_) rfl rfl
      cases done.symm.trans same
      exact apart
    | patched grants before =>
      exact (traced.contract before).patch (sound.contract before) done grants before
    | filed files =>
      refine ContractSigned.blank rfl fun other member => ?_
      rcases List.mem_append.mp member with member | member
      · exact unsigned files other member
      · cases List.mem_singleton.mp member
        intro again same
        cases done.symm.trans same
        rw [Operation.patchedContract_of_filed files]
        rintro ⟨⟩
  · intro id payout contract paid stored
    have on := Operation.onContract_of_move sound.wellFormed move stored
    cases Operation.onPayout_of_move sound.wellFormed move paid with
    | left before apart =>
      -- the seats are told by the contract after the move, which may have been patched
      obtain ⟨parent, beneath⟩ := sound.wellFormed.payout_backed before
      rw [on.player beneath unstored]
      refine (traced.payout before beneath).left (fun other same => ?_) before ⟨rfl, rfl⟩ rfl rfl
      cases done.symm.trans same
      exact apart
    | patched grants before =>
      obtain ⟨parent, beneath⟩ := sound.wellFormed.payout_backed before
      rw [on.player beneath unstored]
      exact (traced.payout before beneath).patch sound done grants beneath before
    | filed proposes =>
      exact ⟨entries, entry, [], rfl, done.trans (congrArg some proposes), .blank _ _ _⟩

theorem Entry.done?_eq_none {fault : EscrowError} (failed : entry.result = .error fault) :
    entry.done? = none := by
  rw [Entry.done?, failed]
  split
  · rename_i succeeded
    cases succeeded
  · rfl

variable {office next : Office} {event : Event} {result : Except EscrowError Answer}

theorem Traced.turn (traced : Traced entries office.desk.ledger) (sound : office.desk.ledger.Sound)
    (turn : Turn settings office event result next) (linear : event.isLoad = false)
    (unstored : ∀ {id}, Entry.filed? ⟨office, event, result⟩ = some id →
      office.desk.ledger.contract? id = none)
    (unsigned : ∀ {id}, Entry.filed? ⟨office, event, result⟩ = some id → ∀ earlier ∈ entries,
      ∀ operation, earlier.done? = some operation → operation.patchedContract ≠ some id) :
    Traced (entries ++ [⟨office, event, result⟩]) next.desk.ledger := by
  cases turn with
  | failed => exact traced.idle (Entry.done?_eq_none rfl) rfl
  | moved move => exact Traced.move traced sound rfl move unstored unsigned
  | kept => exact traced.idle rfl rfl
  | loaded => cases linear
  | restarted => exact traced.restart rfl rfl

/-! ### Runs -/

theorem Turn.move_of_done {operation : Operation} (turn : Turn settings office event result next)
    (done : Entry.done? ⟨office, event, result⟩ = some operation) :
    ∃ now answer desk, operation.Move settings now office.desk answer desk := by
  cases turn with
  | failed =>
    rw [Entry.done?_eq_none rfl] at done
    cases done
  | moved move =>
    cases done
    exact ⟨_, _, _, move⟩
  | kept | loaded | restarted => cases done

variable (settings) (ids : IdSource) (events : List Event)

/-- Only contracts that were filed are patched. -/
theorem filed_of_patched (entry : Entry) (member : entry ∈ history settings (opening ids) events)
    (operation : Operation) (done : entry.done? = some operation)
    (patched : operation.patchedContract = some id) :
    id ∈ filed (history settings (opening ids) events) := by
  induction events using List.reverseRecOn with
  | nil => cases member
  | append_singleton events event ih =>
    rw [history_concat] at member ⊢
    rw [filed_concat]
    refine List.mem_append_left _ ?_
    rcases List.mem_append.mp member with member | member
    · exact ih member
    · cases List.mem_singleton.mp member
      obtain ⟨now, answer, desk, move⟩ := (turn_after settings ids events event).move_of_done done
      obtain ⟨contract, stored⟩ := move.stored_of_patched patched
      exact (holds_filed settings ids events).here id contract stored

theorem traced_after (linear : ∀ event ∈ events, event.isLoad = false)
    (fresh : Fresh (history settings (opening ids) events)) :
    Traced (history settings (opening ids) events) (ledgerAfter settings ids events) := by
  induction events using List.reverseRecOn with
  | nil =>
    constructor
    · intro id contract stored
      cases stored
    · intro id payout contract paid
      cases paid
  | append_singleton events event ih =>
    have before := fresh_of_concat fresh
    have traced := ih (fun other member => linear other (List.mem_append_left _ member)) before
    rw [ledgerAfter, after_concat, history_concat]
    refine Traced.turn traced (holds_sound settings ids events before).here
      (turn_after settings ids events event) (linear event (by simp))
      (unstored_of_fresh fresh) ?_
    intro id files earlier member operation done patched
    exact unfiled_of_fresh fresh files
      (filed_of_patched settings ids events earlier member operation done patched)

/--
Signatures are not forged. A run that loads no archive at will tells of each
signature on a contract, once and by the player it is for, and of each signature
on a payout, once and since the payout was proposed as it is.
-/
theorem signatures_traced (linear : ∀ event ∈ events, event.isLoad = false)
    (fresh : Fresh (history settings (opening ids) events)) {id : ContractId} {contract : Contract}
    (stored : (ledgerAfter settings ids events).contract? id = some contract) :
    ContractSigned (history settings (opening ids) events) id contract ∧
      ∀ payout, (ledgerAfter settings ids events).payout? id = some payout →
        PayoutTraced (history settings (opening ids) events) id contract.player payout := by
  have traced := traced_after settings ids events linear fresh
  exact ⟨traced.contract stored, fun payout paid => traced.payout paid stored⟩

theorem signatures_traced_wager :
    ∃ contract payout,
      (ledgerAfter (.forNetwork .regtest) wagerIds wager).contract? wagerId = some contract ∧
        contract.signatures = ⟨true, true, true⟩ ∧
        ContractSigned (history (.forNetwork .regtest) (opening wagerIds) wager) wagerId contract ∧
        payout.signatures = ⟨false, true, true⟩ ∧
        PayoutTraced (history (.forNetwork .regtest) (opening wagerIds) wager) wagerId
          contract.player payout := by
  have linear : ∀ event ∈ wager, event.isLoad = false := by decide
  obtain ⟨signed, payouts⟩ :=
    signatures_traced (.forNetwork .regtest) wagerIds wager linear fresh_wager stored_wager.1
  exact ⟨_, _, stored_wager.1, rfl, signed, rfl, payouts _ stored_wager.2⟩

end Office

end ArbitratedEscrow
