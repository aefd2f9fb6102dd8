import ArbitratedEscrow.Proofs.Office.Basic
import Mathlib.Data.List.Induction

/-!
# Invariants of runs

What a run keeps up has to hold for the ledger on the desk and for whatever the
archive would give back. Two facts hold so for every run: ledgers are
well formed, and each contract in them was filed in the run.
-/

namespace ArbitratedEscrow.Office

/-- A property of the ledger on the desk and of every ledger that could be loaded. -/
structure Holds (property : Ledger → Prop) (office : Office) : Prop where
  here : property office.desk.ledger
  archived : ∀ {now ledger}, office.archive.load? now = some ledger → property ledger

variable {settings : Settings} {office next : Office} {event : Event}
  {result : Except EscrowError Answer} {property : Ledger → Prop}

theorem Holds.imp {other : Ledger → Prop} (holds : office.Holds property)
    (weaker : ∀ {ledger}, property ledger → other ledger) : office.Holds other :=
  ⟨weaker holds.here, fun loads => weaker (holds.archived loads)⟩

theorem holds_opening (ids : IdSource) (empty : property .empty) :
    (opening ids).Holds property := by
  refine ⟨empty, fun {now ledger} loads => ?_⟩
  have nothing : Archive.empty.load? now = some .empty := by
    simp [Archive.load?, Archive.playerList?, Archive.contractList?, Archive.payoutList?,
      Archive.selected?, Archive.empty, Ledger.restore, Directory.ofList, Ledger.empty]
  cases nothing.symm.trans loads
  exact empty

/-- What moves keep up and whole seconds do not harm outlives a turn. -/
theorem Holds.turn (holds : office.Holds property)
    (cut : ∀ {ledger}, property ledger → property ledger.wholeSeconds)
    (moves : ∀ {operation now outcome answer desk},
      event = .operation operation now outcome → result = .ok answer →
      operation.Move settings now office.desk answer desk → property desk.ledger)
    (turn : Turn settings office event result next) : next.Holds property := by
  cases turn with
  | failed => exact holds
  | moved move => exact ⟨moves rfl rfl move, holds.archived⟩
  | kept keeps =>
    refine ⟨holds.here, fun {now ledger} loads => ?_⟩
    cases (keeps now).symm.trans loads
    exact cut holds.here
  | loaded loads => exact ⟨holds.archived loads, holds.archived⟩
  | restarted keeps =>
    refine ⟨cut holds.here, fun {now ledger} loads => ?_⟩
    cases (keeps now).symm.trans loads
    exact cut holds.here

/-! ### Every run -/

variable (settings) (ids : IdSource) (events : List Event)

theorem holds_wellFormed :
    (after settings (opening ids) events).Holds Ledger.WellFormed := by
  induction events using List.reverseRecOn with
  | nil => exact holds_opening ids Ledger.wellFormed_empty
  | append_singleton events event ih =>
    rw [after_concat]
    exact ih.turn Ledger.WellFormed.wholeSeconds (fun _ _ move => move.wellFormed ih.here)
      (turn_step ih.here event)

/-- A run comes to its last turn in a well-formed ledger. -/
theorem turn_after (event : Event) :
    Turn settings (after settings (opening ids) events) event
      ((after settings (opening ids) events).step settings event).1
      ((after settings (opening ids) events).step settings event).2 :=
  turn_step (holds_wellFormed settings ids events).here event

theorem filterMap_concat {α : Type} (recorded : Entry → Option α) (history : List Entry)
    (entry : Entry) : (history ++ [entry]).filterMap recorded =
      history.filterMap recorded ++ (recorded entry).toList := by
  cases records : recorded entry <;> simp [records]

theorem filed_concat (history : List Entry) (entry : Entry) :
    filed (history ++ [entry]) = filed history ++ entry.filed?.toList :=
  filterMap_concat _ _ _

/--
What comes into ledgers by moves alone, each of which tells of it in the history,
is on the desk or in the archive only if the history of the run has told of it.
-/
theorem holds_recorded {α : Type} {stored : Ledger → α → Prop} {recorded : Entry → Option α}
    (empty : ∀ a, ¬ stored .empty a) (cut : ∀ {ledger a}, stored ledger.wholeSeconds a →
      stored ledger a)
    (moves : ∀ {office : Office} {operation now outcome answer desk a},
      office.desk.ledger.WellFormed → operation.Move settings now office.desk answer desk →
      stored desk.ledger a → stored office.desk.ledger a ∨
        recorded ⟨office, .operation operation now outcome, .ok answer⟩ = some a) :
    (after settings (opening ids) events).Holds fun ledger => ∀ a,
      stored ledger a → a ∈ (history settings (opening ids) events).filterMap recorded := by
  induction events using List.reverseRecOn with
  | nil => exact holds_opening ids fun a there => False.elim (empty a there)
  | append_singleton events event ih =>
    have wellFormed := (holds_wellFormed settings ids events).here
    rw [after_concat, history_concat, filterMap_concat]
    have known := ih.imp fun known a there =>
      List.mem_append_left (recorded ⟨after settings (opening ids) events, event,
        ((after settings (opening ids) events).step settings event).1⟩).toList (known a there)
    refine known.turn (fun known a there => known a (cut there)) ?_
      (turn_after settings ids events event)
    intro operation now outcome answer desk operated succeeded move a there
    rcases moves wellFormed move there with before | records
    · exact List.mem_append_left _ (ih.here a before)
    · rw [operated] at succeeded ⊢
      rw [succeeded]
      exact List.mem_append_right _ (Option.mem_toList.mpr records)

/-- Every contract on the desk or in the archive was filed in the run. -/
theorem holds_filed :
    (after settings (opening ids) events).Holds fun ledger => ∀ id contract,
      ledger.contract? id = some contract → id ∈ filed (history settings (opening ids) events) := by
  have holds : (after settings (opening ids) events).Holds fun ledger => ∀ id,
      (∃ contract, ledger.contract? id = some contract) →
        id ∈ filed (history settings (opening ids) events) := by
    refine holds_recorded settings ids events (fun id there => ?_) (fun there => ?_) ?_
    · obtain ⟨contract, stored⟩ := there
      cases stored
    · obtain ⟨contract, stored⟩ := there
      rw [Ledger.contract?_wholeSeconds] at stored
      obtain ⟨whole, stored, _⟩ := Option.map_eq_some_iff.mp stored
      exact ⟨whole, stored⟩
    · rintro office operation now outcome answer desk id wellFormed move ⟨contract, stored⟩
      cases Operation.onContract_of_move wellFormed move stored with
      | left before | patched _ before => exact .inl ⟨_, before⟩
      | filed files => exact .inr files
  exact holds.imp fun known id contract stored => known id ⟨contract, stored⟩

variable {settings ids events}

theorem Fresh.concat {history : List Entry} {entry : Entry} (fresh : Fresh (history ++ [entry])) :
    Fresh history ∧ ∀ id, entry.filed? = some id → id ∉ filed history := by
  rw [Fresh, filed_concat] at fresh
  obtain ⟨first, _, apart⟩ := List.nodup_append.mp fresh
  refine ⟨first, fun id files member => ?_⟩
  exact apart id member id (Option.mem_toList.mpr files) rfl

theorem fresh_of_concat (fresh : Fresh (history settings office (events ++ [event]))) :
    Fresh (history settings office events) := by
  rw [history_concat] at fresh
  exact fresh.concat.1

theorem unfiled_of_fresh
    (fresh : Fresh (history settings office (events ++ [event]))) {id : ContractId}
    (files : Entry.filed? ⟨after settings office events, event,
      ((after settings office events).step settings event).1⟩ = some id) :
    id ∉ filed (history settings office events) := by
  rw [history_concat] at fresh
  exact fresh.concat.2 id files

/-- A contract that is filed in a fresh run does not replace another one. -/
theorem unstored_of_fresh
    (fresh : Fresh (history settings (opening ids) (events ++ [event]))) {id : ContractId}
    (files : Entry.filed? ⟨after settings (opening ids) events, event,
      ((after settings (opening ids) events).step settings event).1⟩ = some id) :
    (after settings (opening ids) events).desk.ledger.contract? id = none := by
  refine Option.eq_none_iff_forall_ne_some.mpr fun contract stored => ?_
  exact unfiled_of_fresh fresh files ((holds_filed settings ids events).here id contract stored)

/-! ### A wager -/

def wagerIds : IdSource := .ofSeed 7

def wagerId : ContractId :=
  .ofTerms ⟨(wagerIds.nth 0).text⟩ ⟨(wagerIds.nth 1).text⟩ 100 (wagerIds.nth 2)

def carriedOut : Except EscrowError String := .ok (Wallet.Reply.accepted none).text

/-- A run of one contract, up to a payout that the arbiter has signed and that is sent. -/
def wager : List Event :=
  let alice : PlayerId := ⟨(wagerIds.nth 0).text⟩
  let bob : PlayerId := ⟨(wagerIds.nth 1).text⟩
  let secret : Secret := ⟨"correct horse battery"⟩
  let operations : List Operation :=
    [.registerPlayer "alice" secret, .addPlayer "bob", .newContract alice bob 100 "a wager",
      .select alice, .signContract wagerId secret, .select bob, .signContract wagerId secret,
      .certifyContract wagerId, .broadcastFunding wagerId, .confirmFunding wagerId,
      .proposePayout wagerId 60 40, .signPayout wagerId (.token secret), .certifyPayout wagerId,
      .broadcastPayout wagerId]
  operations.map fun operation =>
    .operation operation .epoch (.ok (Wallet.Reply.accepted none).text)

theorem fresh_wager : Fresh (history (.forNetwork .regtest) (opening wagerIds) wager) := by
  decide +kernel

theorem stored_wager :
    (ledgerAfter (.forNetwork .regtest) wagerIds wager).contract? wagerId =
        some ⟨wagerId, ⟨(wagerIds.nth 0).text⟩, ⟨(wagerIds.nth 1).text⟩, 100, "a wager",
          ⟨true, true, true⟩, .confirmed, .epoch⟩ ∧
      (ledgerAfter (.forNetwork .regtest) wagerIds wager).payout? wagerId =
        some ⟨wagerId, 60, 40, ⟨false, true, true⟩, true, .broadcast, .epoch⟩ := by
  decide +kernel

end ArbitratedEscrow.Office
