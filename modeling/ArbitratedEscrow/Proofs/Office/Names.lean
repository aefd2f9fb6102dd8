import ArbitratedEscrow.Proofs.Office.Provenance
import ArbitratedEscrow.Proofs.Operation.Player

/-!
# Names stay with their players

Once an operation has given a player for a name, the name leads to this player
until the player is removed, whatever else is done: to add it or to register it
again gives the same player. That needs player identifiers which do not repeat,
since a player who is enrolled under a taken identifier would replace another
one. A player's keys, once in the wallet, stay there.
-/

namespace ArbitratedEscrow.Office

def Entry.enrolled? (entry : Entry) : Option PlayerId :=
  match entry.event, entry.result with
  | .operation operation _ _, .ok answer => operation.enrolled? entry.before.desk.ledger answer
  | _, _ => none

def Entry.removed? (entry : Entry) : Option PlayerId :=
  match entry.done? with
  | some (.removePlayer id) => some id
  | _ => none

/-- The identifiers of all players of a history, those that are gone included. -/
def enrolled (history : List Entry) : List PlayerId := history.filterMap Entry.enrolled?

def DistinctPlayers (history : List Entry) : Prop := (enrolled history).Nodup

instance (history : List Entry) : Decidable (DistinctPlayers history) :=
  inferInstanceAs (Decidable (List.Nodup _))

variable {settings : Settings} {office next : Office} {event : Event}
  {result : Except EscrowError Answer} {id : PlayerId} {player earlier later : Player}

/-! ### Turns -/

/-- A turn that loads no archive at will has at most claimed a player it has not enrolled. -/
theorem Turn.player_earlier (turn : Turn settings office event result next)
    (wellFormed : office.desk.ledger.WellFormed) (linear : event.isLoad = false)
    (old : Entry.enrolled? ⟨office, event, result⟩ ≠ some id)
    (stored : next.desk.ledger.player? id = some later) :
    ∃ earlier, office.desk.ledger.player? id = some earlier ∧ earlier.Onward later := by
  cases turn with
  | moved move => exact (Operation.onPlayer_of_move wellFormed move stored).earlier old
  | failed | kept | restarted => exact ⟨later, stored, later.onward_refl⟩
  | loaded => cases linear

theorem Turn.player_stays (turn : Turn settings office event result next)
    (linear : event.isLoad = false)
    (kept : Entry.removed? ⟨office, event, result⟩ ≠ some id)
    (stored : office.desk.ledger.player? id = some earlier) :
    ∃ later, next.desk.ledger.player? id = some later := by
  cases turn with
  | moved move =>
    refine move.player_stays stored fun removes => kept ?_
    rw [removes]
    rfl
  | failed | kept | restarted => exact ⟨earlier, stored⟩
  | loaded => cases linear

/-! ### Runs -/

theorem history_append (office : Office) (first later : List Event) :
    history settings office (first ++ later) =
      history settings office first ++ history settings (after settings office first) later := by
  induction first generalizing office with
  | nil => rfl
  | cons event rest ih =>
    rw [List.cons_append, history, ih, history, after_cons, List.cons_append]

theorem distinct_of_append {first later : List Event}
    (distinct : DistinctPlayers (history settings office (first ++ later))) :
    DistinctPlayers (history settings office first) := by
  rw [DistinctPlayers, enrolled, history_append, List.filterMap_append] at distinct
  exact distinct.of_append_left

variable (settings) (ids : IdSource) (first events : List Event)

/-- Every player on the desk or in the archive was enrolled in the run. -/
theorem holds_enrolled :
    (after settings (opening ids) events).Holds fun ledger => ∀ id,
      (∃ player, ledger.player? id = some player) →
        id ∈ enrolled (history settings (opening ids) events) := by
  refine holds_recorded settings ids events (fun id there => ?_) (fun there => there) ?_
  · obtain ⟨player, stored⟩ := there
    cases stored
  · rintro office operation now outcome answer desk id wellFormed move ⟨player, stored⟩
    cases Operation.onPlayer_of_move wellFormed move stored with
    | left before | claimed before => exact .inl ⟨_, before⟩
    | enrolled enrols => exact .inr enrols

variable {settings ids first events}

/-- Whoever has been stored in a run is not enrolled again. -/
theorem not_enrolled_again
    (distinct : DistinctPlayers (history settings (opening ids) (first ++ events ++ [event])))
    (stored : (ledgerAfter settings ids first).player? id = some player) :
    Entry.enrolled? ⟨after settings (opening ids) (first ++ events), event,
      ((after settings (opening ids) (first ++ events)).step settings event).1⟩ ≠ some id := by
  intro enrols
  have known : id ∈ enrolled (history settings (opening ids) (first ++ events)) := by
    rw [enrolled, history_append, List.filterMap_append]
    exact List.mem_append_left _ ((holds_enrolled settings ids first).here id ⟨player, stored⟩)
  rw [DistinctPlayers, enrolled, history_concat, filterMap_concat, enrols] at distinct
  obtain ⟨_, _, apart⟩ := List.nodup_append.mp distinct
  exact apart id known id (by simp) rfl

/-- Between any two points of a run a player can only have been claimed. -/
theorem onward_after (linear : ∀ event ∈ events, event.isLoad = false)
    (distinct : DistinctPlayers (history settings (opening ids) (first ++ events)))
    (stored : (ledgerAfter settings ids first).player? id = some earlier)
    (found : (ledgerAfter settings ids (first ++ events)).player? id = some later) :
    earlier.Onward later := by
  induction events using List.reverseRecOn generalizing later with
  | nil =>
    rw [List.append_nil] at found
    cases stored.symm.trans found
    exact earlier.onward_refl
  | append_singleton events event ih =>
    rw [← List.append_assoc] at distinct found
    rw [ledgerAfter, after_concat] at found
    -- the last event cannot have enrolled the player: that would repeat the identifier
    obtain ⟨middle, there, onward⟩ :=
      (turn_after settings ids (first ++ events) event).player_earlier
        (holds_wellFormed settings ids _).here (linear event (by simp))
        (not_enrolled_again distinct stored) found
    have before := ih (fun other member => linear other (List.mem_append_left _ member))
      (distinct_of_append distinct) there
    exact before.trans onward

/-- A player who is not removed stays. -/
theorem player_after (linear : ∀ event ∈ events, event.isLoad = false)
    (kept : ∀ entry ∈ history settings (after settings (opening ids) first) events,
      entry.removed? ≠ some id)
    (stored : (ledgerAfter settings ids first).player? id = some earlier) :
    ∃ later, (ledgerAfter settings ids (first ++ events)).player? id = some later := by
  induction events using List.reverseRecOn with
  | nil => exact ⟨earlier, by rwa [List.append_nil]⟩
  | append_singleton events event ih =>
    rw [history_concat] at kept
    obtain ⟨middle, there⟩ := ih (fun other member => linear other (List.mem_append_left _ member))
      fun entry member => kept entry (List.mem_append_left _ member)
    have turn := turn_after settings ids (first ++ events) event
    rw [← List.append_assoc, ledgerAfter, after_concat]
    refine turn.player_stays (linear event (by simp)) ?_ there
    rw [after, List.foldl_append]
    exact kept _ (List.mem_append_right _ (List.mem_singleton.mpr rfl))

/--
Once an operation has given a player for a name, the name is bound to this player
at each later point of the run up to the player's removal, with nothing changed
but that the keys may have come; and between no two points of the run do the keys
of a player leave.
-/
theorem name_bound (settings : Settings) (ids : IdSource) (before later : List Event)
    {operation : Operation} {now : Instant} {outcome : Except EscrowError String} {name : String}
    {player : Player} (enrols : operation.enrols = some name)
    (gives : ((after settings (opening ids) before).operate settings operation now outcome).1 =
      .ok (.player player)) :
    let joined := before ++ [.operation operation now outcome]
    (∀ event ∈ joined ++ later, event.isLoad = false) →
    DistinctPlayers (history settings (opening ids) (joined ++ later)) →
      player.name = name ∧
      ((∀ entry ∈ history settings (after settings (opening ids) joined) later,
          entry.removed? ≠ some player.id) →
        ∃ held, player.Onward held ∧
          (after settings (opening ids) (joined ++ later)).desk.Binds settings held) ∧
      ∀ first second, first ++ second <+: joined ++ later → ∀ id known again,
        (ledgerAfter settings ids first).player? id = some known →
        (ledgerAfter settings ids (first ++ second)).player? id = some again →
          known.mine = true → again.mine = true := by
  intro joined linear distinct
  have wellFormed := (holds_wellFormed settings ids before).here
  have stored : player.name = name ∧
      (ledgerAfter settings ids joined).player? player.id = some player := by
    rcases operate_cases wellFormed operation now outcome with
      ⟨fault, failed⟩ | ⟨answer, desk, moved, move⟩
    · cases (congrArg Prod.fst failed).symm.trans gives
    · cases (congrArg Prod.fst moved).symm.trans gives
      rw [ledgerAfter, after_concat, step, moved]
      exact move.enrols_stored wellFormed enrols rfl
  refine ⟨stored.1, fun kept => ?_, fun first second part id known again there found => ?_⟩
  · have linear : ∀ event ∈ later, event.isLoad = false := fun event member =>
      linear event (List.mem_append_right _ member)
    obtain ⟨held, found⟩ := player_after linear kept stored.2
    have onward := onward_after linear distinct stored.2 found
    refine ⟨held, onward, Operation.binds_of_stored (holds_wellFormed settings ids _).here ?_⟩
    rw [onward.id]
    exact found
  · obtain ⟨rest, whole⟩ := part
    rw [← whole] at linear distinct
    refine (onward_after (fun event member => linear event ?_) (distinct_of_append distinct) there
      found).mine
    exact List.mem_append_left _ (List.mem_append_right _ member)

/-- Carol is added, survives a restart and the removal of dave, and registers herself. -/
def carolJoins : List Event :=
  let did (operation : Operation) : Event := .operation operation .epoch carriedOut
  [.restart .epoch, did (.addPlayer "dave"),
    did (.registerPlayer "carol" ⟨"correct horse battery"⟩),
    did (.removePlayer ⟨(wagerIds.nth 1).text⟩), .restart .epoch]

theorem name_bound_carol :
    ∃ held, held.id = ⟨(wagerIds.nth 0).text⟩ ∧ held.name = "carol" ∧ held.mine = true ∧
      (after (.forNetwork .regtest) (opening wagerIds)
        (.operation (.addPlayer "carol") .epoch carriedOut :: carolJoins)).desk.Binds
          (.forNetwork .regtest) held := by
  have gives : ((after (.forNetwork .regtest) (opening wagerIds) []).operate (.forNetwork .regtest)
      (.addPlayer "carol") .epoch carriedOut).1 =
        .ok (.player (Player.new "carol" false (wagerIds.nth 0))) := by
    decide +kernel
  have registered : (ledgerAfter (.forNetwork .regtest) wagerIds
      (.operation (.addPlayer "carol") .epoch carriedOut :: carolJoins.take 3)).player?
        ⟨(wagerIds.nth 0).text⟩ = some (Player.new "carol" true (wagerIds.nth 0)) := by
    decide +kernel
  obtain ⟨_, bound, keys⟩ := name_bound (.forNetwork .regtest) wagerIds [] carolJoins rfl gives
    (by decide) (by decide +kernel)
  obtain ⟨held, onward, binds⟩ := bound (by decide +kernel)
  have same : held.id = ⟨(wagerIds.nth 0).text⟩ := onward.id
  rw [← same] at registered
  have mine : held.mine = true :=
    keys (_ :: carolJoins.take 3) (carolJoins.drop 3) (List.prefix_refl _) held.id _ _
      registered binds.stored rfl
  exact ⟨held, same, onward.name, mine, binds⟩

end ArbitratedEscrow.Office
