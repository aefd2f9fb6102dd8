import ArbitratedEscrow.Proofs.Ledger.Made
import ArbitratedEscrow.Proofs.Operation.Move

/-!
# Where players come from

A player who is in the ledger after a move was there before, with fewer keys
perhaps, or has just been enrolled; and only a removal of this very player ends
that. While a player is stored the player's name is taken: to add the name again
is to look the player up, and to register it is to claim the player's keys.
-/

namespace ArbitratedEscrow

/-- The same player, whose keys have not left the wallet. -/
structure Player.Onward (earlier later : Player) : Prop where
  id : later.id = earlier.id
  name : later.name = earlier.name
  picture : later.picture = earlier.picture
  mine : earlier.mine = true → later.mine = true

namespace Player

variable {earlier later last : Player}

theorem onward_refl (player : Player) : player.Onward player :=
  ⟨rfl, rfl, rfl, fun mine => mine⟩

theorem onward_claimed (player : Player) : player.Onward { player with mine := true } :=
  ⟨rfl, rfl, rfl, fun _ => rfl⟩

theorem Onward.trans (first : earlier.Onward later) (second : later.Onward last) :
    earlier.Onward last where
  id := second.id.trans first.id
  name := second.name.trans first.name
  picture := second.picture.trans first.picture
  mine mine := second.mine (first.mine mine)

end Player

/--
What a desk makes of a player's name: it leads to the player, to add it again
gives the player without the wallet, and to register it gives the same player
with the keys in the wallet.
-/
structure Desk.Binds (settings : Settings) (desk : Desk) (player : Player) : Prop where
  stored : desk.ledger.player? player.id = some player
  named : desk.ledger.playerNamed? player.name = some player
  added : ∀ {σ : Type} (call : Wallet.Request → σ → Except EscrowError String × σ) (wallet : σ)
    (now : Instant), (Operation.addPlayer player.name).run call settings now wallet desk =
      (.ok (.player player), wallet, desk)
  registered : ∀ {σ : Type} (call : Wallet.Request → σ → Except EscrowError String × σ)
    (wallet : σ) (now : Instant) (passphrase : Secret) (answer : Answer),
    ((Operation.registerPlayer player.name passphrase).run call settings now wallet desk).1 =
      .ok answer → answer = .player { player with mine := true }

namespace Operation

def enrols : Operation → Option String
  | registerPlayer name _ | addPlayer name => some name
  | _ => none

/-- The identifier under which an operation has enrolled a player whose name was new. -/
def enrolled? (ledger : Ledger) (operation : Operation) : Answer → Option PlayerId
  | .player made => do
    let name ← operation.enrols
    if (ledger.playerNamed? name).isSome then none else return made.id
  | _ => none

variable {settings : Settings} {now : Instant} {desk after : Desk} {operation : Operation}
  {answer : Answer} {id : PlayerId} {player : Player}

theorem enrolled?_of_unnamed {ledger : Ledger} {name : String}
    (enrols : operation.enrols = some name) (unnamed : ledger.playerNamed? name = none) :
    operation.enrolled? ledger (.player player) = some player.id := by
  simp [enrolled?, enrols, unnamed]

inductive OnPlayer (desk : Desk) (operation : Operation) (answer : Answer) (id : PlayerId) :
    Player → Prop where
  | left {player : Player} (stored : desk.ledger.player? id = some player) :
      OnPlayer desk operation answer id player
  | claimed {player : Player} (stored : desk.ledger.player? id = some player) :
      OnPlayer desk operation answer id { player with mine := true }
  | enrolled {player : Player} (enrols : operation.enrolled? desk.ledger answer = some id) :
      OnPlayer desk operation answer id player

/-- Of a player who is there and has not just been enrolled there was an earlier record. -/
theorem OnPlayer.earlier (on : OnPlayer desk operation answer id player)
    (old : operation.enrolled? desk.ledger answer ≠ some id) :
    ∃ earlier, desk.ledger.player? id = some earlier ∧ earlier.Onward player := by
  cases on with
  | left stored => exact ⟨player, stored, player.onward_refl⟩
  | claimed stored => exact ⟨_, stored, Player.onward_claimed _⟩
  | enrolled enrols => exact False.elim (old enrols)

theorem onPlayer_enrol {name : String} {mine : Bool} (enrols : operation.enrols = some name)
    (unnamed : desk.ledger.playerNamed? name = none)
    (stored : (desk.enrol name mine).2.ledger.player? id = some player) :
    OnPlayer desk operation (.player (desk.enrol name mine).1) id player := by
  rw [Desk.enrol, Ledger.player?_withPlayer] at stored
  split at stored
  · rename_i same
    exact .enrolled ((enrolled?_of_unnamed enrols unnamed).trans (congrArg some same))
  · exact .left stored

theorem onPlayer_of_move (wellFormed : desk.ledger.WellFormed)
    (move : Move settings now desk operation answer after)
    (stored : after.ledger.player? id = some player) :
    OnPlayer desk operation answer id player := by
  cases move with
  | settle settles => cases settles <;> exact .left stored
  | claim named =>
    rw [Desk.withLedger, Ledger.player?_withPlayer] at stored
    split at stored
    · rename_i same
      cases stored
      cases same
      exact .claimed (wellFormed.player?_of_playerNamed? named)
    · exact .left stored
  | register unnamed => exact onPlayer_enrol rfl unnamed stored
  | add unnamed => exact onPlayer_enrol rfl unnamed stored
  | removePlayer _ =>
    rw [Desk.withLedger, Ledger.player?_removePlayer] at stored
    split at stored
    · cases stored
    · exact .left stored
  | file | patchContract | removeContract | filePayout | patchPayout | removePayout =>
    exact .left stored

/-- Only the removal of a player takes the player away. -/
theorem Move.player_stays (move : Move settings now desk operation answer after)
    (stored : desk.ledger.player? id = some player) (kept : operation ≠ .removePlayer id) :
    ∃ later, after.ledger.player? id = some later := by
  have there : ∀ added : Player,
      ∃ later, (desk.ledger.withPlayer added).player? id = some later := by
    intro added
    rw [Ledger.player?_withPlayer]
    split
    · exact ⟨added, rfl⟩
    · exact ⟨player, stored⟩
  cases move with
  | settle settles => cases settles <;> exact ⟨player, stored⟩
  | claim | register | add => exact there _
  | @removePlayer removed _ _ =>
    have different : removed ≠ id := fun same => kept (congrArg Operation.removePlayer same)
    exact ⟨player, by rw [Desk.withLedger, Ledger.player?_removePlayer, if_neg different, stored]⟩
  | file | patchContract | removeContract | filePayout | patchPayout | removePayout =>
    exact ⟨player, stored⟩

/-- Whom an operation gives for a name is stored under that name afterwards. -/
theorem Move.enrols_stored (wellFormed : desk.ledger.WellFormed)
    (move : Move settings now desk operation answer after) {name : String}
    (enrols : operation.enrols = some name) (gives : answer = .player player) :
    player.name = name ∧ after.ledger.player? player.id = some player := by
  have kept : ∀ (ledger : Ledger) (added : Player),
      (ledger.withPlayer added).player? added.id = some added := by
    intro ledger added
    rw [Ledger.player?_withPlayer, if_pos rfl]
  cases move with
  | settle settles =>
    cases settles with
    | look looks =>
      cases operation with
      | registerPlayer | addPlayer => cases looks
      | _ => cases enrols
    | select _ => cases enrols
    | known named =>
      cases enrols
      cases gives
      exact ⟨(Ledger.playerNamed?_eq_some named).1, wellFormed.player?_of_playerNamed? named⟩
  | claim named =>
    cases enrols
    cases gives
    exact ⟨(Ledger.playerNamed?_eq_some named).1, kept _ _⟩
  | register | add =>
    cases enrols
    obtain rfl := Answer.player.inj gives
    exact ⟨rfl, kept desk.ledger _⟩
  | removePlayer | file | filePayout => cases enrols
  | patchContract grants _ | removeContract grants _ | patchPayout grants _
  | removePayout grants => cases grants <;> cases enrols

/-- To register a name that is taken is to claim the player who bears it. -/
theorem Move.claims (move : Move settings now desk operation answer after) {name : String}
    {passphrase : Secret} (registers : operation = .registerPlayer name passphrase)
    (named : desk.ledger.playerNamed? name = some player) :
    answer = .player { player with mine := true } := by
  cases move with
  | settle settles =>
    cases settles with
    | look looks =>
      cases registers
      cases looks
    | select | known => cases registers
  | claim also =>
    cases registers
    cases named.symm.trans also
    rfl
  | register unnamed =>
    cases registers
    cases named.symm.trans unnamed
  | add | removePlayer | file | filePayout => cases registers
  | patchContract grants _ | removeContract grants _ | patchPayout grants _
  | removePayout grants => cases grants <;> cases registers

theorem binds_of_stored (wellFormed : desk.ledger.WellFormed)
    (stored : desk.ledger.player? player.id = some player) : desk.Binds settings player := by
  have named : desk.ledger.playerNamed? player.name = some player :=
    wellFormed.playerNamed?_eq_some_iff.mpr ⟨rfl, _, stored⟩
  refine ⟨stored, named, fun call wallet now => ?_,
    fun call wallet now passphrase answer succeeded => ?_⟩
  · simp only [run, check, named]
  · have course : (registerPlayer player.name passphrase).Course call settings now wallet desk
        ((registerPlayer player.name passphrase).run call settings now wallet desk) :=
      course_run call wallet wellFormed
    generalize (registerPlayer player.name passphrase).run call settings now wallet desk = ran
      at course succeeded
    cases course with
    | refused | rejected => cases succeeded
    | settled settles =>
      cases succeeded
      have move : Move settings now desk (.registerPlayer player.name passphrase) answer _ :=
        .settle settles
      exact move.claims rfl named
    | done _ _ move =>
      cases succeeded
      exact move.claims rfl named

end Operation

end ArbitratedEscrow
