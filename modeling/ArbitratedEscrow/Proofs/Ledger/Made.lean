import ArbitratedEscrow.Ledger.Edit
import ArbitratedEscrow.Proofs.Archive.RoundTrip
import ArbitratedEscrow.Proofs.Ledger.Guard

/-!
# Ledgers that edits make

Edits may come in any order and with anything at all: identifiers that are taken,
entries that are not there, a player under another name. Whatever they are, they
make a well-formed ledger, and so does the loading of an archive that such a
ledger was last kept in, by this desk or another one. In a well-formed ledger a
name leads to the one player who bears it.
-/

namespace ArbitratedEscrow.Ledger

variable {ledger after : Ledger}

namespace WellFormed

/-- A name leads to a player exactly if the player is stored and bears it. -/
theorem playerNamed?_eq_some_iff (wellFormed : ledger.WellFormed) {name : String}
    {player : Player} :
    ledger.playerNamed? name = some player ↔
      player.name = name ∧ ∃ id, ledger.player? id = some player := by
  constructor
  · exact playerNamed?_eq_some
  · rintro ⟨rfl, id, stored⟩
    cases named : ledger.playerNamed? player.name with
    | none => exact False.elim (playerNamed?_eq_none.mp named id player stored rfl)
    | some first =>
      obtain ⟨same, other, found⟩ := playerNamed?_eq_some named
      obtain rfl := wellFormed.names_distinct found stored same
      exact found.symm.trans stored

theorem edit? (wellFormed : ledger.WellFormed) {e : Edit} {answer : Answer}
    (edited : ledger.edit? e = .ok (answer, after)) : after.WellFormed := by
  cases e with
  | addPlayer player =>
    obtain ⟨next, added, same⟩ := map_eq_ok.mp edited
    cases same
    exact wellFormed.addPlayer added
  | setMine id mine =>
    obtain ⟨next, noted, same⟩ := map_eq_ok.mp edited
    cases same
    exact wellFormed.setMine noted
  | removePlayer id =>
    cases edited
    exact wellFormed.removePlayer id
  | select id =>
    obtain ⟨next, chosen, same⟩ := map_eq_ok.mp edited
    cases same
    exact wellFormed.select chosen
  | addContract contract =>
    cases edited
    exact wellFormed.addContract contract
  | updateContract id patch =>
    obtain ⟨⟨contract, next⟩, updated, same⟩ := map_eq_ok.mp edited
    cases same
    exact wellFormed.updateContract updated
  | removeContract id =>
    cases edited
    exact wellFormed.removeContract id
  | addPayout payout =>
    obtain ⟨next, added, same⟩ := map_eq_ok.mp edited
    cases same
    exact wellFormed.addPayout added
  | updatePayout id patch =>
    obtain ⟨⟨payout, next⟩, updated, same⟩ := map_eq_ok.mp edited
    cases same
    exact wellFormed.updatePayout updated
  | removePayout id =>
    cases edited
    exact wellFormed.removePayout id

end WellFormed

theorem edit_of_error {e : Edit} {fault : EscrowError} (failed : (ledger.edit e).1 = .error fault) :
    (ledger.edit e).2 = ledger := by
  rw [edit] at failed ⊢
  cases edited : ledger.edit? e with
  | error fault => rfl
  | ok result =>
    rw [edited] at failed
    cases failed

theorem WellFormed.edit (wellFormed : ledger.WellFormed) (e : Edit) :
    (ledger.edit e).2.WellFormed := by
  rw [Ledger.edit]
  cases edited : ledger.edit? e with
  | error fault => exact wellFormed
  | ok result => exact wellFormed.edit? edited

/--
The ledgers that edits make out of the empty one, those that fail included, and
those that come back from an archive that one of them was last kept in.
-/
inductive Made : Ledger → Prop where
  | empty : Made empty
  | edited {ledger : Ledger} (made : Made ledger) (e : Edit) : Made (ledger.edit e).2
  | loaded {ledger after : Ledger} {archive kept : Archive} {now : Instant} (made : Made ledger)
      (keeps : archive.keep? ledger = some kept) (loads : kept.load? now = some after) : Made after

theorem Made.wellFormed (made : Made ledger) : ledger.WellFormed := by
  induction made with
  | empty => exact wellFormed_empty
  | edited _ e before => exact before.edit e
  | @loaded ledger after archive kept now _ keeps loads before =>
    obtain ⟨again, kept_again, back⟩ := Archive.keep_load before archive
    cases keeps.symm.trans kept_again
    cases loads.symm.trans (back now)
    exact before.wholeSeconds

/--
Whatever edits and archives have made of a ledger, it is well formed, each name
leads to the one player who bears it and to nobody else, and an edit that fails
leaves it as it is.
-/
theorem made_represents (made : Made ledger) :
    ledger.WellFormed ∧
      (∀ name player, ledger.playerNamed? name = some player ↔
        player.name = name ∧ ∃ id, ledger.player? id = some player) ∧
      ∀ e fault, (ledger.edit e).1 = .error fault → (ledger.edit e).2 = ledger :=
  ⟨made.wellFormed, fun _ _ => made.wellFormed.playerNamed?_eq_some_iff,
    fun _ _ => edit_of_error⟩

/-- Carol, who was Alice at first, and Bob. -/
def renamed : Ledger :=
  let edits : List Edit :=
    [.addPlayer ⟨⟨"a"⟩, "alice", "", true⟩, .addPlayer ⟨⟨"b"⟩, "bob", "", false⟩,
      .select ⟨"a"⟩, .addPlayer ⟨⟨"a"⟩, "carol", "", true⟩]
  edits.foldl (fun ledger e => (ledger.edit e).2) empty

theorem made_renamed : Made renamed :=
  .edited (.edited (.edited (.edited .empty _) _) _) _

/-- Carol is found by her new name after a restart, and there is no second Bob. -/
theorem made_represents_renamed :
    let ledger := renamed.wholeSeconds
    let another : Edit := .addPlayer ⟨⟨"c"⟩, "bob", "", true⟩
    ledger.WellFormed ∧ ledger.playerNamed? "carol" = some ⟨⟨"a"⟩, "carol", "", true⟩ ∧
      ledger.playerNamed? "alice" ≠ some ⟨⟨"a"⟩, "carol", "", true⟩ ∧
      (ledger.edit another).2 = ledger := by
  intro ledger another
  obtain ⟨kept, keeps, loads⟩ := Archive.keep_load made_renamed.wellFormed .empty
  obtain ⟨wellFormed, named, fails⟩ :=
    made_represents (.loaded made_renamed keeps (loads .epoch))
  refine ⟨wellFormed, (named _ _).mpr ⟨rfl, ⟨"a"⟩, by decide +kernel⟩, fun alice => ?_,
    fails another (.playerExists "bob") (by decide +kernel)⟩
  exact absurd ((named _ _).mp alice).1 (by decide)

end ArbitratedEscrow.Ledger
