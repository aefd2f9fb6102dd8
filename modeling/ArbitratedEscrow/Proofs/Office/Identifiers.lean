import ArbitratedEscrow.Proofs.Ledger.Resolve
import ArbitratedEscrow.Proofs.Office.Independence

/-!
# Identifiers of contracts in a run

Every contract of a run is stored under the hash of its terms, so that all
identifiers have one length and none is the start of another one. That is all it
takes for a whole identifier to stand for its contract; hashes may collide, since
of two contracts with one identifier only one is stored.
-/

namespace ArbitratedEscrow

/-- Hashes of terms are spelled in 64 digits. -/
theorem ContractId.length_ofTerms (playerOne playerTwo : PlayerId) (amount : Amount)
    (nonce : Uuid) : (ofTerms playerOne playerTwo amount nonce).text.length = 64 := by
  rw [ofTerms, String.length_ofList, Text.length_hex, Sha256.length_digest]

namespace Office

variable (settings : Settings) (ids : IdSource) (events : List Event)

/-- Every contract on the desk or in the archive is known by the hash of some terms. -/
theorem holds_hashed :
    (after settings (opening ids) events).Holds fun ledger => ∀ id contract,
      ledger.contract? id = some contract →
        ∃ playerOne playerTwo amount nonce, id = .ofTerms playerOne playerTwo amount nonce := by
  induction events using List.reverseRecOn with
  | nil => exact holds_opening ids fun id contract stored => nomatch stored
  | append_singleton events event ih =>
    have wellFormed := (holds_wellFormed settings ids events).here
    rw [after_concat]
    refine ih.turn ?_ ?_ (turn_after settings ids events event)
    · intro ledger hashed id contract stored
      rw [Ledger.contract?_wholeSeconds] at stored
      obtain ⟨whole, stored, _⟩ := Option.map_eq_some_iff.mp stored
      exact hashed id whole stored
    · intro operation now outcome answer desk _ _ move id contract stored
      cases Operation.onContract_of_move wellFormed move stored with
      | left before | patched _ before => exact ih.here id _ before
      | filed _ => exact ⟨_, _, _, _, ((move.wellFormed wellFormed).contract_keyed stored).symm⟩

/--
After any run, a text stands for a contract exactly if the contract's identifier is
the only stored one that starts with it; if none does, or several do, it is refused,
with the text or with their number. Each whole identifier stands for its contract.
What stands for a contract goes on to do so with more letters of its identifier, up
to those that lists show and beyond.
-/
theorem starts_resolved (start : String) :
    let ledger := ledgerAfter settings ids events
    (∀ id, ledger.resolve start = .ok id ↔ ledger.candidates start = {id}) ∧
    (ledger.resolve start = .error (.contractNotFound ⟨start⟩) ↔
      ledger.candidates start = ∅) ∧
    (ledger.resolve start =
        .error (.invalidState (.ambiguousStart start (ledger.candidates start).ncard)) ↔
      (ledger.candidates start).Nontrivial) ∧
    (∀ id contract, ledger.contract? id = some contract → ledger.resolve id.text = .ok id) ∧
    ∀ id, ledger.resolve start = .ok id →
      (∀ longer : String, start.toList <+: longer.toList → longer.toList <+: id.text.toList →
        ledger.resolve longer = .ok id) ∧
      (start.length ≤ id.short.length → ledger.resolve id.short = .ok id) := by
  intro ledger
  have wellFormed : ledger.WellFormed := (holds_wellFormed settings ids events).here
  have hashed := (holds_hashed settings ids events).here
  have length : ∀ {id contract}, ledger.contract? id = some contract → id.text.length = 64 := by
    intro id contract stored
    obtain ⟨one, two, amount, nonce, rfl⟩ := hashed id contract stored
    exact ContractId.length_ofTerms one two amount nonce
  refine ⟨fun id => wellFormed.resolve_eq_ok_iff_candidates, wellFormed.resolve_eq_notFound_iff,
    wellFormed.resolve_eq_ambiguous_iff, fun id contract stored => ?_, fun id resolves => ?_⟩
  · exact wellFormed.resolve_self stored fun other => (length other).trans (length stored).symm
  · refine ⟨fun longer => wellFormed.resolve_longer resolves, fun shorter => ?_⟩
    have candidate : id ∈ ledger.candidates start :=
      wellFormed.resolve_eq_ok_iff_candidates.mp resolves ▸ Set.mem_singleton id
    have front : start.toList <+: id.short.toList :=
      List.prefix_of_prefix_length_le candidate.2 id.short_prefix
        (by simpa only [String.length_toList] using shorter)
    exact wellFormed.resolve_longer resolves front id.short_prefix

theorem candidates_twoContracts (start : String) :
    (ledgerAfter (.forNetwork .regtest) wagerIds twoContracts).candidates start =
      {id | id ∈ [secondId, wagerId] ∧ start.toList <+: id.text.toList} := by
  have filed : (ledgerAfter (.forNetwork .regtest) wagerIds twoContracts).contracts.entries.map
      Prod.fst = [secondId, wagerId] := by
    decide +kernel
  ext id
  refine and_congr_left fun _ => ?_
  simp [← filed, Ledger.contract?, Directory.get?_eq_some_iff]

/-- Of two contracts one starts with a 3, and it goes by that and by what lists show of it. -/
theorem starts_resolved_twoContracts :
    let ledger := ledgerAfter (.forNetwork .regtest) wagerIds twoContracts
    ledger.resolve "" = .error (.invalidState (.ambiguousStart "" 2)) ∧
      ledger.resolve "4" = .error (.contractNotFound ⟨"4"⟩) ∧
      ledger.resolve "3" = .ok wagerId ∧ ledger.resolve wagerId.short = .ok wagerId ∧
      ledger.resolve secondId.text = .ok secondId := by
  intro ledger
  have told := starts_resolved (.forNetwork .regtest) wagerIds twoContracts
  have starts : "3".toList <+: wagerId.text.toList ∧ ¬ "3".toList <+: secondId.text.toList ∧
      ¬ "4".toList <+: wagerId.text.toList ∧ ¬ "4".toList <+: secondId.text.toList ∧
      "3".length ≤ wagerId.short.length := by
    decide +kernel
  have both : ledger.candidates "" = {secondId, wagerId} := by
    rw [candidates_twoContracts]
    ext id
    simp
  have none : ledger.candidates "4" = ∅ := by
    rw [candidates_twoContracts, Set.eq_empty_iff_forall_notMem]
    rintro id ⟨member, front⟩
    rcases List.mem_pair.mp member with rfl | rfl
    · exact starts.2.2.2.1 front
    · exact starts.2.2.1 front
  have one : ledger.candidates "3" = {wagerId} := by
    rw [candidates_twoContracts, Set.eq_singleton_iff_unique_mem]
    refine ⟨⟨by simp, starts.1⟩, ?_⟩
    rintro id ⟨member, front⟩
    rcases List.mem_pair.mp member with rfl | rfl
    · exact absurd front starts.2.1
    · rfl
  have different : secondId ≠ wagerId := fun same => starts.2.1 (same ▸ starts.1)
  have third : ledger.resolve "3" = .ok wagerId := ((told "3").1 wagerId).mpr one
  have several := (told "").2.2.1.mpr (both ▸ Set.nontrivial_pair different)
  rw [both, Set.ncard_pair different] at several
  have candidate : secondId ∈ ledger.candidates "" := both ▸ Set.mem_insert _ _
  obtain ⟨contract, stored⟩ := candidate.1
  exact ⟨several, (told "4").2.1.mpr none, third,
    ((told "3").2.2.2.2 wagerId third).2 starts.2.2.2.2,
    (told "").2.2.2.1 secondId contract stored⟩

end Office

end ArbitratedEscrow
