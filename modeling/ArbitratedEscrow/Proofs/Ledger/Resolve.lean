import ArbitratedEscrow.Ledger.Resolve
import ArbitratedEscrow.Proofs.Ledger.Listing
import Mathlib.Data.Set.Card

/-!
# What a short form stands for

The candidates of a text are the stored contracts whose identifiers start with
it. A text stands for a contract exactly if that is its one candidate, and more
letters of an identifier leave no more candidates. A whole identifier has itself
as a candidate, but it could also be the start of another one; that no two stored
identifiers are so is up to whoever makes them.
-/

namespace ArbitratedEscrow

namespace ContractId

theorem takeBytes_prefix {bytes : Nat} {text start : List Char}
    (takes : takeBytes bytes text = some start) : start <+: text := by
  fun_induction takeBytes bytes text generalizing start with
  | case1 text =>
    cases takes
    exact List.nil_prefix
  | case2 => cases takes
  | case3 bytes c rest _ _ ih =>
    obtain ⟨more, taken, rfl⟩ := Option.map_eq_some_iff.mp takes
    exact List.cons_prefix_cons.mpr ⟨rfl, ih taken⟩
  | case4 => cases takes

/-- What lists show of an identifier is its start. -/
theorem short_prefix (id : ContractId) : id.short.toList <+: id.text.toList := by
  rw [short]
  split
  · rename_i start taken
    rw [String.toList_ofList]
    exact takeBytes_prefix taken
  · exact List.prefix_refl _

end ContractId

namespace Ledger

variable {ledger : Ledger} {start longer : String} {id : ContractId}

/-- The stored contracts whose identifiers start with a text. -/
def candidates (ledger : Ledger) (start : String) : Set ContractId :=
  {id | (∃ contract, ledger.contract? id = some contract) ∧ start.toList <+: id.text.toList}

/-- The more letters, the fewer candidates. -/
theorem candidates_subset (front : start.toList <+: longer.toList) :
    ledger.candidates longer ⊆ ledger.candidates start :=
  fun _ candidate => ⟨candidate.1, front.trans candidate.2⟩

namespace WellFormed

variable (wellFormed : ledger.WellFormed)
include wellFormed

theorem mem_startingWith : id ∈ ledger.startingWith start ↔ id ∈ ledger.candidates start := by
  have listed : id ∈ ledger.contractList.map Contract.id ↔
      ∃ contract, ledger.contract? id = some contract := wellFormed.mem_listing
  rw [startingWith, List.mem_filter, listed, ContractId.startsWith_iff]
  rfl

theorem startingWith_nodup : (ledger.startingWith start).Nodup :=
  wellFormed.listing_nodup.filter _

theorem coe_startingWith :
    ((ledger.startingWith start).toFinset : Set ContractId) = ledger.candidates start := by
  ext id
  rw [List.coe_toFinset]
  exact wellFormed.mem_startingWith

theorem length_startingWith :
    (ledger.startingWith start).length = (ledger.candidates start).ncard := by
  rw [← wellFormed.coe_startingWith, Set.ncard_coe_finset,
    List.toFinset_card_of_nodup wellFormed.startingWith_nodup]

theorem resolve_eq_ok_iff_candidates :
    ledger.resolve start = .ok id ↔ ledger.candidates start = {id} := by
  rw [resolve_eq_ok_iff, ← List.perm_singleton,
    List.perm_ext_iff_of_nodup wellFormed.startingWith_nodup (List.nodup_singleton id),
    Set.ext_iff]
  simp only [wellFormed.mem_startingWith, List.mem_singleton, Set.mem_singleton_iff]

theorem resolve_eq_notFound_iff :
    ledger.resolve start = .error (.contractNotFound ⟨start⟩) ↔ ledger.candidates start = ∅ := by
  rw [Set.eq_empty_iff_forall_notMem]
  simp only [← wellFormed.mem_startingWith, ← List.eq_nil_iff_forall_not_mem]
  rw [resolve]
  rcases ledger.startingWith start with _ | ⟨one, _ | ⟨other, rest⟩⟩ <;> simp

theorem resolve_eq_ambiguous_iff :
    ledger.resolve start =
        .error (.invalidState (.ambiguousStart start (ledger.candidates start).ncard)) ↔
      (ledger.candidates start).Nontrivial := by
  have finite : (ledger.candidates start).Finite :=
    wellFormed.coe_startingWith ▸ (ledger.startingWith start).toFinset.finite_toSet
  have several : (ledger.candidates start).Nontrivial ↔ 1 < (ledger.startingWith start).length := by
    rw [wellFormed.length_startingWith, Set.one_lt_ncard_iff_nontrivial_and_finite,
      and_iff_left finite]
  rw [several, ← wellFormed.length_startingWith, resolve]
  rcases ledger.startingWith start with _ | ⟨one, _ | ⟨other, rest⟩⟩ <;> simp

/-- A text that stands for a contract does so with more of the identifier's letters. -/
theorem resolve_longer (resolves : ledger.resolve start = .ok id)
    (front : start.toList <+: longer.toList) (within : longer.toList <+: id.text.toList) :
    ledger.resolve longer = .ok id := by
  rw [wellFormed.resolve_eq_ok_iff_candidates] at resolves ⊢
  have candidate : id ∈ ledger.candidates start := resolves ▸ Set.mem_singleton id
  refine Set.Subset.antisymm (resolves ▸ candidates_subset front) ?_
  exact Set.singleton_subset_iff.mpr ⟨candidate.1, within⟩

/-- Identifiers of one length stand for themselves. -/
theorem resolve_self {contract : Contract} (stored : ledger.contract? id = some contract)
    (even : ∀ {other : ContractId} {contract : Contract},
      ledger.contract? other = some contract → other.text.length = id.text.length) :
    ledger.resolve id.text = .ok id := by
  refine wellFormed.resolve_eq_ok_iff_candidates.mpr (Set.ext fun other => ?_)
  rw [Set.mem_singleton_iff]
  constructor
  · rintro ⟨⟨found, there⟩, front⟩
    have same : id.text.toList = other.text.toList :=
      front.eq_of_length (by simpa only [String.length_toList] using (even there).symm)
    exact Key.text_injective (String.toList_inj.mp same.symm)
  · rintro rfl
    exact ⟨⟨contract, stored⟩, List.prefix_refl _⟩

end WellFormed

end Ledger

end ArbitratedEscrow
