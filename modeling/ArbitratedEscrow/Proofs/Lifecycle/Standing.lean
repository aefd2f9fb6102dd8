import ArbitratedEscrow.Lifecycle.View
import Mathlib.Tactic.ByContra

/-!
# What a status says

`Contract.Shows` and `Payout.Shows` give, for each status, what must be the case
for a player to see it: flags, transaction and payout. They are exact
(`Contract.status_eq_iff`, `Payout.status_eq_iff`), so that later proofs read a
status off here and never open the rules by which it is derived.
-/

namespace ArbitratedEscrow

namespace Signatures

/-- Two of the three signatures, of which one is a player's. -/
def Quorum (signatures : Signatures) : Prop :=
  signatures.playerCount = 2 ∨ (signatures.playerCount = 1 ∧ signatures.arbiter = true)

instance (signatures : Signatures) : Decidable signatures.Quorum :=
  inferInstanceAs (Decidable (_ ∨ _))

theorem complete_iff {signatures : Signatures} :
    signatures.complete = true ↔ signatures = ⟨true, true, true⟩ := by
  obtain ⟨one, two, arbiter⟩ := signatures
  cases one <;> cases two <;> cases arbiter <;> decide

theorem isBlank_iff {signatures : Signatures} :
    signatures.isBlank = true ↔ signatures = .blank := by
  obtain ⟨one, two, arbiter⟩ := signatures
  cases one <;> cases two <;> cases arbiter <;> decide

/-- A signature without a quorum is the only one. -/
theorem alone_of_not_quorum {signatures : Signatures} {seat : Seat}
    (short : ¬ signatures.Quorum) (signed : signatures.of seat = true) :
    signatures.of seat.other = false ∧ signatures.arbiter = false := by
  obtain ⟨one, two, arbiter⟩ := signatures
  revert short signed
  cases seat <;> cases one <;> cases two <;> cases arbiter <;> decide

theorem playerCount_of_alone {signatures : Signatures} {seat : Seat}
    (signed : signatures.of seat = true) (alone : signatures.of seat.other = false) :
    signatures.playerCount = 1 := by
  obtain ⟨one, two, arbiter⟩ := signatures
  revert signed alone
  cases seat <;> cases one <;> cases two <;> cases arbiter <;> decide

end Signatures

namespace Signable

variable {lookup : Lookup} {viewer : PlayerId}

/-- Who may sign a payout is told by the contract that it is found under. -/
theorem signedBy_payout {p : Payout} {c : Contract} (found : lookup.contract p.contract = some c) :
    (payout p).signedBy lookup viewer = true ↔
      ∃ seat, c.seatOf viewer = some seat ∧ p.signatures.of seat = true := by
  simp only [signedBy, parent, found]
  cases c.seatOf viewer <;> simp [signatures]

/-- Whoever has a seat at a contract has signed what that seat has signed. -/
theorem signedBy_contract_eq {c : Contract} {seat : Seat} (seated : c.seatOf viewer = some seat) :
    (contract c).signedBy lookup viewer = c.signatures.of seat := by
  simp only [signedBy, parent, seated, signatures]

theorem signedBy_payout_eq {p : Payout} {c : Contract} {seat : Seat}
    (found : lookup.contract p.contract = some c) (seated : c.seatOf viewer = some seat) :
    (payout p).signedBy lookup viewer = p.signatures.of seat := by
  simp only [signedBy, parent, found, seated, signatures]

end Signable

namespace Contract

variable {contract : Contract} {viewer : PlayerId} {seat : Seat}

theorem seatOf_player_of_ne (different : contract.playerOne ≠ contract.playerTwo) (seat : Seat) :
    contract.seatOf (contract.player seat) = some seat := by
  cases seat with
  | one => exact if_pos rfl
  | two => exact (if_neg different).trans (if_pos rfl)

theorem counterparty_of_seated (seated : contract.seatOf viewer = some seat) :
    contract.counterparty viewer = some (contract.player seat.other) := by
  rw [counterparty, seated]
  rfl

end Contract

namespace Payout

variable {lookup : Lookup} {payout : Payout} {viewer : PlayerId}

def signedByViewer (lookup : Lookup) (payout : Payout) (viewer : PlayerId) : Bool :=
  (Signable.payout payout).signedBy lookup viewer

/-- Whether the player across from the viewer has signed a payout. -/
def signedAcross (lookup : Lookup) (payout : Payout) (viewer : PlayerId) : Bool :=
  ((lookup.contract payout.contract).bind (·.counterparty viewer)).any
    ((Signable.payout payout).signedBy lookup)

theorem signedAcross_eq {contract : Contract} {seat : Seat}
    (parent : lookup.contract payout.contract = some contract)
    (different : contract.playerOne ≠ contract.playerTwo)
    (seated : contract.seatOf viewer = some seat) :
    payout.signedAcross lookup viewer = payout.signatures.of seat.other := by
  have across := Contract.seatOf_player_of_ne different seat.other
  rw [signedAcross, parent, Option.bind_some, Contract.counterparty_of_seated seated,
    Option.any_some, Signable.signedBy_payout_eq parent across]

/-- If the player across has signed and the viewer has not, then it is the other seat that has. -/
theorem seat_free_of_signedAcross {contract : Contract} {seat : Seat}
    (parent : lookup.contract payout.contract = some contract)
    (seated : contract.seatOf viewer = some seat)
    (unsigned : payout.signedByViewer lookup viewer = false)
    (across : payout.signedAcross lookup viewer = true) :
    payout.signatures.of seat = false ∧ payout.signatures.of seat.other = true := by
  have free : payout.signatures.of seat = false :=
    (Signable.signedBy_payout_eq parent seated).symm.trans unsigned
  refine ⟨free, ?_⟩
  rw [signedAcross, parent, Option.bind_some, Contract.counterparty_of_seated seated,
    Option.any_some] at across
  obtain ⟨held, _, signed⟩ := (Signable.signedBy_payout parent).mp across
  -- both seats may be the viewer's, so the signature is told by who has not signed
  have other : held = seat.other := by
    cases held <;> cases seat <;> first | rfl | (rw [free] at signed; cases signed)
  exact other ▸ signed

/-- A payout whose transaction is not out and may not go out yet. -/
def Open (payout : Payout) : Prop :=
  payout.transaction = .unbroadcast ∧ ¬ payout.signatures.Quorum

/-- What must be the case for a player to see a payout in a status. -/
def Shows (lookup : Lookup) (payout : Payout) (viewer : PlayerId) : PayoutStatus → Prop
  | .resolved => payout.transaction = .confirmed
  | .broadcast => payout.transaction = .broadcast
  | .certified => payout.transaction = .unbroadcast ∧ payout.signatures.Quorum
  | .weSignedWithToken =>
    payout.Open ∧ payout.signedByViewer lookup viewer = true ∧ payout.withToken = true
  | .weSigned =>
    payout.Open ∧ payout.signedByViewer lookup viewer = true ∧ payout.withToken = false
  | .theySigned =>
    payout.Open ∧ payout.signedByViewer lookup viewer = false ∧
      payout.signedAcross lookup viewer = true
  | .unsigned =>
    payout.Open ∧ payout.signedByViewer lookup viewer = false ∧
      payout.signedAcross lookup viewer = false ∧ payout.signatures = .blank
  | .invalid =>
    payout.Open ∧ payout.signedByViewer lookup viewer = false ∧
      payout.signedAcross lookup viewer = false ∧ payout.signatures ≠ .blank

theorem status_eq_iff {status : PayoutStatus} :
    payout.status lookup viewer = status ↔ payout.Shows lookup viewer status := by
  have blank : (Signable.payout payout).isUnsigned = true ↔ payout.signatures = .blank :=
    Signatures.isBlank_iff
  unfold Payout.status
  cases transaction : payout.transaction with
  | confirmed => cases status <;> simp [Shows, Open, transaction]
  | broadcast => cases status <;> simp [Shows, Open, transaction]
  | unbroadcast =>
    change (if payout.signatures.Quorum then _
      else if payout.signedByViewer lookup viewer = true then _
      else if payout.signedAcross lookup viewer = true then _ else _) = _ ↔ _
    by_cases quorum : payout.signatures.Quorum
    · cases status <;> simp [Shows, Open, transaction, quorum]
    · cases viewerSigned : payout.signedByViewer lookup viewer with
      | true =>
        cases token : payout.withToken <;> cases status <;>
          simp [Shows, Open, transaction, quorum, viewerSigned, token]
      | false =>
        cases across : payout.signedAcross lookup viewer with
        | true => cases status <;> simp [Shows, Open, transaction, quorum, viewerSigned, across]
        | false =>
          by_cases unsigned : payout.signatures = .blank
          · cases status <;>
              simp [Shows, Open, transaction, viewerSigned, across, blank, unsigned,
                show ¬ Signatures.Quorum .blank by decide]
          · cases status <;>
              simp [Shows, Open, transaction, quorum, viewerSigned, across, blank, unsigned]

end Payout

namespace Contract

variable {lookup : Lookup} {contract : Contract} {viewer : PlayerId}

def signedByViewer (lookup : Lookup) (contract : Contract) (viewer : PlayerId) : Bool :=
  (Signable.contract contract).signedBy lookup viewer

/-- All three have signed and the pot is there. -/
def Funded (contract : Contract) : Prop :=
  contract.signatures = ⟨true, true, true⟩ ∧ contract.funding = .confirmed

def HalfSigned (contract : Contract) : Prop :=
  contract.signatures.arbiter = false ∧ contract.signatures.playerCount = 1

def ShowsPayout (lookup : Lookup) (contract : Contract) (viewer : PlayerId)
    (status : PayoutStatus) : Prop :=
  contract.Funded ∧
    ∃ payout, lookup.payout contract.id = some payout ∧ payout.status lookup viewer = status

/-- What must be the case for a player to see a contract in a status. -/
def Shows (lookup : Lookup) (contract : Contract) (viewer : PlayerId) : ContractStatus → Prop
  | .unsigned => contract.signatures = .blank
  | .signed => contract.HalfSigned ∧ contract.signedByViewer lookup viewer = true
  | .received => contract.HalfSigned ∧ contract.signedByViewer lookup viewer = false
  | .playersSigned => contract.signatures = ⟨true, true, false⟩
  | .certified => contract.signatures = ⟨true, true, true⟩ ∧ contract.funding = .unbroadcast
  | .fundingBroadcast => contract.signatures = ⟨true, true, true⟩ ∧ contract.funding = .broadcast
  | .live =>
    contract.Funded ∧ ∀ payout, lookup.payout contract.id = some payout →
      payout.status lookup viewer = .invalid
  | .payoutUnsigned => contract.ShowsPayout lookup viewer .unsigned
  | .payoutSigned => contract.ShowsPayout lookup viewer .weSigned
  | .payoutSignedWithToken => contract.ShowsPayout lookup viewer .weSignedWithToken
  | .payoutReceived => contract.ShowsPayout lookup viewer .theySigned
  | .payoutCertified => contract.ShowsPayout lookup viewer .certified
  | .payoutBroadcast => contract.ShowsPayout lookup viewer .broadcast
  | .resolved => contract.ShowsPayout lookup viewer .resolved
  | .invalid => contract.signatures.arbiter = true ∧ contract.signatures ≠ ⟨true, true, true⟩

/-- A contract with all three signatures is told by its transaction. -/
theorem status_of_complete (complete : contract.signatures = ⟨true, true, true⟩) :
    contract.status lookup viewer =
      match contract.funding with
      | .unbroadcast => .certified
      | .broadcast => .fundingBroadcast
      | .confirmed =>
        match lookup.payout contract.id with
        | some payout => .ofPayout (payout.status lookup viewer)
        | none => .live := by
  have full : contract.signatures.complete = true := Signatures.complete_iff.mpr complete
  unfold Contract.status
  cases contract.funding with
  | unbroadcast => exact if_pos full
  | broadcast => exact if_pos full
  | confirmed => cases lookup.payout contract.id <;> exact if_pos full

theorem status_of_funded {payout : Payout} (funded : contract.Funded)
    (found : lookup.payout contract.id = some payout) :
    contract.status lookup viewer = .ofPayout (payout.status lookup viewer) := by
  rw [status_of_complete funded.1, funded.2, found]

theorem status_eq_iff_of_complete (complete : contract.signatures = ⟨true, true, true⟩)
    {status : ContractStatus} :
    contract.status lookup viewer = status ↔ contract.Shows lookup viewer status := by
  rw [status_of_complete complete]
  cases funding : contract.funding with
  | unbroadcast =>
    cases status <;>
      simp [Shows, ShowsPayout, Funded, HalfSigned, Signatures.blank, complete, funding]
  | broadcast =>
    cases status <;>
      simp [Shows, ShowsPayout, Funded, HalfSigned, Signatures.blank, complete, funding]
  | confirmed =>
    cases found : lookup.payout contract.id with
    | none =>
      cases status <;>
        simp [Shows, ShowsPayout, Funded, HalfSigned, Signatures.blank, complete, funding, found]
    | some payout =>
      cases seen : payout.status lookup viewer <;> cases status <;>
        simp [Shows, ShowsPayout, Funded, HalfSigned, Signatures.blank, ContractStatus.ofPayout,
          complete, funding, found, seen]

theorem status_eq_iff {status : ContractStatus} :
    contract.status lookup viewer = status ↔ contract.Shows lookup viewer status := by
  by_cases complete : contract.signatures = ⟨true, true, true⟩
  · exact status_eq_iff_of_complete complete
  · have partly : ¬ contract.signatures.complete = true := fun full =>
      complete (Signatures.complete_iff.mp full)
    unfold Contract.status Shows ShowsPayout Funded HalfSigned
    rw [if_neg partly]
    change (if _ then _ else if _ then
      if contract.signedByViewer lookup viewer = true then _ else _
      else if contract.signatures.isBlank = true then _ else _) = _ ↔ _
    generalize contract.signatures = signatures at complete partly
    obtain ⟨one, two, arbiter⟩ := signatures
    cases viewerSigned : contract.signedByViewer lookup viewer <;>
      cases one <;> cases two <;> cases arbiter <;> cases status <;>
      simp_all [Signatures.blank, Signatures.playerCount, Signatures.isBlank]

end Contract

end ArbitratedEscrow
