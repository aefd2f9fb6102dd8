import ArbitratedEscrow.Proofs.Lifecycle.Locality

/-!
# Neither seat is privileged

To swap the seats is to exchange the players of a contract together with what they
have signed, and for a payout what they have signed together with what they get. If
all contracts have two different parties, everyone sees the same as before
(`seats_interchangeable`). A contract that has one party twice has to be left out:
that party sits on the first seat of it, and a signature counts there only.
-/

namespace ArbitratedEscrow

/-! ### Swapping -/

def Signatures.swap (signatures : Signatures) : Signatures :=
  { signatures with playerOne := signatures.playerTwo, playerTwo := signatures.playerOne }

def Contract.swap (contract : Contract) : Contract :=
  { contract with
    playerOne := contract.playerTwo
    playerTwo := contract.playerOne
    signatures := contract.signatures.swap }

def Payout.swap (payout : Payout) : Payout :=
  { payout with
    amountOne := payout.amountTwo
    amountTwo := payout.amountOne
    signatures := payout.signatures.swap }

def Signable.swap : Signable → Signable
  | contract c => contract c.swap
  | payout p => payout p.swap

/-- The lookup with all that is found in it swapped. -/
def Lookup.swap (lookup : Lookup) : Lookup where
  contract id := (lookup.contract id).map Contract.swap
  payout id := (lookup.payout id).map Payout.swap

/-- All contracts in a lookup have two different parties. -/
def Lookup.Distinct (lookup : Lookup) : Prop :=
  ∀ id contract, lookup.contract id = some contract → contract.playerOne ≠ contract.playerTwo

theorem Signatures.of_swap_other (signatures : Signatures) (seat : Seat) :
    signatures.swap.of seat.other = signatures.of seat := by
  cases seat <;> rfl

theorem Signatures.playerCount_swap (signatures : Signatures) :
    signatures.swap.playerCount = signatures.playerCount :=
  Nat.add_comm _ _

/-! ### Seats -/

namespace Contract

variable {contract : Contract}

theorem player_swap_other (seat : Seat) :
    contract.swap.player seat.other = contract.player seat := by
  cases seat <;> rfl

theorem seatOf_swap (different : contract.playerOne ≠ contract.playerTwo) (viewer : PlayerId) :
    contract.swap.seatOf viewer = (contract.seatOf viewer).map Seat.other := by
  change (if contract.playerTwo = viewer then some Seat.one
    else if contract.playerOne = viewer then some Seat.two else none) = _
  rw [seatOf]
  by_cases two : contract.playerTwo = viewer
  · have not_one : contract.playerOne ≠ viewer := fun one => different (one.trans two.symm)
    rw [if_pos two, if_neg not_one, if_pos two]
    rfl
  · rw [if_neg two, if_neg two]
    by_cases one : contract.playerOne = viewer
    · rw [if_pos one, if_pos one]
      rfl
    · rw [if_neg one, if_neg one]
      rfl

theorem counterparty_swap (different : contract.playerOne ≠ contract.playerTwo)
    (viewer : PlayerId) : contract.swap.counterparty viewer = contract.counterparty viewer := by
  rw [counterparty, counterparty, seatOf_swap different, Option.map_map]
  exact congrArg (Option.map · _) (funext fun seat => player_swap_other seat.other)

end Contract

theorem Signable.signedBy_swap {lookup : Lookup} (signable : Signable)
    (different : ∀ held, signable.parent lookup = some held → held.playerOne ≠ held.playerTwo)
    (viewer : PlayerId) :
    signable.swap.signedBy lookup.swap viewer = signable.signedBy lookup viewer := by
  have parent : signable.swap.parent lookup.swap = (signable.parent lookup).map Contract.swap := by
    cases signable <;> rfl
  have signatures : signable.swap.signatures = signable.signatures.swap := by
    cases signable <;> rfl
  rw [signedBy, signedBy, parent]
  cases found : signable.parent lookup with
  | none => rfl
  | some held =>
    rw [Option.map_some]
    simp only [Contract.seatOf_swap (different held found), signatures]
    cases held.seatOf viewer with
    | none => rfl
    | some seat => exact Signatures.of_swap_other signable.signatures seat

/-! ### Statuses -/

namespace Payout

variable {lookup : Lookup}

theorem signedAcross_swap (distinct : lookup.Distinct) (payout : Payout) (viewer : PlayerId) :
    payout.swap.signedAcross lookup.swap viewer = payout.signedAcross lookup viewer := by
  have signed : (Signable.payout payout.swap).signedBy lookup.swap =
      (Signable.payout payout).signedBy lookup :=
    funext fun _ => Signable.signedBy_swap (.payout payout) (distinct payout.contract) _
  rw [signedAcross, signedAcross, signed]
  change (((lookup.contract payout.contract).map Contract.swap).bind _).any _ = _
  cases found : lookup.contract payout.contract with
  | none => rfl
  | some held =>
    rw [Option.map_some, Option.bind_some, Option.bind_some,
      Contract.counterparty_swap (distinct _ held found)]

theorem status_swap (distinct : lookup.Distinct) (payout : Payout) (viewer : PlayerId) :
    payout.swap.status lookup.swap viewer = payout.status lookup viewer := by
  refine status_ext (Signatures.playerCount_swap _) rfl rfl rfl (fun _ => ?_) (fun _ => ?_)
  · exact Signable.signedBy_swap (.payout payout) (distinct payout.contract) viewer
  · exact signedAcross_swap distinct payout viewer

end Payout

namespace Contract

variable {lookup : Lookup} {contract : Contract}

/-- A contract is its own parent, whatever is in the lookup. -/
theorem signedBy_swap (different : contract.playerOne ≠ contract.playerTwo) (viewer : PlayerId) :
    (Signable.contract contract.swap).signedBy lookup.swap viewer =
      (Signable.contract contract).signedBy lookup viewer := by
  refine Signable.signedBy_swap (.contract contract) ?_ viewer
  rintro held ⟨⟩
  exact different

theorem status_swap (distinct : lookup.Distinct)
    (different : contract.playerOne ≠ contract.playerTwo) (viewer : PlayerId) :
    contract.swap.status lookup.swap viewer = contract.status lookup viewer := by
  refine status_ext (Signatures.playerCount_swap _) rfl rfl (fun _ => ?_) (fun _ => ?_)
  · exact signedBy_swap different viewer
  · change ((lookup.payout contract.id).map Payout.swap).map _ = _
    rw [Option.map_map]
    exact congrArg (Option.map · _) (funext fun p => Payout.status_swap distinct p viewer)

end Contract

/--
Whoever looks sees the same status in a swapped contract or payout, through the
swapped lookup, as in the original one, and the same signatures of the same players.
At a swapped contract, each party has the other seat and the same player across.
-/
theorem seats_interchangeable {lookup : Lookup} (distinct : lookup.Distinct) :
    (∀ (payout : Payout) (viewer : PlayerId),
      payout.swap.status lookup.swap viewer = payout.status lookup viewer ∧
        (Signable.payout payout.swap).signedBy lookup.swap viewer =
          (Signable.payout payout).signedBy lookup viewer) ∧
    ∀ contract : Contract, contract.playerOne ≠ contract.playerTwo → ∀ viewer : PlayerId,
      contract.swap.status lookup.swap viewer = contract.status lookup viewer ∧
        contract.swap.seatOf viewer = (contract.seatOf viewer).map Seat.other ∧
        (Signable.contract contract.swap).signedBy lookup.swap viewer =
          (Signable.contract contract).signedBy lookup viewer ∧
        contract.swap.counterparty viewer = contract.counterparty viewer := by
  refine ⟨fun payout viewer => ⟨?_, ?_⟩, fun contract different viewer => ⟨?_, ?_, ?_, ?_⟩⟩
  · exact Payout.status_swap distinct payout viewer
  · exact Signable.signedBy_swap (.payout payout) (distinct payout.contract) viewer
  · exact Contract.status_swap distinct different viewer
  · exact Contract.seatOf_swap different viewer
  · exact Contract.signedBy_swap different viewer
  · exact Contract.counterparty_swap different viewer

/-- A contract of Alice with herself would look different from its second seat. -/
example :
    let alone := { Contract.bet ⟨true, false, false⟩ .unbroadcast with playerTwo := ⟨"alice"⟩ }
    let lookup : Lookup := ⟨fun _ => none, fun _ => none⟩
    alone.status lookup ⟨"alice"⟩ = .signed ∧
      alone.swap.status lookup.swap ⟨"alice"⟩ = .received := by
  decide +kernel

/-- Alice has signed on the first seat. From the second one it looks just the same to Bob. -/
theorem seats_interchangeable_bet :
    let payout := Payout.ofBet ⟨true, false, false⟩ false .unbroadcast
    let funded := Contract.bet ⟨true, true, true⟩ .confirmed
    let lookup : Lookup := ⟨fun _ => some funded, fun _ => some payout⟩
    lookup.Distinct ∧ payout.swap.signatures = ⟨false, true, false⟩ ∧
      funded.status lookup ⟨"bob"⟩ = .payoutReceived ∧
      funded.swap.status lookup.swap ⟨"bob"⟩ = .payoutReceived ∧
      payout.swap.status lookup.swap ⟨"alice"⟩ = .weSigned ∧
      funded.swap.seatOf ⟨"alice"⟩ = some .two := by
  intro payout funded lookup
  have distinct : lookup.Distinct := by
    rintro id contract ⟨⟩
    decide
  obtain ⟨payouts, contracts⟩ := seats_interchangeable distinct
  obtain ⟨received, _⟩ := contracts funded (by decide) ⟨"bob"⟩
  obtain ⟨_, seated, _⟩ := contracts funded (by decide) ⟨"alice"⟩
  have waits : funded.status lookup ⟨"bob"⟩ = .payoutReceived := by decide +kernel
  have mine : payout.status lookup ⟨"alice"⟩ = .weSigned := by decide +kernel
  exact ⟨distinct, rfl, waits, received.trans waits, (payouts payout _).1.trans mine, seated⟩

end ArbitratedEscrow
