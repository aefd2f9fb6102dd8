import ArbitratedEscrow.Proofs.Lifecycle.Standing

/-!
# What a status depends on

A payout's status depends on its signatures, its token mark, its transaction, and
on who the parties of its contract are; nothing else of the lookup counts. A
contract's status depends on its own signatures, funding and parties, and on how
its payout is seen. `Payout.status_ext` and `Contract.status_ext` say so of two
players who look at two records in two places: of who has signed, they compare
how many players, whether the arbiter, and what the viewer makes of it, the last
only where it counts.
-/

namespace ArbitratedEscrow

namespace Signatures

variable {signatures : Signatures}

theorem blank_iff :
    signatures = .blank ↔ signatures.playerCount = 0 ∧ signatures.arbiter = false := by
  obtain ⟨one, two, arbiter⟩ := signatures
  cases one <;> cases two <;> cases arbiter <;> decide

theorem both_iff {certified : Bool} : signatures = ⟨true, true, certified⟩ ↔
    signatures.playerCount = 2 ∧ signatures.arbiter = certified := by
  obtain ⟨one, two, arbiter⟩ := signatures
  cases one <;> cases two <;> cases arbiter <;> cases certified <;> decide

end Signatures

/-! ### Statuses of what is alike -/

theorem Payout.status_ext {a b : Lookup} {p q : Payout} {v w : PlayerId}
    (players : p.signatures.playerCount = q.signatures.playerCount)
    (arbiter : p.signatures.arbiter = q.signatures.arbiter) (token : p.withToken = q.withToken)
    (transaction : p.transaction = q.transaction)
    (own : p.Open → p.signedByViewer a v = q.signedByViewer b w)
    (across : p.Open → p.signedAcross a v = q.signedAcross b w) :
    p.status a v = q.status b w := by
  have quorum : p.signatures.Quorum ↔ q.signatures.Quorum := by
    rw [Signatures.Quorum, Signatures.Quorum, players, arbiter]
  have blank : p.signatures = .blank ↔ q.signatures = .blank := by
    rw [Signatures.blank_iff, Signatures.blank_iff, players, arbiter]
  have open_iff : p.Open ↔ q.Open := by
    rw [Open, Open, transaction, quorum]
  have shows_of_shows : ∀ status, q.Shows b w status → p.Shows a v status := by
    intro status shown
    cases status with
    | resolved | broadcast => exact transaction.trans shown
    | certified => exact ⟨transaction.trans shown.1, quorum.mpr shown.2⟩
    | weSigned | weSignedWithToken =>
      obtain ⟨isOpen, signed, marked⟩ := shown
      have isOpen := open_iff.mpr isOpen
      exact ⟨isOpen, (own isOpen).trans signed, token.trans marked⟩
    | theySigned =>
      obtain ⟨isOpen, unsigned, signed⟩ := shown
      have isOpen := open_iff.mpr isOpen
      exact ⟨isOpen, (own isOpen).trans unsigned, (across isOpen).trans signed⟩
    | unsigned =>
      obtain ⟨isOpen, unsigned, apart, clear⟩ := shown
      have isOpen := open_iff.mpr isOpen
      exact ⟨isOpen, (own isOpen).trans unsigned, (across isOpen).trans apart, blank.mpr clear⟩
    | invalid =>
      obtain ⟨isOpen, unsigned, apart, marked⟩ := shown
      have isOpen := open_iff.mpr isOpen
      exact ⟨isOpen, (own isOpen).trans unsigned, (across isOpen).trans apart, mt blank.mp marked⟩
  exact status_eq_iff.mpr (shows_of_shows _ (status_eq_iff.mp rfl))

theorem Contract.status_ext {a b : Lookup} {c d : Contract} {v w : PlayerId}
    (players : c.signatures.playerCount = d.signatures.playerCount)
    (arbiter : c.signatures.arbiter = d.signatures.arbiter) (funding : c.funding = d.funding)
    (own : c.HalfSigned → c.signedByViewer a v = d.signedByViewer b w)
    (payouts : c.Funded →
      (a.payout c.id).map (·.status a v) = (b.payout d.id).map (·.status b w)) :
    c.status a v = d.status b w := by
  have blank : c.signatures = .blank ↔ d.signatures = .blank := by
    rw [Signatures.blank_iff, Signatures.blank_iff, players, arbiter]
  have both : ∀ certified, c.signatures = ⟨true, true, certified⟩ ↔
      d.signatures = ⟨true, true, certified⟩ := by
    intro certified
    rw [Signatures.both_iff, Signatures.both_iff, players, arbiter]
  have half : c.HalfSigned ↔ d.HalfSigned := by rw [HalfSigned, HalfSigned, players, arbiter]
  have funded : c.Funded ↔ d.Funded := by rw [Funded, Funded, both, funding]
  have shows_of_shows : ∀ status, d.Shows b w status → c.Shows a v status := by
    intro status shown
    cases status with
    | unsigned => exact blank.mpr shown
    | signed | received =>
      obtain ⟨halfSigned, told⟩ := shown
      have halfSigned := half.mpr halfSigned
      exact ⟨halfSigned, (own halfSigned).trans told⟩
    | playersSigned => exact (both false).mpr shown
    | certified | fundingBroadcast => exact ⟨(both true).mpr shown.1, funding.trans shown.2⟩
    | live =>
      obtain ⟨isFunded, lapsed⟩ := shown
      have isFunded := funded.mpr isFunded
      refine ⟨isFunded, fun payout found => ?_⟩
      have same := payouts isFunded
      rw [found] at same
      obtain ⟨other, found', seen⟩ := Option.map_eq_some_iff.mp same.symm
      exact seen.symm.trans (lapsed other found')
    | payoutUnsigned | payoutSigned | payoutSignedWithToken | payoutReceived | payoutCertified
    | payoutBroadcast | resolved =>
      obtain ⟨isFunded, other, found', seen'⟩ := shown
      have isFunded := funded.mpr isFunded
      have same := payouts isFunded
      rw [found'] at same
      obtain ⟨payout, found, seen⟩ := Option.map_eq_some_iff.mp same
      exact ⟨isFunded, payout, found, seen.trans seen'⟩
    | invalid => exact ⟨arbiter.trans shown.1, mt (both true).mp shown.2⟩
  exact status_eq_iff.mpr (shows_of_shows _ (status_eq_iff.mp rfl))

/-! ### Lookups that name the same parties -/

namespace Contract

variable {c d : Contract}

theorem seatOf_congr (parties : c.player = d.player) : c.seatOf = d.seatOf := by
  have one : c.playerOne = d.playerOne := congrFun parties .one
  have two : c.playerTwo = d.playerTwo := congrFun parties .two
  funext viewer
  rw [seatOf, seatOf, one, two]

theorem counterparty_congr (parties : c.player = d.player) : c.counterparty = d.counterparty := by
  funext viewer
  rw [counterparty, counterparty, seatOf_congr parties, parties]

end Contract

/-- Two lookups name the same parties, if any, for the contracts of two identifiers. -/
def Lookup.SameParties (a b : Lookup) (i j : ContractId) : Prop :=
  (a.contract i).map Contract.player = (b.contract j).map Contract.player

theorem Lookup.SameParties.cases {a b : Lookup} {i j : ContractId} (same : a.SameParties b i j) :
    (a.contract i = none ∧ b.contract j = none) ∨
      ∃ c d, a.contract i = some c ∧ b.contract j = some d ∧ c.player = d.player := by
  rw [SameParties] at same
  cases left : a.contract i with
  | none =>
    cases right : b.contract j with
    | none => exact Or.inl ⟨rfl, rfl⟩
    | some d => simp [left, right] at same
  | some c =>
    cases right : b.contract j with
    | none => simp [left, right] at same
    | some d => exact Or.inr ⟨c, d, rfl, rfl, by simpa [left, right] using same⟩

namespace Payout

variable {a b : Lookup} {p q : Payout} {viewer : PlayerId}

theorem signedBy_congr (signatures : p.signatures = q.signatures)
    (parties : a.SameParties b p.contract q.contract) :
    (Signable.payout p).signedBy a = (Signable.payout q).signedBy b := by
  funext viewer
  rcases parties.cases with ⟨left, right⟩ | ⟨c, d, left, right, same⟩
  · simp only [Signable.signedBy, Signable.parent, left, right]
  · simp only [Signable.signedBy, Signable.parent, left, right, Signable.signatures, signatures,
      Contract.seatOf_congr same]

theorem signedAcross_congr (signatures : p.signatures = q.signatures)
    (parties : a.SameParties b p.contract q.contract) :
    p.signedAcross a viewer = q.signedAcross b viewer := by
  rw [signedAcross, signedAcross, signedBy_congr signatures parties]
  rcases parties.cases with ⟨left, right⟩ | ⟨c, d, left, right, same⟩
  · rw [left, right]
  · rw [left, right, Option.bind_some, Option.bind_some, Contract.counterparty_congr same]

theorem status_congr (signatures : p.signatures = q.signatures)
    (token : p.withToken = q.withToken) (transaction : p.transaction = q.transaction)
    (parties : a.SameParties b p.contract q.contract) :
    p.status a viewer = q.status b viewer := by
  refine status_ext ?_ ?_ token transaction (fun _ => ?_) (fun _ => ?_)
  · rw [signatures]
  · rw [signatures]
  · exact congrFun (signedBy_congr signatures parties) viewer
  · exact signedAcross_congr signatures parties

/-- Where a payout stands that is out, or may go out, is plain to everyone, wherever they look. -/
theorem status_of_not_open (closed : ¬ p.Open) (v w : PlayerId) : p.status a v = p.status b w :=
  status_ext rfl rfl rfl rfl (fun isOpen => False.elim (closed isOpen))
    (fun isOpen => False.elim (closed isOpen))

end Payout

theorem Contract.status_congr {a b : Lookup} {c d : Contract} {viewer : PlayerId}
    (signatures : c.signatures = d.signatures) (funding : c.funding = d.funding)
    (parties : c.player = d.player)
    (payouts : (a.payout c.id).map (·.status a viewer) = (b.payout d.id).map (·.status b viewer)) :
    c.status a viewer = d.status b viewer := by
  refine status_ext ?_ ?_ funding (fun _ => ?_) (fun _ => payouts)
  · rw [signatures]
  · rw [signatures]
  · simp only [signedByViewer, Signable.signedBy, Signable.parent, Signable.signatures, signatures,
      seatOf_congr parties]

/--
A payout is seen alike through any two lookups that name the same parties for its
contract, or none, whatever else is in them. A contract is seen alike if, besides,
both have the same payout for it. A payout that is out, or that two of three have
signed, looks the same to everyone in every lookup, and so does a contract with it,
unless the contract itself is signed by just one player.
-/
theorem statuses_local :
    (∀ (p : Payout) (a b : Lookup) (viewer : PlayerId), a.SameParties b p.contract p.contract →
      p.status a viewer = p.status b viewer) ∧
    (∀ (c : Contract) (a b : Lookup) (viewer : PlayerId), a.payout c.id = b.payout c.id →
      (∀ p, a.payout c.id = some p → a.SameParties b p.contract p.contract) →
      c.status a viewer = c.status b viewer) ∧
    ∀ p : Payout, p.transaction ≠ .unbroadcast ∨ p.signatures.Quorum →
      ∀ (a b : Lookup) (v w : PlayerId), p.status a v = p.status b w ∧
        ∀ c : Contract, ¬ c.HalfSigned → a.payout c.id = some p → b.payout c.id = some p →
          c.status a v = c.status b w := by
  refine ⟨fun p a b viewer parties => ?_, fun c a b viewer same parties => ?_,
    fun p settled a b v w => ?_⟩
  · exact Payout.status_congr rfl rfl rfl parties
  · refine Contract.status_congr rfl rfl rfl ?_
    rw [← same]
    refine Option.map_congr fun p found => ?_
    exact Payout.status_congr rfl rfl rfl (parties p found)
  · have closed : ¬ p.Open := by
      rintro ⟨unbroadcast, short⟩
      rcases settled with out | quorum
      · exact out unbroadcast
      · exact short quorum
    refine ⟨Payout.status_of_not_open closed v w, fun c whole left right => ?_⟩
    refine Contract.status_ext rfl rfl rfl (fun half => False.elim (whole half)) fun _ => ?_
    rw [left, right, Option.map_some, Option.map_some, Payout.status_of_not_open closed v w]

def Contract.bet (signatures : Signatures) (funding : TxStatus) : Contract :=
  ⟨⟨"bet"⟩, ⟨"alice"⟩, ⟨"bob"⟩, 100, "", signatures, funding, .epoch⟩

def Payout.ofBet (signatures : Signatures) (withToken : Bool) (transaction : TxStatus) : Payout :=
  ⟨⟨"bet"⟩, 60, 40, signatures, withToken, transaction, .epoch⟩

/-- Two lookups have just the parties in common; once a payout is out, not even they matter. -/
theorem statuses_local_bet :
    let half := Payout.ofBet ⟨true, false, false⟩ false .unbroadcast
    let out := Payout.ofBet ⟨true, false, false⟩ false .broadcast
    let funded := Contract.bet ⟨true, true, true⟩ .confirmed
    let other := { Contract.bet ⟨false, true, true⟩ .broadcast with id := ⟨"other"⟩, amount := 1 }
    let a : Lookup := ⟨fun _ => some funded, fun _ => some half⟩
    let b : Lookup := ⟨fun id => if id = ⟨"bet"⟩ then some other else none, fun _ => some half⟩
    let c : Lookup := ⟨fun _ => some funded, fun _ => some out⟩
    let d : Lookup := ⟨fun _ => none, fun _ => some out⟩
    half.status a ⟨"alice"⟩ = .weSigned ∧ half.status b ⟨"alice"⟩ = .weSigned ∧
      funded.status a ⟨"bob"⟩ = .payoutReceived ∧ funded.status b ⟨"bob"⟩ = .payoutReceived ∧
      out.status c ⟨"alice"⟩ = .broadcast ∧ out.status d ⟨"carol"⟩ = .broadcast ∧
      funded.status c ⟨"alice"⟩ = .payoutBroadcast ∧
      funded.status d ⟨"carol"⟩ = .payoutBroadcast := by
  intro half out funded other a b c d
  obtain ⟨payouts, contracts, settled⟩ := statuses_local
  have parties : a.SameParties b ⟨"bet"⟩ ⟨"bet"⟩ := by
    have found : b.contract ⟨"bet"⟩ = some other := by simp [b]
    rw [Lookup.SameParties, found]
    rfl
  have mine : half.status a ⟨"alice"⟩ = .weSigned := by decide +kernel
  have received : funded.status a ⟨"bob"⟩ = .payoutReceived := by decide +kernel
  have sent : out.status c ⟨"alice"⟩ = .broadcast := rfl
  have told : funded.status c ⟨"alice"⟩ = .payoutBroadcast := rfl
  obtain ⟨sent_alike, told_alike⟩ := settled out (Or.inl (by decide)) c d ⟨"alice"⟩ ⟨"carol"⟩
  have whole : ¬ funded.HalfSigned := by
    rintro ⟨_, one⟩
    cases one
  refine ⟨mine, (payouts half a b _ parties).symm.trans mine, received, ?_, sent,
    sent_alike.symm.trans sent, told, (told_alike funded whole rfl rfl).symm.trans told⟩
  refine (contracts funded a b _ rfl fun p found => ?_).symm.trans received
  cases found
  exact parties

end ArbitratedEscrow
