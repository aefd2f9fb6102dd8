import ArbitratedEscrow.Proofs.Office.Invariant
import ArbitratedEscrow.Proofs.Operation.Confined

/-!
# Steps of different contracts

Steps in the lives of two contracts do not get in each other's way. In either
order each comes to what it would come to alone, and what they leave behind is
the same (`Office.independent`). Only the instants of newly proposed payouts tell
in which order the steps were taken, if the clock has moved between them.
-/

namespace ArbitratedEscrow

namespace Operation

structure Pair where
  first : Except EscrowError Answer
  second : Except EscrowError Answer
  desk : Desk

/-- Runs an operation at an instant, and then another one at another. -/
def runBoth {σ : Type} (call : Wallet.Request → σ → Except EscrowError String × σ)
    (settings : Settings) (wallet : σ) (desk : Desk) (first second : Operation × Instant) : Pair :=
  let one := first.1.run call settings first.2 wallet desk
  let two := second.1.run call settings second.2 one.2.1 one.2.2
  ⟨one.1, two.1, two.2.2⟩

variable {σ : Type} {call : Wallet.Request → σ → Except EscrowError String × σ}
  {reply : Wallet.Request → Except EscrowError String} {settings : Settings} {desk : Desk}
  {a b : ContractId} {x y : Operation} {xResult yResult : Instant → Except EscrowError Answer}
  {xFill yFill : Instant → Slot}

/-- Two confined operations fill their slots one after the other. -/
theorem runBoth_of_confined (different : a ≠ b)
    (xConfined : Confined call settings x a desk.ledger xResult xFill)
    (yConfined : Confined call settings y b desk.ledger yResult yFill) (wallet : σ)
    (s t : Instant) :
    runBoth call settings wallet desk (x, s) (y, t) = ⟨xResult s, yResult t,
      desk.withLedger ((desk.ledger.withSlot a (xFill s)).withSlot b (yFill t))⟩ := by
  have here : desk.ledger.AgreesAt desk.ledger a := ⟨rfl, rfl⟩
  let next := desk.withLedger (desk.ledger.withSlot a (xFill s))
  have there : desk.ledger.AgreesAt next.ledger b := Ledger.agreesAt_withSlot different
  have moved : (x.run call settings s wallet desk).2.2 = next := xConfined.desk_eq s wallet desk here
  simp only [runBoth, xConfined.result_eq s wallet desk here, moved]
  rw [yConfined.result_eq t _ next there, yConfined.desk_eq t _ next there]
  rfl

/-- Two confined operations in the other order and at other instants. -/
theorem runBoth_swapped (different : a ≠ b)
    (xConfined : Confined call settings x a desk.ledger xResult xFill)
    (yConfined : Confined call settings y b desk.ledger yResult yFill) (wallet : σ)
    (s t s' t' : Instant) :
    let there := runBoth call settings wallet desk (x, s) (y, t)
    let back := runBoth call settings wallet desk (y, t') (x, s')
    back.second = x.redated s' there.first ∧ back.first = y.redated t' there.second ∧
      back.desk = there.desk.withLedger ((there.desk.ledger.redated a s'
        (x.proposed there.first)).redated b t' (y.proposed there.second)) := by
  intro there back
  have there_eq : there = _ := runBoth_of_confined different xConfined yConfined wallet s t
  have back_eq : back = _ := runBoth_of_confined different.symm yConfined xConfined wallet t' s'
  rw [there_eq, back_eq]
  refine ⟨xConfined.result_dated s s', yConfined.result_dated t t', ?_⟩
  have refilled : ((desk.ledger.withSlot a (xFill s)).withSlot b (yFill t)).redated a s'
        (x.proposed (xResult s)) = (desk.ledger.withSlot b (yFill t)).withSlot a (xFill s') := by
    rw [Ledger.withSlot_comm different, Ledger.redated, Ledger.slot_withSlot_self,
      Ledger.withSlot_withSlot, ← xConfined.fill_dated]
  have both : (((desk.ledger.withSlot a (xFill s)).withSlot b (yFill t)).redated a s'
        (x.proposed (xResult s))).redated b t' (y.proposed (yResult t)) =
      (desk.ledger.withSlot b (yFill t')).withSlot a (xFill s') := by
    rw [refilled, Ledger.withSlot_comm different.symm, Ledger.redated, Ledger.slot_withSlot_self,
      Ledger.withSlot_withSlot, ← yConfined.fill_dated, Ledger.withSlot_comm different]
  exact congrArg desk.withLedger both.symm

end Operation

namespace Office

def seen (ledger : Ledger) (id : ContractId) (viewer : PlayerId) :
    Option ContractStatus × Option PayoutStatus :=
  ((ledger.contract? id).map (·.status ledger.lookup viewer),
    (ledger.payout? id).map (·.status ledger.lookup viewer))

theorem seen_congr {ledger other : Ledger} {id : ContractId} (agrees : ledger.AgreesAt other id)
    (wellFormed : ledger.WellFormed) (viewer : PlayerId) :
    seen ledger id viewer = seen other id viewer := by
  refine Prod.ext ?_ ?_
  · change (ledger.contract? id).map _ = (other.contract? id).map _
    rw [← agrees.contract?]
    exact Option.map_congr fun contract stored => agrees.contractStatus wellFormed stored viewer
  · change (ledger.payout? id).map _ = (other.payout? id).map _
    rw [← agrees.payout?]
    exact Option.map_congr fun payout stored => agrees.payoutStatus wellFormed stored viewer

/--
After any run, a step of one contract's life and a step of another's, with a wallet
that goes by the request alone, fail or not as they would in the other order and
leave the same behind: exactly so if each is taken at the same instant both times,
else but for the instants of newly proposed payouts. The first leaves the second's
contract, its payout, and how anybody sees them as they are.
-/
theorem independent (settings : Settings) (ids : IdSource) (events : List Event)
    {a b : ContractId} (different : a ≠ b) {x y : Operation} (xActs : x.actsOn = some a)
    (yActs : y.actsOn = some b) {σ : Type}
    {call : Wallet.Request → σ → Except EscrowError String × σ}
    {reply : Wallet.Request → Except EscrowError String}
    (answers : ∀ request wallet, (call request wallet).1 = reply request) (wallet : σ)
    (s t s' t' : Instant) :
    let desk := (after settings (opening ids) events).desk
    let there := Operation.runBoth call settings wallet desk (x, s) (y, t)
    let back := Operation.runBoth call settings wallet desk (y, t') (x, s')
    (back.second = x.redated s' there.first ∧ back.first = y.redated t' there.second ∧
        back.desk = there.desk.withLedger ((there.desk.ledger.redated a s'
          (x.proposed there.first)).redated b t' (y.proposed there.second))) ∧
      (s' = s → t' = t → back.second = there.first ∧ back.first = there.second ∧
        back.desk = there.desk) ∧
      let left := (x.run call settings s wallet desk).2.2.ledger
      left.contract? b = desk.ledger.contract? b ∧ left.payout? b = desk.ledger.payout? b ∧
        ∀ viewer, seen left b viewer = seen desk.ledger b viewer := by
  intro desk there back
  have wellFormed : desk.ledger.WellFormed := (holds_wellFormed settings ids events).here
  obtain ⟨xResult, xFill, xConfined⟩ := Operation.confined_of_actsOn wellFormed xActs answers
  obtain ⟨yResult, yFill, yConfined⟩ := Operation.confined_of_actsOn wellFormed yActs answers
  refine ⟨Operation.runBoth_swapped different xConfined yConfined wallet s t s' t', ?_, ?_⟩
  · rintro rfl rfl
    have there_eq : there = _ :=
      Operation.runBoth_of_confined different xConfined yConfined wallet s' t'
    have back_eq : back = _ :=
      Operation.runBoth_of_confined different.symm yConfined xConfined wallet t' s'
    rw [there_eq, back_eq]
    exact ⟨rfl, rfl, congrArg desk.withLedger (Ledger.withSlot_comm different.symm)⟩
  · intro left
    have left_eq : left = desk.ledger.withSlot a (xFill s) :=
      congrArg Desk.ledger (xConfined.desk_eq s wallet desk ⟨rfl, rfl⟩)
    have agrees : desk.ledger.AgreesAt left b := left_eq ▸ Ledger.agreesAt_withSlot different
    exact ⟨agrees.contract?.symm, agrees.payout?.symm,
      fun viewer => (seen_congr agrees wellFormed viewer).symm⟩

/-- The run of the wager up to the funding, and another contract of the same players. -/
def twoContracts : List Event :=
  let alice : PlayerId := ⟨(wagerIds.nth 0).text⟩
  let bob : PlayerId := ⟨(wagerIds.nth 1).text⟩
  wager.take 10 ++ [.operation (.newContract bob alice 7 "again") .epoch carriedOut]

def secondId : ContractId :=
  .ofTerms ⟨(wagerIds.nth 1).text⟩ ⟨(wagerIds.nth 0).text⟩ 7 (wagerIds.nth 3)

def oneLater : Instant := ⟨1, 0, by decide, by decide, by decide⟩

/-- Bob proposes a payout of the one and signs the other, in either order; both go through. -/
theorem independent_twoContracts :
    let settings := Settings.forNetwork .regtest
    let call := fun (_ : Wallet.Request) (calls : Nat) => (carriedOut, calls + 1)
    let desk := (after settings (opening wagerIds) twoContracts).desk
    let propose := Operation.proposePayout wagerId 60 40
    let sign := Operation.signContract secondId ⟨"correct horse battery"⟩
    let there := Operation.runBoth call settings 0 desk (propose, .epoch) (sign, .epoch)
    let back := Operation.runBoth call settings 0 desk (sign, .epoch) (propose, oneLater)
    (there.first.isOk && there.second.isOk) = true ∧
      back.second = propose.redated oneLater there.first ∧
      back.first = sign.redated .epoch there.second := by
  intro settings call desk propose sign there back
  have different : wagerId ≠ secondId := by decide +kernel
  have answers : ∀ request calls, (call request calls).1 = (fun _ => carriedOut) request :=
    fun _ _ => rfl
  obtain ⟨⟨proposed, signed, _⟩, _⟩ :=
    independent settings wagerIds twoContracts different (x := propose) (y := sign) rfl rfl answers
      0 .epoch .epoch oneLater .epoch
  exact ⟨by decide +kernel, proposed, signed⟩

end Office

end ArbitratedEscrow
