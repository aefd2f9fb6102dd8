import ArbitratedEscrow.Proofs.Office.Invariant
import ArbitratedEscrow.Proofs.Operation.Success
import ArbitratedEscrow.Proofs.Text.Joint

/-!
# How a new contract is put to the wallet

The command for a new contract names both players between quotes, as they are
called, and then the pot. The pot can always be told from it. The names can,
unless one of them has in it what stands between the two: commands of different
names are the same exactly if the quotes between them can be read at two places
(`Command.text_newContract_eq_iff`). Names without a quote are always told.
-/

namespace ArbitratedEscrow

namespace Wallet.Command

def betweenNames : String := "\"" ++ " " ++ "\""

theorem text_newContract (one two : String) (amount : Amount) :
    (newContract one two amount).text =
      "contract new " ++ "\"" ++ (one ++ betweenNames ++ two) ++ "\"" ++ " " ++
        Text.ofUInt64 amount := by
  have words : (newContract one two amount).text =
    "contract new " ++ quoted one ++ " " ++ quoted two ++ " " ++ Text.ofUInt64 amount := rfl
  rw [words, quoted, quoted, betweenNames]
  simp only [String.append_assoc]

/-- No digit is a quote. -/
theorem quote_notMem_amount (amount : Amount) : '"' ∉ ' ' :: (Text.ofUInt64 amount).toList := by
  intro member
  rw [Text.ofUInt64, Text.ofNat, String.toList_ofList] at member
  rcases List.mem_cons.mp member with blank | digit
  · exact absurd blank (by decide)
  · exact absurd (Nat.isDigit_of_mem_toDigits (by decide) (by decide) digit) (by decide)

theorem ofUInt64_inj {amount amount' : Amount}
    (same : (Text.ofUInt64 amount).toList = (Text.ofUInt64 amount').toList) :
    amount = amount' := by
  rw [Text.ofUInt64, Text.ofUInt64, Text.ofNat, Text.ofNat, String.toList_ofList,
    String.toList_ofList] at same
  have read := congrArg Text.ofDigits same
  rw [Text.ofDigits_digits, Text.ofDigits_digits] at read
  exact UInt64.toNat_inj.mp read

variable {one two one' two' : String} {amount amount' : Amount}

/-- The pot comes after the last quote; what comes before it is both names with a joint. -/
theorem text_newContract_eq_iff :
    (newContract one two amount).text = (newContract one' two' amount').text ↔
      amount = amount' ∧ ((one = one' ∧ two = two') ∨
        Text.Slides betweenNames one two one' two' ∨
        Text.Slides betweenNames one' two' one two) := by
  rw [← Text.joined_eq_iff, text_newContract, text_newContract]
  constructor
  · intro same
    have closing : ∀ (n : Amount) (start : String),
        (start ++ "\"" ++ " " ++ Text.ofUInt64 n).toList =
          start.toList ++ '"' :: ' ' :: (Text.ofUInt64 n).toList := fun n start => by simp
    have letters := congrArg String.toList same
    rw [closing, closing] at letters
    obtain ⟨front, pots⟩ := Text.eq_of_append_cons (quote_notMem_amount amount)
      (quote_notMem_amount amount') letters
    have names := (String.append_right_inj _).mp (String.toList_inj.mp front)
    exact ⟨ofUInt64_inj (List.cons.inj pots).2, names⟩
  · rintro ⟨rfl, names⟩
    rw [names]

/-- The longer of two first names that are confused has a quote in it. -/
theorem quote_mem_of_slides (slides : Text.Slides betweenNames one two one' two') :
    '"' ∈ one'.toList :=
  slides.mem rfl

end Wallet.Command

namespace Office

variable {playerOne playerTwo playerOne' playerTwo' : PlayerId} {amount amount' : Amount}
  {description description' : String} {request request' : Wallet.Request} {commit commit' : Commit}

/-- A new contract is put to the wallet by the names of two players who are there. -/
theorem named_of_asks {settings : Settings} {ledger : Ledger}
    (asks : (Operation.newContract playerOne playerTwo amount description).check settings ledger =
      .ok (.asks request commit)) :
    ∃ one two, ledger.player? playerOne = some one ∧ ledger.player? playerTwo = some two ∧
      request.command = .newContract one.name two.name amount := by
  have due := Operation.due_of_check asks
  cases due with
  | newContract _ _ oneStored twoStored => exact ⟨_, _, oneStored, twoStored, rfl⟩

/--
After any run, two new contracts are put to the wallet in the same words exactly
if their pots are the same and the players have the same names, or names between
which the quotes can be read at two places. That takes a quote in a first name.
-/
theorem wording_told (settings : Settings) (ids : IdSource) (events : List Event)
    (asks : (Operation.newContract playerOne playerTwo amount description).check settings
      (ledgerAfter settings ids events) = .ok (.asks request commit))
    (asks' : (Operation.newContract playerOne' playerTwo' amount' description').check settings
      (ledgerAfter settings ids events) = .ok (.asks request' commit')) :
    ∃ one two one' two',
      (ledgerAfter settings ids events).player? playerOne = some one ∧
      (ledgerAfter settings ids events).player? playerTwo = some two ∧
      (ledgerAfter settings ids events).player? playerOne' = some one' ∧
      (ledgerAfter settings ids events).player? playerTwo' = some two' ∧
      (request.command.text = request'.command.text ↔
        amount = amount' ∧ ((one.name = one'.name ∧ two.name = two'.name) ∨
          Text.Slides Wallet.Command.betweenNames one.name two.name one'.name two'.name ∨
          Text.Slides Wallet.Command.betweenNames one'.name two'.name one.name two.name)) ∧
      ('"' ∉ one.name.toList → '"' ∉ one'.name.toList →
        request.command.text = request'.command.text →
          playerOne = playerOne' ∧ playerTwo = playerTwo' ∧ amount = amount') := by
  obtain ⟨one, two, oneStored, twoStored, command⟩ := named_of_asks asks
  obtain ⟨one', two', oneStored', twoStored', command'⟩ := named_of_asks asks'
  have told : request.command.text = request'.command.text ↔
      amount = amount' ∧ ((one.name = one'.name ∧ two.name = two'.name) ∨
        Text.Slides Wallet.Command.betweenNames one.name two.name one'.name two'.name ∨
        Text.Slides Wallet.Command.betweenNames one'.name two'.name one.name two.name) := by
    rw [command, command']
    exact Wallet.Command.text_newContract_eq_iff
  refine ⟨one, two, one', two', oneStored, twoStored, oneStored', twoStored', told, ?_⟩
  intro plain plain' same
  obtain ⟨pots, ⟨first, second⟩ | slides | slides⟩ := told.mp same
  · -- no two players of a ledger share a name
    have wellFormed := (holds_wellFormed settings ids events).here
    exact ⟨wellFormed.names_distinct oneStored oneStored' first,
      wellFormed.names_distinct twoStored twoStored' second, pots⟩
  · exact absurd (Wallet.Command.quote_mem_of_slides slides) plain'
  · exact absurd (Wallet.Command.quote_mem_of_slides slides) plain

/-- Four players, two of whom have names with quotes in them. -/
def quotedNames : List Event :=
  ["ann", "bob\" \"cat", "ann\" \"bob", "cat"].map fun name =>
    .operation (.addPlayer name) .epoch carriedOut

def quotedPlayer (n : Nat) (name : String) : Player :=
  ⟨⟨(wagerIds.nth n).text⟩, name, Player.defaultPicture, false⟩

def quotedLedger : Ledger := ledgerAfter (.forNetwork .regtest) wagerIds quotedNames

theorem stored_quotedNames :
    ∀ player ∈ [quotedPlayer 0 "ann", quotedPlayer 1 "bob\" \"cat",
      quotedPlayer 2 "ann\" \"bob", quotedPlayer 3 "cat"],
      quotedLedger.player? player.id = some player := by
  decide +kernel

theorem asks_of_stored {settings : Settings} {ledger : Ledger} {one two : Player}
    (different : one.id ≠ two.id) (positive : amount ≠ 0)
    (oneStored : ledger.player? one.id = some one)
    (twoStored : ledger.player? two.id = some two) :
    (Operation.newContract one.id two.id amount description).check settings ledger =
      .ok (.asks ⟨.newContract one.name two.name amount, none⟩
        (.fileContract one.id two.id amount description)) :=
  Operation.check_of_grants (.newContract different positive oneStored twoStored)

/-- Ann and Cat have no quotes in their names: it can be told who comes first. -/
theorem wording_told_plain :
    ∃ request request' commit commit',
      (Operation.newContract (quotedPlayer 0 "ann").id (quotedPlayer 3 "cat").id 5 "").check
        (.forNetwork .regtest) quotedLedger = .ok (.asks request commit) ∧
      (Operation.newContract (quotedPlayer 3 "cat").id (quotedPlayer 0 "ann").id 5 "").check
        (.forNetwork .regtest) quotedLedger = .ok (.asks request' commit') ∧
      request.command.text ≠ request'.command.text := by
  have different : (quotedPlayer 0 "ann").id ≠ (quotedPlayer 3 "cat").id := by decide +kernel
  have ann := stored_quotedNames (quotedPlayer 0 "ann") (by simp)
  have cat := stored_quotedNames (quotedPlayer 3 "cat") (by simp)
  have asks : (Operation.newContract _ _ 5 "").check (.forNetwork .regtest) quotedLedger = _ :=
    asks_of_stored different (by decide) ann cat
  have asks' : (Operation.newContract _ _ 5 "").check (.forNetwork .regtest) quotedLedger = _ :=
    asks_of_stored different.symm (by decide) cat ann
  refine ⟨_, _, _, _, asks, asks', fun same => ?_⟩
  obtain ⟨one, _, one', _, oneStored, _, oneStored', _, _, plain⟩ :=
    wording_told (.forNetwork .regtest) wagerIds quotedNames asks asks'
  obtain rfl := Option.some.inj (ann.symm.trans oneStored)
  obtain rfl := Option.some.inj (cat.symm.trans oneStored')
  exact different (plain (by decide) (by decide) same).1

/-- Ann may play against one player or Cat against another one: the wallet cannot tell. -/
theorem wording_shared :
    ∃ request request' commit commit',
      (Operation.newContract (quotedPlayer 0 "ann").id (quotedPlayer 1 "bob\" \"cat").id 5 "").check
        (.forNetwork .regtest) quotedLedger = .ok (.asks request commit) ∧
      (Operation.newContract (quotedPlayer 2 "ann\" \"bob").id (quotedPlayer 3 "cat").id 5 "").check
        (.forNetwork .regtest) quotedLedger = .ok (.asks request' commit') ∧
      request.command.text = request'.command.text ∧
      (quotedLedger.player? (quotedPlayer 0 "ann").id).map Player.name = some "ann" ∧
      (quotedLedger.player? (quotedPlayer 2 "ann\" \"bob").id).map Player.name =
        some "ann\" \"bob" := by
  have ann := stored_quotedNames (quotedPlayer 0 "ann") (by simp)
  have bobcat := stored_quotedNames (quotedPlayer 1 "bob\" \"cat") (by simp)
  have annbob := stored_quotedNames (quotedPlayer 2 "ann\" \"bob") (by simp)
  have cat := stored_quotedNames (quotedPlayer 3 "cat") (by simp)
  refine ⟨_, _, _, _, asks_of_stored (by decide +kernel) (by decide) ann bobcat,
    asks_of_stored (by decide +kernel) (by decide) annbob cat, ?_, ?_, ?_⟩
  · rfl
  · rw [ann]
    rfl
  · rw [annbob]
    rfl

end Office

end ArbitratedEscrow
