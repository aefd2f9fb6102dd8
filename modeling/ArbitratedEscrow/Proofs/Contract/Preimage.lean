import ArbitratedEscrow.Contract
import ArbitratedEscrow.Proofs.Text.Joint

/-!
# What an identifier commits to

The bytes that an identifier of a contract is the hash of have no marks between
their parts. Pot and nonce stand at the end in a fixed number of bytes and can
always be told from them; the two players can be told apart by the length of the
first one's identifier, and those that are drawn have all one length.

Nothing is said about the hash itself.
-/

namespace ArbitratedEscrow

theorem Uuid.bytes_inj {x y : Uuid} (same : x.bytes = y.bytes) : x = y := by
  obtain ⟨high, low⟩ := List.append_inj same (by simp)
  have fits : ∀ word : UInt64, word.toNat < 256 ^ 8 := fun word => word.toNat_lt
  have highs : x.high = y.high := UInt64.toNat_inj.mp (Text.bigEndian_inj (fits _) (fits _) high)
  have lows : x.low = y.low := UInt64.toNat_inj.mp (Text.bigEndian_inj (fits _) (fits _) low)
  cases x
  cases y
  exact congrArg₂ Uuid.mk highs lows

/-- Drawn identifiers have all one length. -/
theorem Uuid.length_text (id : Uuid) : id.text.length = 36 := by
  have digits : (Text.hex id.bytes).length = 32 := by simp
  simp only [text, String.length_ofList, List.length_append, List.length_cons, List.length_take,
    List.length_drop, digits]
  omega

namespace ContractId

variable {one two one' two' : PlayerId} {amount amount' : Amount} {nonce nonce' : Uuid}

/-- The bytes tell pot and nonce, and the two players as one text. -/
theorem preimage_eq_iff :
    preimage one two amount nonce = preimage one' two' amount' nonce' ↔
      one.text ++ two.text = one'.text ++ two'.text ∧ amount = amount' ∧ nonce = nonce' := by
  have joined : ∀ (p q : PlayerId) (n : Amount) (x : Uuid), preimage p q n x =
      Text.utf8 (p.text ++ q.text) ++ (Text.bigEndian 8 n.toNat ++ x.bytes) := by
    intro p q n x
    rw [preimage, Text.utf8_append, List.append_assoc]
  constructor
  · intro same
    rw [joined, joined] at same
    -- the last twenty-four bytes are those of pot and nonce
    obtain ⟨players, rest⟩ := List.append_inj' same (by simp)
    obtain ⟨pots, nonces⟩ := List.append_inj rest (by simp)
    have fits : ∀ n : Amount, n.toNat < 256 ^ 8 := fun n => n.toNat_lt
    exact ⟨Text.utf8_inj players,
      UInt64.toNat_inj.mp (Text.bigEndian_inj (fits _) (fits _) pots), Uuid.bytes_inj nonces⟩
  · rintro ⟨players, rfl, rfl⟩
    rw [joined, joined, players]

/--
Equal bytes come from equal pots, equal nonces, and either the same two players or
two whose identifiers share their letters out differently. If the first players'
identifiers were drawn, the players are the same.
-/
theorem terms_committed (one two one' two' : PlayerId) (amount amount' : Amount)
    (nonce nonce' : Uuid) :
    (preimage one two amount nonce = preimage one' two' amount' nonce' ↔
      amount = amount' ∧ nonce = nonce' ∧ ((one = one' ∧ two = two') ∨
        Text.Slides "" one.text two.text one'.text two'.text ∨
        Text.Slides "" one'.text two'.text one.text two.text)) ∧
    ∀ x y : Uuid, one.text = x.text → one'.text = y.text →
      preimage one two amount nonce = preimage one' two' amount' nonce' →
        one = one' ∧ two = two' ∧ amount = amount' ∧ nonce = nonce' := by
  have shared : one.text ++ two.text = one'.text ++ two'.text ↔ (one = one' ∧ two = two') ∨
      Text.Slides "" one.text two.text one'.text two'.text ∨
      Text.Slides "" one'.text two'.text one.text two.text := by
    have texts : ∀ p q : PlayerId, p.text = q.text ↔ p = q := fun p q =>
      ⟨fun same => Key.text_injective same, congrArg PlayerId.text⟩
    have told := @Text.joined_eq_iff "" one.text two.text one'.text two'.text
    rwa [String.append_empty, String.append_empty, texts one one', texts two two'] at told
  constructor
  · rw [preimage_eq_iff, shared]
    exact ⟨fun ⟨players, pots, nonces⟩ => ⟨pots, nonces, players⟩,
      fun ⟨pots, nonces, players⟩ => ⟨players, pots, nonces⟩⟩
  · intro x y drawn drawn' same
    obtain ⟨players, pots, nonces⟩ := preimage_eq_iff.mp same
    have even : one.text.length = one'.text.length := by
      rw [drawn, drawn', Uuid.length_text, Uuid.length_text]
    rcases shared.mp players with ⟨first, second⟩ | slides | slides
    · exact ⟨first, second, pots, nonces⟩
    · exact absurd slides.length_lt (by omega)
    · exact absurd slides.length_lt (by omega)

/-- Two players who were drawn make two contracts with a third one, even of one nonce. -/
theorem terms_committed_drawn :
    let ids := IdSource.ofSeed 7
    let third : PlayerId := ⟨"carol"⟩
    preimage ⟨(ids.nth 0).text⟩ third 100 (ids.nth 2) ≠
      preimage ⟨(ids.nth 1).text⟩ third 100 (ids.nth 2) := by
  intro ids third same
  have told := (terms_committed ⟨(ids.nth 0).text⟩ third ⟨(ids.nth 1).text⟩ third 100 100
    (ids.nth 2) (ids.nth 2)).2 (ids.nth 0) (ids.nth 1) rfl rfl same
  exact absurd told.1 (by decide +kernel)

/-- Bob with Carol and Bobca with Rol are other players, with one identifier for their contract. -/
theorem terms_shared :
    let nonce := (IdSource.ofSeed 1).nth 0
    preimage ⟨"bob"⟩ ⟨"carol"⟩ 5 nonce = preimage ⟨"bobca"⟩ ⟨"rol"⟩ 5 nonce ∧
      ofTerms ⟨"bob"⟩ ⟨"carol"⟩ 5 nonce = ofTerms ⟨"bobca"⟩ ⟨"rol"⟩ 5 nonce ∧
      (⟨"bob"⟩ : PlayerId) ≠ ⟨"bobca"⟩ := by
  intro nonce
  have same : preimage ⟨"bob"⟩ ⟨"carol"⟩ 5 nonce = preimage ⟨"bobca"⟩ ⟨"rol"⟩ 5 nonce :=
    preimage_eq_iff.mpr ⟨rfl, rfl, rfl⟩
  refine ⟨same, ?_, by decide⟩
  rw [ofTerms, ofTerms, same]

end ContractId

end ArbitratedEscrow
