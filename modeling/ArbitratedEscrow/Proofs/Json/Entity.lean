import ArbitratedEscrow.Json.Entity
import ArbitratedEscrow.Proofs.Json.Lines
import ArbitratedEscrow.Proofs.Time.Rfc3339
import Mathlib.Data.List.Nodup

/-!
# Records come back from their texts

Players, contracts, payouts, signatures and settings are written as records. What
the texts of each spell is given as a tree: its fields by name, in their order,
amounts as whole numbers and instants in RFC 3339. A record is read from its tree
as it was, and so from its text with or without line breaks.
-/

namespace ArbitratedEscrow

namespace Json

/-! ### Fields of records -/

namespace Tree

def record (fields : List (String × Tree)) : Tree :=
  .object (fields.map fun field => (some field.1, field.2))

theorem mapM_eq_some {α β : Type} {read : α → Option β} {value : α → β} {l : List α}
    (reads : ∀ a ∈ l, read a = some (value a)) : l.mapM read = some (l.map value) := by
  induction l with
  | nil => rfl
  | cons a l ih =>
    obtain ⟨first, later⟩ := List.forall_mem_cons.mp reads
    rw [List.mapM_cons, first, ih later]
    rfl

variable {fields : List (String × Tree)}

/-- A field is found under its name, if no other one has it. -/
theorem member_of_mem (distinct : (fields.map Prod.fst).Nodup) {field : String × Tree}
    (listed : field ∈ fields) :
    member (fields.map fun field => (some field.1, field.2)) field.1 = some (some field.2) := by
  have only : fields.filter (fun other => other.1 == field.1) = [field] := by
    refine List.perm_singleton.mp ((List.perm_ext_iff_of_nodup (distinct.of_map.filter _)
      (List.nodup_singleton field)).mpr fun other => ?_)
    rw [List.mem_filter, List.mem_singleton, beq_iff_eq]
    constructor
    · rintro ⟨also, same⟩
      exact List.inj_on_of_nodup_map distinct also listed same
    · rintro rfl
      exact ⟨listed, rfl⟩
  simp [member, List.filter_map, Function.comp_def, only]

/-- All fields of a record are found, in the order in which they are asked for. -/
theorem allFields_record (distinct : (fields.map Prod.fst).Nodup) :
    (record fields).allFields (fields.map Prod.fst) = some (fields.map Prod.snd) := by
  have named : (fields.map fun field => (some field.1, field.2)).all (·.1.isSome) = true := by
    simp
  have found : (fields.map Prod.fst).mapM (member (fields.map fun field =>
      (some field.1, field.2))) = some (fields.map fun field => some field.2) := by
    rw [List.mapM_map]
    exact mapM_eq_some fun field => member_of_mem distinct
  have present : (fields.map fun field => some field.2).mapM id = some (fields.map Prod.snd) := by
    rw [List.mapM_map]
    exact mapM_eq_some fun _ _ => rfl
  rw [allFields, record, Tree.fields, if_pos named, found]
  exact present

end Tree

/-! ### Values and their texts -/

variable {α : Type}

/-- Whether values are written as certain trees, from which they are read again. -/
structure Restores (write : α → Json) (spelled : α → Tree) (read : Tree → Option α) : Prop where
  spells : ∀ a, (write a).tree? = some (spelled a)
  reads : ∀ a, read (spelled a) = some a

/-- The texts of a value, with and without line breaks, spell a tree and are read as the value. -/
structure ComesBack (write : α → Json) (spelled : α → Tree) (read : Tree → Option α) (a : α) :
    Prop where
  compact_spells : Tree.parse (write a).compact.toList = some (spelled a)
  compact_read : parseAs read (write a).compact = .ok a
  pretty_spells : Tree.parse (write a).pretty.toList = some (spelled a)
  pretty_read : parseAs read (write a).pretty = .ok a

theorem Restores.comesBack {write : α → Json} {spelled : α → Tree} {read : Tree → Option α}
    (restores : Restores write spelled read) (a : α) : ComesBack write spelled read a := by
  have compact : Tree.parse (write a).compact.toList = some (spelled a) := by
    rw [compact, String.toList_ofList]
    exact parse_write (restores.spells a)
  have pretty : Tree.parse (write a).pretty.toList = some (spelled a) := by
    rw [pretty, String.toList_ofList]
    exact parse_writeLines (restores.spells a)
  refine ⟨compact, ?_, pretty, ?_⟩
  · rw [parseAs, compact, Option.bind_some, restores.reads]
  · rw [parseAs, pretty, Option.bind_some, restores.reads]

/-! ### Parts of records -/

def Tree.ofString (s : String) : Tree := .text (some s)

def Tree.ofAmount (n : UInt64) : Tree := .number (.ofInt n.toNat)

theorem restores_amount : Restores amount Tree.ofAmount Tree.asAmount where
  spells _ := rfl
  reads n := by
    have unsigned : ¬ ((n.toNat : Int) < 0) := by omega
    have fits : n.toNat < UInt64.size := n.toNat_lt
    simp [Tree.ofAmount, Tree.asAmount, Tree.wholeNumber?, Number.ofInt, unsigned, fits]

/-- What is told by its name is read by its name. -/
theorem restores_name {name : α → String} {ofName? : String → Option α}
    (told : ∀ a, ofName? (name a) = some a) :
    Restores (fun a => .string (name a)) (fun a => .ofString (name a))
      (fun tree => tree.asName.bind ofName?) where
  spells _ := rfl
  reads := told

end Json

open Json (Restores ComesBack Tree)

theorem PlayerId.restores : Restores toJson (fun id => .ofString id.text) ofTree? where
  spells _ := rfl
  reads _ := rfl

theorem ContractId.restores : Restores toJson (fun id => .ofString id.text) ofTree? where
  spells _ := rfl
  reads _ := rfl

theorem TxStatus.restores : Restores toJson (fun status => .ofString status.name) ofTree? :=
  Json.restores_name fun status => by cases status <;> rfl

theorem Network.restores : Restores toJson (fun network => .ofString network.name) ofTree? :=
  Json.restores_name fun network => by cases network <;> rfl

theorem Instant.restores : Restores toJson (fun t => .ofString t.rfc3339) ofTree? where
  spells _ := rfl
  reads t := by
    rw [ofTree?, Tree.ofString, Tree.asString, Option.bind_eq_bind, Option.bind_some, rfc3339,
      String.toList_ofList]
    exact read_write t

/-! ### Records -/

def Signatures.tree (signatures : Signatures) : Tree :=
  .record
    [("player_one", .bool signatures.playerOne), ("player_two", .bool signatures.playerTwo),
      ("arbiter", .bool signatures.arbiter)]

theorem Signatures.restores : Restores toJson tree ofTree? where
  spells _ := rfl
  reads signatures := by
    have found : signatures.tree.allFields ["player_one", "player_two", "arbiter"] = some _ :=
      Tree.allFields_record (by simp)
    simp only [ofTree?, found]
    rfl

def Player.tree (player : Player) : Tree :=
  .record
    [("id", .ofString player.id.text), ("name", .ofString player.name),
      ("picture_url", .ofString player.picture), ("mine", .bool player.mine)]

theorem Player.restores : Restores toJson tree ofTree? where
  spells _ := rfl
  reads player := by
    have found : player.tree.allFields ["id", "name", "picture_url", "mine"] = some _ :=
      Tree.allFields_record (by simp)
    simp only [ofTree?, found]
    rfl

def Contract.tree (contract : Contract) : Tree :=
  .record
    [("id", .ofString contract.id.text), ("player_one", .ofString contract.playerOne.text),
      ("player_two", .ofString contract.playerTwo.text), ("amount", .ofAmount contract.amount),
      ("desc", .ofString contract.description), ("sigs", contract.signatures.tree),
      ("funding_tx", .ofString contract.funding.name),
      ("created_at", .ofString contract.createdAt.rfc3339)]

theorem Contract.restores : Restores toJson tree ofTree? where
  spells _ := rfl
  reads contract := by
    have found : contract.tree.allFields ["id", "player_one", "player_two", "amount", "desc",
        "sigs", "funding_tx", "created_at"] = some _ :=
      Tree.allFields_record (by simp)
    simp only [ofTree?, found, Option.bind_eq_bind, Option.bind_some, List.map_cons, List.map_nil,
      ContractId.restores.reads, PlayerId.restores.reads, Json.restores_amount.reads,
      Signatures.restores.reads, TxStatus.restores.reads, Instant.restores.reads]
    rfl

def Payout.tree (payout : Payout) : Tree :=
  .record
    [("contract_id", .ofString payout.contract.text), ("p1_amount", .ofAmount payout.amountOne),
      ("p2_amount", .ofAmount payout.amountTwo), ("sigs", payout.signatures.tree),
      ("payout_token", .bool payout.withToken), ("payout_tx", .ofString payout.transaction.name),
      ("created_at", .ofString payout.createdAt.rfc3339)]

theorem Payout.restores : Restores toJson tree ofTree? where
  spells _ := rfl
  reads payout := by
    have found : payout.tree.allFields ["contract_id", "p1_amount", "p2_amount", "sigs",
        "payout_token", "payout_tx", "created_at"] = some _ :=
      Tree.allFields_record (by simp)
    simp only [ofTree?, found, Option.bind_eq_bind, Option.bind_some, List.map_cons, List.map_nil,
      ContractId.restores.reads, Json.restores_amount.reads, Signatures.restores.reads,
      TxStatus.restores.reads, Instant.restores.reads]
    rfl

def Settings.tree (settings : Settings) : Tree :=
  .record
    [("network", .ofString settings.network.name), ("arbiter_url", .ofString settings.arbiterUrl),
      ("passphrase_min_length", .ofAmount settings.passphraseMinLength),
      ("db_file", .ofString settings.databaseFile)]

theorem Settings.restores : Restores toJson tree ofTree? where
  spells _ := rfl
  reads settings := by
    have found : settings.tree.allFields ["network", "arbiter_url", "passphrase_min_length",
        "db_file"] = some _ :=
      Tree.allFields_record (by simp)
    simp only [ofTree?, found, Option.bind_eq_bind, Option.bind_some, List.map_cons, List.map_nil,
      Network.restores.reads, Json.restores_amount.reads]
    rfl

end ArbitratedEscrow
