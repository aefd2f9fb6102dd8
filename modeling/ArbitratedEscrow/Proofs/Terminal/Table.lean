import ArbitratedEscrow.Proofs.Text.Width
import ArbitratedEscrow.Terminal.Report
import Mathlib.Data.List.Forall2

/-!
# Tables are drawn as rectangles

All lines of a table take as many columns as its frame, whatever its cells hold.
A cell is filled up to the width of its column and stands between blanks, so that
none of its characters is drawn together with the frame. The text of a table breaks
into exactly these lines, since the lines of a cell hold no breaks.
-/

namespace ArbitratedEscrow.Terminal.Table

open Text

/-! ### Columns -/

/-- Whether no cell of a row is wider than its column. -/
def Covers (widths : List Nat) (row : List String) : Prop :=
  List.Forall₂ (fun cell width => cellWidth cell ≤ width) row widths

variable {widths : List Nat} {row : List String} {rows : List (List String)}

theorem width_le_cellWidth {cell : String} {line : List Char} (listed : line ∈ linesOf cell) :
    width line ≤ cellWidth cell := by
  have widest : cellWidth cell = ((linesOf cell).map width).foldl max 0 := List.foldl_map.symm
  rw [widest, List.foldl_max]
  exact Nat.le_trans (List.le_max?_getD_of_mem (List.mem_map_of_mem listed)) (Nat.le_max_right ..)

/-- Where a cell has no more lines, an empty one is drawn. -/
theorem getD_linesOf (cell : String) (i : Nat) :
    (linesOf cell).getD i [] = [] ∨ (linesOf cell).getD i [] ∈ linesOf cell := by
  rw [List.getD_eq_getElem?_getD]
  cases found : (linesOf cell)[i]? with
  | none => exact .inl rfl
  | some line => exact .inr (List.mem_of_getElem? found)

theorem width_getD_le_cellWidth (cell : String) (i : Nat) :
    width ((linesOf cell).getD i []) ≤ cellWidth cell := by
  rcases getD_linesOf cell i with none | listed
  · rw [none]
    exact Nat.zero_le _
  · exact width_le_cellWidth listed

theorem Covers.zipWith {other : List String} (covers : Covers widths row)
    (even : other.length = widths.length) :
    Covers (List.zipWith max widths (other.map cellWidth)) row := by
  induction covers generalizing other with
  | nil => exact .nil
  | cons fits _ ih =>
    obtain ⟨cell, others, rfl⟩ := List.exists_cons_of_length_eq_add_one even
    exact .cons (Nat.le_trans fits (Nat.le_max_left ..)) (ih (Nat.succ.inj even))

theorem covers_zipWith (even : row.length = widths.length) :
    Covers (List.zipWith max widths (row.map cellWidth)) row := by
  induction row generalizing widths with
  | nil =>
    rw [List.length_eq_zero_iff.mp even.symm]
    exact .nil
  | cons cell row ih =>
    obtain ⟨width, widths, rfl⟩ := List.exists_cons_of_length_eq_add_one even.symm
    exact .cons (Nat.le_max_right ..) (ih (Nat.succ.inj even))

/-- One more row makes no column narrower. -/
theorem Covers.foldl (covers : Covers widths row)
    (even : ∀ other ∈ rows, other.length = widths.length) :
    Covers (rows.foldl (fun widest row => List.zipWith max widest (row.map cellWidth)) widths)
      row := by
  -- the row has been counted; what is left to the fold are the rows behind it
  induction rows generalizing widths with
  | nil => exact covers
  | cons other rows ih =>
    obtain ⟨first, later⟩ := List.forall_mem_cons.mp even
    refine ih (covers.zipWith first) fun row listed => ?_
    simp [first, later row listed]

theorem covers_foldl (even : ∀ row ∈ rows, row.length = widths.length) (listed : row ∈ rows) :
    Covers (rows.foldl (fun widest row => List.zipWith max widest (row.map cellWidth)) widths)
      row := by
  induction rows generalizing widths with
  | nil => cases listed
  | cons first rows ih =>
    obtain ⟨here, later⟩ := List.forall_mem_cons.mp even
    have same : (List.zipWith max widths (first.map cellWidth)).length = widths.length := by
      simp [here]
    rcases List.mem_cons.mp listed with rfl | listed
    · exact (covers_zipWith here).foldl fun row listed => (later row listed).trans same.symm
    · exact ih (fun row listed => (later row listed).trans same.symm) listed

variable {table : Table}

/-- Whether each row has a cell for each column. -/
def Even (table : Table) : Prop := ∀ row ∈ table.rows, row.length = table.header.length

theorem Even.covers (even : table.Even) (listed : row ∈ table.header :: table.rows) :
    Covers table.widths row := by
  have columns : ∀ row ∈ table.rows, row.length = (table.header.map cellWidth).length :=
    fun row listed => (even row listed).trans (by rw [List.length_map])
  rcases List.mem_cons.mp listed with rfl | listed
  · refine Covers.foldl ?_ columns
    exact List.forall₂_map_right_iff.mpr (List.forall₂_same.mpr fun _ _ => Nat.le_refl _)
  · exact covers_foldl columns listed

/-! ### Frames -/

/-- The columns between the edges of a frame, those between two cells included. -/
def innerWidth (widths : List Nat) : Nat :=
  widths.foldr (fun width columns => width + 2 + columns) 0 + (widths.length - 1)

/-- A piece of a line takes as many columns as a cell and the blanks beside it. -/
structure Fills (width : Nat) (piece : List Char) : Prop where
  apart : Apart piece
  width : Text.width piece = width + 2

theorem fills_intercalate {cross : Char} {pieces : List (List Char)} (plain : Plain cross)
    (fill : List.Forall₂ Fills widths pieces) :
    Apart ([cross].intercalate pieces) ∧
      width ([cross].intercalate pieces) = innerWidth widths := by
  induction fill with
  | nil => exact ⟨apart_nil, rfl⟩
  | @cons column piece widths pieces fills fill ih =>
    obtain ⟨apart, inner⟩ := ih
    cases fill with
    | nil =>
      rw [List.intercalate_singleton]
      exact ⟨fills.apart, by simp [fills.width, innerWidth]⟩
    | cons next rest =>
      rw [List.intercalate_cons_cons, List.append_assoc, List.singleton_append]
      refine ⟨fills.apart.append (plain.apart_cons apart), ?_⟩
      rw [(plain.apart_cons apart).width_append, plain.width_cons apart, fills.width, inner]
      simp only [innerWidth, List.foldr_cons, List.length_cons]
      omega

theorem width_frame {left cross right : Char} {pieces : List (List Char)}
    (start : Plain left) (between : Plain cross) (stop : Plain right)
    (fill : List.Forall₂ Fills widths pieces) :
    width (left :: [cross].intercalate pieces ++ [right]) = innerWidth widths + 2 := by
  obtain ⟨apart, inner⟩ := fills_intercalate between fill
  rw [stop.apart.width_append, start.width_cons apart, inner, stop.width]
  omega

def rules : List Rule := [topRule, headerRule, rowRule, bottomRule]

theorem plain_rules : ∀ rule ∈ rules,
    Plain rule.left ∧ Plain rule.line ∧ Plain rule.cross ∧ Plain rule.right := by
  decide +kernel

theorem width_rule {rule : Rule} (listed : rule ∈ rules) (widths : List Nat) :
    width (rule.draw widths) = innerWidth widths + 2 := by
  obtain ⟨left, line, cross, right⟩ := plain_rules rule listed
  refine width_frame left cross right (List.forall₂_map_right_iff.mpr ?_)
  exact List.forall₂_same.mpr fun columns _ =>
    ⟨line.apart_replicate _, line.width_replicate _⟩

theorem fills_cell {columns : Nat} {line : List Char} (fits : width line ≤ columns) :
    Fills columns (' ' :: padRight columns line ++ [' ']) where
  apart := apart_blank _
  width := by
    rw [plain_blank.apart.width_append, width_blank, width_padRight fits, plain_blank.width]
    omega

theorem width_drawLine (covers : Covers widths row) (i : Nat) :
    width (drawLine widths (row.map fun cell => (linesOf cell).getD i [])) =
      innerWidth widths + 2 := by
  -- edges and crosses are next to blanks on both sides, so they cannot join a cell's text
  have edges : Plain '│' ∧ Plain '┆' := by decide +kernel
  refine width_frame edges.1 edges.2 edges.1 ?_
  induction covers with
  | nil => exact .nil
  | cons fits _ ih => exact .cons (fills_cell (Nat.le_trans (width_getD_le_cellWidth _ i) fits)) ih

/-! ### Lines of a table -/

theorem mem_of_mem_intercalate {α : Type} {sep : List α} {parts : List (List α)} {a : α}
    (member : a ∈ sep.intercalate parts) : a ∈ sep ∨ ∃ part ∈ parts, a ∈ part := by
  induction parts with
  | nil => simp at member
  | cons part parts ih =>
    cases parts with
    | nil =>
      rw [List.intercalate_singleton] at member
      exact .inr ⟨part, List.mem_cons_self, member⟩
    | cons next parts =>
      simp only [List.intercalate_cons_cons, List.mem_append] at member
      rcases member with (here | between) | later
      · exact .inr ⟨part, List.mem_cons_self, here⟩
      · exact .inl between
      · exact (ih later).imp_right fun ⟨part, listed, member⟩ =>
          ⟨part, List.mem_cons_of_mem _ listed, member⟩

/-- Each line of a table is a horizontal one, or one line of each cell of a row. -/
theorem line_of_mem_draw {line : List Char} (drawn : line ∈ table.draw) :
    (∃ rule ∈ rules, line = rule.draw table.widths) ∨
      ∃ row ∈ table.header :: table.rows, ∃ i,
        line = drawLine table.widths (row.map fun cell => (linesOf cell).getD i []) := by
  have of_row : ∀ row ∈ table.header :: table.rows, line ∈ drawRow table.widths row →
      ∃ row ∈ table.header :: table.rows, ∃ i,
        line = drawLine table.widths (row.map fun cell => (linesOf cell).getD i []) := by
    intro row listed drawn
    obtain ⟨i, _, rfl⟩ := List.mem_map.mp drawn
    exact ⟨row, listed, i, by rw [List.map_map]; rfl⟩
  simp only [draw, List.mem_append, List.mem_cons, List.not_mem_nil, or_false] at drawn
  rcases drawn with ((rfl | header) | rfl | rows) | rfl
  · exact .inl ⟨topRule, by simp [rules], rfl⟩
  · exact .inr (of_row table.header List.mem_cons_self header)
  · exact .inl ⟨headerRule, by simp [rules], rfl⟩
  · rcases mem_of_mem_intercalate rows with between | ⟨_, listed, drawn⟩
    · exact .inl ⟨rowRule, by simp [rules], List.mem_singleton.mp between⟩
    · obtain ⟨row, stored, rfl⟩ := List.mem_map.mp listed
      exact .inr (of_row row (List.mem_cons_of_mem _ stored) drawn)
  · exact .inl ⟨bottomRule, by simp [rules], rfl⟩

theorem notMem_frame {c left cross right : Char} {pieces : List (List Char)}
    (frame : c ∉ [left, cross, right]) (free : ∀ piece ∈ pieces, c ∉ piece) :
    c ∉ left :: [cross].intercalate pieces ++ [right] := by
  intro member
  simp only [List.mem_append, List.mem_cons, List.not_mem_nil, or_false, not_or] at frame member
  rcases member with (start | inside) | stop
  · exact frame.1 start
  · rcases mem_of_mem_intercalate inside with between | ⟨piece, listed, member⟩
    · exact frame.2.1 (List.mem_singleton.mp between)
    · exact free piece listed member
  · exact frame.2.2 stop

theorem unbroken_rule {rule : Rule} (listed : rule ∈ rules) (widths : List Nat) :
    '\n' ∉ rule.draw widths := by
  have unbroken : ∀ rule ∈ rules,
      '\n' ∉ [rule.left, rule.cross, rule.right] ∧ '\n' ≠ rule.line := by
    decide
  obtain ⟨frame, line⟩ := unbroken rule listed
  refine notMem_frame frame fun piece drawn => ?_
  obtain ⟨columns, _, rfl⟩ := List.mem_map.mp drawn
  exact fun member => line (List.eq_of_mem_replicate member)

theorem unbroken_drawLine (widths : List Nat) {line : List (List Char)}
    (free : ∀ text ∈ line, '\n' ∉ text) : '\n' ∉ drawLine widths line := by
  refine notMem_frame (by decide) fun piece drawn => ?_
  obtain ⟨i, found⟩ := List.mem_iff_getElem?.mp drawn
  obtain ⟨columns, text, _, shown, rfl⟩ := List.getElem?_zipWith_eq_some.mp found
  simp [padRight, free text (List.mem_of_getElem? shown)]

/-- No line of a table holds a line break. -/
theorem unbroken_of_mem_draw {line : List Char} (drawn : line ∈ table.draw) : '\n' ∉ line := by
  rcases line_of_mem_draw drawn with ⟨rule, listed, rfl⟩ | ⟨row, _, i, rfl⟩
  · exact unbroken_rule listed table.widths
  · refine unbroken_drawLine table.widths fun text listed => ?_
    obtain ⟨cell, _, rfl⟩ := List.mem_map.mp listed
    rcases getD_linesOf cell i with none | listed
    · rw [none]
      exact List.not_mem_nil
    · exact not_mem_of_mem_split listed

theorem split_text (table : Table) : split '\n' table.text.toList = table.draw := by
  rw [text, String.toList_ofList]
  exact split_join (List.cons_ne_nil _ _) fun line => unbroken_of_mem_draw

/-- All lines of a table with a cell in each column take as many columns as its frame. -/
theorem width_of_mem_draw (even : table.Even) {line : List Char} (drawn : line ∈ table.draw) :
    width line = innerWidth table.widths + 2 := by
  rcases line_of_mem_draw drawn with ⟨rule, listed, rfl⟩ | ⟨row, listed, i, rfl⟩
  · exact width_rule listed table.widths
  · exact width_drawLine (even.covers listed) i

/-! ### What lists show -/

variable (ledger : Ledger)

theorem even_playerTable : (playerTable ledger).Even := by
  intro row listed
  obtain ⟨player, _, rfl⟩ := List.mem_map.mp listed
  rfl

theorem even_contractTable (viewer : PlayerId) : (contractTable ledger viewer).Even := by
  intro row listed
  obtain ⟨contract, _, rfl⟩ := List.mem_map.mp listed
  rfl

/-- Whatever names and identifiers a ledger holds, the lists of it are rectangles. -/
theorem lists_rectangular (viewer : PlayerId) :
    ∀ table ∈ [playerTable ledger, contractTable ledger viewer],
      ∀ line ∈ split '\n' table.text.toList, width line = innerWidth table.widths + 2 := by
  have even : ∀ table ∈ [playerTable ledger, contractTable ledger viewer], table.Even := by
    simp [even_playerTable, even_contractTable]
  intro table listed line shown
  exact width_of_mem_draw (even table listed) (split_text table ▸ shown)

end ArbitratedEscrow.Terminal.Table
