import Mathlib
import SchemaGate.Text.Table

/-!
# What a table shows

Main statement: `shown_draw`, that every line of every cell stands in a line of the drawn table.
-/

namespace SchemaGate

/-- A text stands in one of the lines. -/
def Shown (text : String) (lines : List String) : Prop :=
  ∃ line ∈ lines, text.toList <:+: line.toList

theorem Shown.mono {text : String} {lines more : List String} (h : Shown text lines)
    (among : ∀ line ∈ lines, line ∈ more) : Shown text more := by
  obtain ⟨line, member, stands⟩ := h
  exact ⟨line, among line member, stands⟩

theorem shown_of_mem {text : String} {lines : List String} (h : text ∈ lines) : Shown text lines :=
  ⟨text, h, List.infix_rfl⟩

theorem infix_join {text : String} {texts : List String} (h : text ∈ texts) :
    text.toList <:+: (String.join texts).toList := by
  obtain ⟨before, after, rfl⟩ := List.append_of_mem h
  simp only [String.join_append, String.join_cons, String.toList_append]
  exact ⟨_, _, List.append_assoc _ _ _⟩

theorem infix_intercalate {α : Type} (sep : List α) {part : List α} {parts : List (List α)}
    (h : part ∈ parts) : part <:+: sep.intercalate parts := by
  induction parts with
  | nil => cases h
  | cons first rest ih =>
    cases rest with
    | nil =>
      rw [List.mem_singleton.1 h, List.intercalate_singleton]
    | cons second rest =>
      rw [List.intercalate_cons_cons]
      rcases List.mem_cons.1 h with rfl | h
      · exact (List.prefix_append _ _).isInfix.trans (List.prefix_append _ _).isInfix
      · exact (ih h).trans (List.suffix_append _ _).isInfix

theorem infix_stringIntercalate (sep : String) {text : String} {texts : List String}
    (h : text ∈ texts) : text.toList <:+: (sep.intercalate texts).toList := by
  rw [String.toList_intercalate]
  exact infix_intercalate _ (List.mem_map_of_mem h)

theorem mem_intercalate {α : Type} (sep : List α) {a : α} {part : List α} {parts : List (List α)}
    (h : part ∈ parts) (member : a ∈ part) : a ∈ sep.intercalate parts :=
  (infix_intercalate sep h).subset member

theorem le_foldl_max (list : List Nat) (start : Nat) :
    start ≤ list.foldl max start ∧ ∀ n ∈ list, n ≤ list.foldl max start := by
  induction list generalizing start with
  | nil => exact ⟨Nat.le_refl start, fun n member => nomatch member⟩
  | cons first rest ih =>
    obtain ⟨least, others⟩ := ih (max start first)
    refine ⟨Nat.le_trans (Nat.le_max_left _ _) least, List.forall_mem_cons.2 ⟨?_, others⟩⟩
    exact Nat.le_trans (Nat.le_max_right _ _) least

namespace Table

def Even (t : Table) : Prop :=
  ∀ row ∈ t.rows, row.length = t.heading.length

theorem length_widths {t : Table} (even : t.Even) : t.widths.length = t.heading.length := by
  have rows (list : List (List String)) (all : ∀ row ∈ list, row.length = t.heading.length)
      (ws : List Nat) (length : ws.length = t.heading.length) :
      (list.foldl (fun ws row => List.zipWith max ws (row.map cellWidth)) ws).length =
        t.heading.length := by
    induction list generalizing ws with
    | nil => exact length
    | cons row list ih =>
      refine ih (fun row member => all row (List.mem_cons_of_mem _ member)) _ ?_
      rw [List.length_zipWith, List.length_map, length, all row List.mem_cons_self, Nat.min_self]
  exact rows t.rows even _ (List.length_map _)

theorem infix_drawLine {widths : List Nat} {texts : List String} {i : Nat} {text : String}
    (wide : i < widths.length) (found : texts[i]? = some text) :
    text.toList <:+: (drawLine widths texts).toList := by
  have filled : fill widths[i] text ∈ List.zipWith fill widths texts := by
    refine List.mem_of_getElem? (i := i) ?_
    rw [List.getElem?_zipWith, List.getElem?_eq_getElem wide, found]
  have cell : text.toList <:+: (fill widths[i] text).toList := by
    rw [fill, String.toList_append]
    exact (List.prefix_append _ _).isInfix
  have framed := cell.trans (infix_stringIntercalate " ┆ " filled)
  rw [drawLine, String.toList_append, String.toList_append]
  exact framed.trans (List.infix_append _ _ _)

theorem shown_drawRow {widths : List Nat} {row : List String} (wide : row.length ≤ widths.length)
    {cell line : String} (inside : cell ∈ row) (h : line ∈ cellLines cell) :
    Shown line (drawRow widths row) := by
  obtain ⟨i, short, rfl⟩ := List.getElem_of_mem inside
  obtain ⟨j, low, rfl⟩ := List.getElem_of_mem h
  -- The row is as high as its highest cell, so it has a line for each line of the cell.
  have high : j < ((row.map cellLines).map List.length).foldl max 0 := by
    refine Nat.lt_of_lt_of_le low ((le_foldl_max _ 0).2 _ ?_)
    exact List.mem_map_of_mem (List.mem_map_of_mem inside)
  refine ⟨_, List.mem_map_of_mem (List.mem_range.2 high), ?_⟩
  refine infix_drawLine (i := i) (Nat.lt_of_lt_of_le short wide) ?_
  simp [List.getElem?_eq_getElem short, List.getElem?_eq_getElem low]

theorem shown_draw {t : Table} (even : t.Even) {row : List String} {cell line : String}
    (member : row ∈ t.rows) (inside : cell ∈ row) (h : line ∈ cellLines cell) :
    Shown line t.draw := by
  have wide : row.length ≤ t.widths.length := by rw [length_widths even, even row member]
  refine (shown_drawRow wide inside h).mono fun drawn among => ?_
  have drawnRow := mem_intercalate [rowRule.draw t.widths]
    (List.mem_map_of_mem (f := drawRow t.widths) member) among
  simp [draw, drawnRow]

end Table

end SchemaGate
