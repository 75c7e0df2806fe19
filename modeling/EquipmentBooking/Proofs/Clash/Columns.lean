import EquipmentBooking.Clash.Review
import EquipmentBooking.Proofs.Text.Trim
import Mathlib.Data.List.Forall2
import Mathlib.Data.List.GetD
import Mathlib.Order.Bounds.Basic

/-! Tables read by columns. Every cell stands at the place of its column in its line. If the last cell
of a line does not end in a blank, only the blanks that it was padded with are missing at the end. -/
namespace EquipmentBooking.ClashReview

section Places

variable {α : Type}

/-- Each of the joined texts is found again behind the texts and separators in front of it. -/
theorem take_drop_intercalate (separator : List α) (texts : List (List α)) (place : Nat)
    (h : place < texts.length) :
    ((List.intercalate separator texts).drop
      (((texts.map List.length).take place).foldr (· + ·) 0 + separator.length * place)).take
        texts[place].length = texts[place] := by
  induction texts generalizing place with
  | nil => simp at h
  | cons first rest ih =>
      cases rest with
      | nil =>
          obtain rfl : place = 0 := by simpa using h
          simp
      | cons next rest =>
          rw [List.intercalate_cons_cons]
          cases place with
          | zero => simp
          | succ place =>
              have hBehind := ih place (by simpa using h)
              have hOffset : (((first :: next :: rest).map List.length).take (place + 1)).foldr
                    (· + ·) 0 + separator.length * (place + 1) =
                  (first ++ separator).length +
                    ((((next :: rest).map List.length).take place).foldr (· + ·) 0 +
                      separator.length * place) := by
                simp [Nat.mul_succ]
                omega
              rw [hOffset, List.drop_length_add_append]
              exact hBehind

theorem exists_intercalate_concat (separator last : List α) (texts : List (List α)) :
    ∃ front, List.intercalate separator (texts ++ [last]) = front ++ last := by
  induction texts with
  | nil => exact ⟨[], by simp⟩
  | cons first rest ih =>
      obtain ⟨front, hFront⟩ := ih
      obtain ⟨next, more, hNext⟩ := List.exists_cons_of_ne_nil (List.concat_ne_nil last rest)
      rw [List.cons_append, hNext, List.intercalate_cons_cons, ← hNext, hFront]
      exact ⟨first ++ separator ++ front, by simp⟩

end Places

section Padding

variable {cell text : List Char} {width : Nat}

theorem length_pad (h : cell.length ≤ width) : (pad cell width).length = width := by
  simp [pad]
  omega

/-- Blanks that fit the width make no difference to a padded cell. -/
theorem pad_append_blanks {blanks : Nat} (h : cell.length + blanks ≤ width) :
    pad (cell ++ List.replicate blanks ' ') width = pad cell width := by
  rw [pad, pad, List.append_assoc, List.length_append, List.length_replicate,
    List.replicate_append_replicate]
  congr 2
  omega

theorem pad_pad (h : cell.length ≤ width) : pad (pad cell width) width = pad cell width :=
  pad_append_blanks (by omega)

/-- Where a text is read at a width, it makes no difference whether its blanks at the end are there. -/
theorem pad_take_drop_append (text : List Char) (blanks place width : Nat) :
    pad (((text ++ List.replicate blanks ' ').drop place).take width) width =
      pad ((text.drop place).take width) width := by
  rw [List.drop_append, List.take_append, List.drop_replicate, List.take_replicate]
  apply pad_append_blanks
  simp
  omega

end Padding

section Widths

variable {rows : List (List (List Char))} {cells : List (List Char)} {widest : List Nat}
  {count column : Nat}

def cellLengths (table : List (List (List Char))) (column : Nat) : Set Nat :=
  {n | ∃ cells ∈ table, (cells.getD column []).length = n}

theorem cellLengths_cons (cells : List (List Char)) (rows : List (List (List Char))) (column : Nat) :
    cellLengths (cells :: rows) column =
      insert (cells.getD column []).length (cellLengths rows column) := by
  ext n
  simp [cellLengths, eq_comm]

theorem isGreatest_insert_of_max {a b m : Nat} {others : Set Nat}
    (h : IsGreatest (insert (max a b) others) m) : IsGreatest (insert a (insert b others)) m := by
  obtain ⟨hMem, hUpper⟩ := h
  have hMax : max a b ≤ m := hUpper (Set.mem_insert _ _)
  constructor
  · rcases hMem with hMem | hOther
    · rcases Nat.le_total a b with hLess | hMore
      · exact .inr (.inl (hMem.trans (Nat.max_eq_right hLess)))
      · exact .inl (hMem.trans (Nat.max_eq_left hMore))
    · exact .inr (.inr hOther)
  · rintro n (rfl | rfl | hOther)
    · omega
    · omega
    · exact hUpper (.inr hOther)

theorem getD_widen (hWidest : widest.length = count) (hCells : cells.length = count)
    (hColumn : column < count) :
    (List.zipWith (fun w (cell : List Char) => max w cell.length) widest cells).getD column 0 =
      max (widest.getD column 0) (cells.getD column []).length := by
  subst hWidest
  simp [List.getD_eq_getElem?_getD, hColumn, hCells]

/-- Going through the lines, every column gets as wide as its longest cell. -/
theorem isGreatest_foldl (hWidest : widest.length = count)
    (hRows : ∀ cells ∈ rows, cells.length = count) :
    (rows.foldl (List.zipWith fun w cell => max w cell.length) widest).length = count ∧
      ∀ column < count,
        IsGreatest (insert (widest.getD column 0) (cellLengths rows column))
          ((rows.foldl (List.zipWith fun w cell => max w cell.length) widest).getD column 0) := by
  induction rows generalizing widest with
  | nil =>
      refine ⟨hWidest, fun column _ => ?_⟩
      simp [cellLengths]
  | cons cells rows ih =>
      rw [List.forall_mem_cons] at hRows
      have hNext : (List.zipWith (fun w (cell : List Char) => max w cell.length) widest cells).length =
          count := by
        simp [hWidest, hRows.1]
      obtain ⟨hLength, hGreatest⟩ := ih hNext hRows.2
      refine ⟨hLength, fun column hColumn => ?_⟩
      have hColumnMax := hGreatest column hColumn
      rw [getD_widen hWidest hRows.1 hColumn] at hColumnMax
      rw [cellLengths_cons]
      exact isGreatest_insert_of_max hColumnMax

theorem length_headings : headings.length = 8 :=
  rfl

theorem length_widths (hRows : ∀ cells ∈ rows, cells.length = 8) : (widths rows).length = 8 :=
  (isGreatest_foldl rfl hRows).1

/-- The width of a column is the length of its longest cell, its heading counted. -/
theorem isGreatest_widths (hRows : ∀ cells ∈ rows, cells.length = 8) (hColumn : column < 8) :
    IsGreatest (cellLengths (headings :: rows) column) ((widths rows).getD column 0) := by
  have hWidest : (headings.map List.length).getD column 0 = (headings.getD column []).length := by
    simp [List.getD_eq_getElem?_getD, List.getElem?_eq_getElem (show column < headings.length from hColumn)]
  have hCount : (headings.map List.length).length = 8 := rfl
  have hGreatest := (isGreatest_foldl hCount hRows).2 column hColumn
  rwa [hWidest, ← cellLengths_cons] at hGreatest

/-- Every line fits the columns. -/
theorem forall₂_widths (hRows : ∀ cells ∈ rows, cells.length = 8) (hLine : cells ∈ headings :: rows) :
    List.Forall₂ (fun cell width => cell.length ≤ width) cells (widths rows) := by
  have hCells : cells.length = 8 := by
    rcases List.mem_cons.mp hLine with rfl | hRow
    · exact length_headings
    · exact hRows cells hRow
  rw [List.forall₂_iff_get]
  refine ⟨hCells.trans (length_widths hRows).symm, fun column hCell hWidth => ?_⟩
  have hUpper := (isGreatest_widths hRows (hCells ▸ hCell)).2 ⟨cells, hLine, rfl⟩
  simpa [List.getD_eq_getElem?_getD, hCell, hWidth] using hUpper

/-- How wide the columns are is decided by the cells. -/
theorem forall_widths_le_iff {limit : Nat} (hRows : ∀ cells ∈ rows, cells.length = 8) :
    (∀ width ∈ widths rows, width ≤ limit) ↔
      ∀ cells ∈ headings :: rows, ∀ cell ∈ cells, cell.length ≤ limit := by
  have hLength := length_widths hRows
  constructor
  · intro h cells hLine cell hCell
    have hFits := forall₂_widths hRows hLine
    obtain ⟨column, hColumn, rfl⟩ := List.mem_iff_getElem.mp hCell
    have hWidth : column < (widths rows).length := hFits.length_eq ▸ hColumn
    exact ((List.forall₂_iff_get.mp hFits).2 column hColumn hWidth).trans
      (h _ (List.getElem_mem hWidth))
  · intro h width hWidth
    obtain ⟨column, hColumn, rfl⟩ := List.mem_iff_getElem.mp hWidth
    obtain ⟨cells, hLine, hLongest⟩ := (isGreatest_widths hRows (hLength ▸ hColumn)).1
    have hCell : column < cells.length := (forall₂_widths hRows hLine).length_eq ▸ hColumn
    rw [List.getD_eq_getElem _ _ hColumn, List.getD_eq_getElem _ _ hCell] at hLongest
    rw [← hLongest]
    exact h cells hLine _ (List.getElem_mem hCell)

end Widths

section Lines

variable {columns : List Nat} {cells : List (List Char)} {column : Nat}

def lineText (columns : List Nat) (cells : List (List Char)) : List Char :=
  Text.trimEnd (List.intercalate [' ', ' '] (List.zipWith pad cells columns))

/-- A last cell that is not empty and ends in no blank. -/
def EndsSolid (cells : List (List Char)) : Prop :=
  ∃ (front : List (List Char)) (start : List Char) (c : Char),
    cells = front ++ [start ++ [c]] ∧ Text.isBlank c = false

theorem map_length_zipWith_pad
    (h : List.Forall₂ (fun cell width => cell.length ≤ width) cells columns) :
    (List.zipWith pad cells columns).map List.length = columns := by
  induction h with
  | nil => rfl
  | cons hCell _ ih => simp [length_pad hCell, ih]

/-- Nothing but padding is missing at the end of a line. -/
theorem exists_blanks_lineText (hLength : cells.length = columns.length) (hEnd : EndsSolid cells) :
    ∃ blanks, List.intercalate [' ', ' '] (List.zipWith pad cells columns) =
      lineText columns cells ++ List.replicate blanks ' ' := by
  obtain ⟨front, start, c, rfl, hSolid⟩ := hEnd
  rcases List.eq_nil_or_concat columns with rfl | ⟨before, width, rfl⟩
  · simp at hLength
  · have hFront : front.length = before.length := by simpa using hLength
    obtain ⟨text, hText⟩ := exists_intercalate_concat [' ', ' '] (pad (start ++ [c]) width)
      (List.zipWith pad front before)
    have hLast : Text.dropTail Text.isBlank (text ++ start ++ [c]) = text ++ start ++ [c] := by
      apply Text.dropTail_of_getLast?
      intro d hd
      obtain rfl : c = d := by simpa using hd
      exact hSolid
    have hBlanks : ∀ d ∈ List.replicate (width - (start ++ [c]).length) ' ', Text.isBlank d = true := by
      intro d hd
      rw [List.eq_of_mem_replicate hd]
      rfl
    refine ⟨width - (start ++ [c]).length, ?_⟩
    rw [lineText, Text.trimEnd, List.concat_eq_append, List.zipWith_append hFront]
    simp only [List.zipWith_cons_cons, List.zipWith_nil_left]
    rw [hText, pad, ← List.append_assoc, ← List.append_assoc, Text.dropTail_append_of_forall hBlanks,
      hLast]

/-- A cell is found again at the place of its column, padded, even where the line has lost its
last blanks. -/
theorem cellAt_lineText (h : List.Forall₂ (fun cell width => cell.length ≤ width) cells columns)
    (hEnd : EndsSolid cells) (hColumn : column < columns.length) :
    cellAt columns column (lineText columns cells) =
      pad (cells.getD column []) (columns.getD column 0) := by
  have hLength := h.length_eq
  have hCell : column < cells.length := hLength ▸ hColumn
  have hPlace : column < (List.zipWith pad cells columns).length := by simp [hCell, hColumn]
  obtain ⟨blanks, hBlanks⟩ := exists_blanks_lineText hLength hEnd
  have hFits : cells[column].length ≤ columns[column] :=
    (List.forall₂_iff_get.mp h).2 column hCell hColumn
  have hTake := take_drop_intercalate [' ', ' '] (List.zipWith pad cells columns) column hPlace
  rw [map_length_zipWith_pad h, List.getElem_zipWith, length_pad hFits] at hTake
  rw [cellAt, ← pad_take_drop_append _ blanks, ← hBlanks, List.getD_eq_getElem columns 0 hColumn,
    List.getD_eq_getElem cells [] hCell]
  exact (congrArg (pad · columns[column]) hTake).trans (pad_pad hFits)

theorem mem_of_mem_intercalate {separator : List Char} {texts : List (List Char)} {c : Char}
    (h : c ∈ List.intercalate separator texts) : c ∈ separator ∨ ∃ text ∈ texts, c ∈ text := by
  induction texts with
  | nil => simp at h
  | cons first rest ih =>
      cases rest with
      | nil => exact .inr ⟨first, by simp, by simpa using h⟩
      | cons next rest =>
          rw [List.intercalate_cons_cons, List.mem_append, List.mem_append] at h
          rcases h with (hFirst | hSeparator) | hRest
          · exact .inr ⟨first, by simp, hFirst⟩
          · exact .inl hSeparator
          · rcases ih hRest with hSeparator | ⟨text, hText, hChar⟩
            · exact .inl hSeparator
            · exact .inr ⟨text, List.mem_cons_of_mem first hText, hChar⟩

/-- Padding puts no line feed into a line. -/
theorem lineFeed_not_mem_lineText (columns : List Nat) (h : ∀ cell ∈ cells, '\n' ∉ cell) :
    '\n' ∉ lineText columns cells := by
  intro hMem
  rw [lineText, Text.trimEnd, Text.dropTail_eq_rdropWhile] at hMem
  rcases mem_of_mem_intercalate ((List.rdropWhile_prefix _ _).subset hMem) with hSeparator | hText
  · simp at hSeparator
  · obtain ⟨text, hText, hChar⟩ := hText
    rw [← List.map_uncurry_zip_eq_zipWith] at hText
    obtain ⟨⟨cell, width⟩, hPair, rfl⟩ := List.mem_map.mp hText
    rcases List.mem_append.mp hChar with hCell | hBlank
    · exact h cell (List.of_mem_zip hPair).1 hCell
    · cases List.eq_of_mem_replicate hBlank

end Lines

end EquipmentBooking.ClashReview
