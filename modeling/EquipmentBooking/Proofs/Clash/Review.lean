import EquipmentBooking.Proofs.Clash.Columns
import EquipmentBooking.Proofs.Time.Reading
import Mathlib.Algebra.Group.Nat.Defs

/-! The table of a review. Its cells are the texts of the records, of any length, and numbers and times,
which are short. The last cell is a number, so it never ends in a blank. -/
namespace EquipmentBooking

section Cells

variable {record : ClashRecord} {cell : List Char}

def ClashRecord.texts (record : ClashRecord) : List String :=
  [record.equipmentName, record.bookingUser, record.bookingActivity]

def ClashRecord.cells (record : ClashRecord) : List (List Char) :=
  (ReviewRow.ofRecord record).cells

/-- Cells of numbers and times are short and have no line feed in them. -/
structure IsShort (cell : List Char) : Prop where
  length_le : cell.length ≤ 21
  lineFeed_not_mem : '\n' ∉ cell

theorem isShort_digits {n : Nat} (h : n < 2 ^ 64) : IsShort (Text.Numeral.digits n) where
  length_le := (Nat.length_toDigits_le_iff (by decide) (by decide)).mpr (by omega)
  lineFeed_not_mem hMem := by cases Text.Numeral.isDigits_digits n _ hMem

theorem isShort_bookingId (n : UInt64) : IsShort ('#' :: Text.Numeral.digits n.toNat) where
  length_le := Nat.succ_le_succ ((Nat.length_toDigits_le_iff (by decide) (by decide)).mpr
    (Nat.lt_trans n.toNat_lt (by decide)))
  lineFeed_not_mem := by simpa using (isShort_digits n.toNat_lt).lineFeed_not_mem

theorem isShort_signedText (n : Int64) : IsShort (Text.Numeral.signedText n.toInt).toList := by
  have hLow := n.le_toInt
  have hHigh := n.toInt_lt
  have hDigits : (Text.Numeral.digits n.toInt.natAbs).length ≤ 20 :=
    (Nat.length_toDigits_le_iff (by decide) (by decide)).mpr (by omega)
  have hPlain := (isShort_digits (n := n.toInt.natAbs) (by omega)).lineFeed_not_mem
  rw [Text.Numeral.signedText]
  split
  · constructor
    · simp [Text.Numeral.text]
      omega
    · simpa [Text.Numeral.text] using hPlain
  · constructor
    · simp [Text.Numeral.text]
      omega
    · simpa [Text.Numeral.text] using hPlain

theorem TimeOfDay.length_chars (t : TimeOfDay) : t.chars.length = 5 := by
  have hHour : (Text.Numeral.padded 2 t.hour.val).length = 2 :=
    Text.Numeral.length_padded (by decide) (Nat.lt_trans t.hour.isLt (by decide))
  have hMinute : (Text.Numeral.padded 2 t.minute.val).length = 2 :=
    Text.Numeral.length_padded (by decide) (Nat.lt_trans t.minute.isLt (by decide))
  simp [chars, hHour, hMinute]

theorem isShort_window (start finish : TimeOfDay) :
    IsShort (start.text ++ " - " ++ finish.text).toList where
  length_le := by simp [TimeOfDay.text, TimeOfDay.length_chars]
  lineFeed_not_mem := by
    have hClock (t : TimeOfDay) : '\n' ∉ t.text.toList := by
      intro hMem
      cases t.isSolid_text.2 _ hMem
    simp [hClock]

/-- The cells of a record are its texts and short ones. -/
theorem ClashRecord.mem_cells_cases (h : cell ∈ record.cells) :
    (∃ text ∈ record.texts, cell = text.toList) ∨ IsShort cell := by
  simp only [cells, ReviewRow.cells, ReviewRow.ofRecord, List.mem_cons, List.not_mem_nil,
    or_false] at h
  rcases h with rfl | rfl | rfl | rfl | rfl | rfl | rfl | rfl
  · exact .inl ⟨record.equipmentName, by simp [texts], rfl⟩
  · exact .inr (isShort_bookingId _)
  · exact .inl ⟨record.bookingUser, by simp [texts], rfl⟩
  · exact .inl ⟨record.bookingActivity, by simp [texts], rfl⟩
  · exact .inr (isShort_window _ _)
  · exact .inr (isShort_digits (Nat.lt_trans (UInt32.toNat_lt _) (by decide)))
  · exact .inr (isShort_digits (Nat.lt_trans (UInt32.toNat_lt _) (by decide)))
  · exact .inr (isShort_signedText _)

theorem ClashRecord.toList_mem_cells {text : String} (h : text ∈ record.texts) :
    text.toList ∈ record.cells := by
  simp only [texts, List.mem_cons, List.not_mem_nil, or_false] at h
  rcases h with rfl | rfl | rfl <;> simp [cells, ReviewRow.cells, ReviewRow.ofRecord]

theorem endsSolid_digits (front : List (List Char)) (sign : List Char) (n : Nat) :
    ClashReview.EndsSolid (front ++ [sign ++ Text.Numeral.digits n]) := by
  rcases List.eq_nil_or_concat' (Text.Numeral.digits n) with hNone | ⟨start, c, hLast⟩
  · exact absurd hNone (Text.Numeral.digits_ne_nil n)
  · have hDigit : c.isDigit = true := Text.Numeral.isDigits_digits n c (by simp [hLast])
    exact ⟨front, sign ++ start, c, by simp [hLast], Calendar.isBlank_of_isDigit hDigit⟩

/-- The last cell of a record is a number, and that of the headings is a word. -/
theorem ClashRecord.endsSolid_cells (record : ClashRecord) :
    ClashReview.EndsSolid record.cells := by
  let front := record.cells.dropLast
  have hCells : record.cells =
      front ++ [(Text.Numeral.signedText record.netQuantity.toInt).toList] := rfl
  have hNet : ∃ sign, (Text.Numeral.signedText record.netQuantity.toInt).toList =
      sign ++ Text.Numeral.digits record.netQuantity.toInt.natAbs := by
    rw [Text.Numeral.signedText]
    split
    · exact ⟨['-'], by simp [Text.Numeral.text]⟩
    · exact ⟨[], by simp [Text.Numeral.text]⟩
  obtain ⟨sign, hSign⟩ := hNet
  rw [hCells, hSign]
  exact endsSolid_digits front sign _

end Cells

namespace ClashReview

section Tables

variable {records : List ClashRecord} {cells : List (List Char)}

def tableCells (records : List ClashRecord) : List (List (List Char)) :=
  headings :: records.map ClashRecord.cells

/-- A text of lines: each ends in a line feed and holds no other. -/
structure HasLines (text : String) (lines : List (List Char)) : Prop where
  toList_eq : text.toList = lines.flatMap fun line => line ++ ['\n']
  lineFeed_not_mem : ∀ line ∈ lines, '\n' ∉ line

/-- A line in which every cell stands at the place of its column, with nothing but blanks behind it up to
the width of the column. -/
def ShowsCells (columns : List Nat) (cells : List (List Char)) (line : List Char) : Prop :=
  ∀ column < columns.length,
    cellAt columns column line = pad (cells.getD column []) (columns.getD column 0)

theorem length_of_mem_cells (h : cells ∈ records.map ClashRecord.cells) : cells.length = 8 := by
  obtain ⟨record, -, rfl⟩ := List.mem_map.mp h
  rfl

theorem endsSolid_of_mem_tableCells (h : cells ∈ tableCells records) : EndsSolid cells := by
  rcases List.mem_cons.mp h with rfl | hRecord
  · exact ⟨headings.dropLast, ['N', 'e'], 't', by decide, by decide⟩
  · obtain ⟨record, -, rfl⟩ := List.mem_map.mp hRecord
    exact record.endsSolid_cells

/-- Columns are too wide to be padded only if a text of a record is. -/
theorem forall_cell_length_le_iff :
    (∀ cells ∈ tableCells records, ∀ cell ∈ cells, cell.length ≤ widestColumn) ↔
      ∀ record ∈ records, ∀ text ∈ record.texts, text.length ≤ widestColumn := by
  constructor
  · intro h record hRecord text hText
    have hCells : record.cells ∈ tableCells records :=
      List.mem_cons_of_mem _ (List.mem_map_of_mem hRecord)
    have hLength := h _ hCells _ (ClashRecord.toList_mem_cells hText)
    rwa [String.length_toList] at hLength
  · intro h cells hLine cell hCell
    rcases List.mem_cons.mp hLine with rfl | hRow
    · revert cell
      decide
    · obtain ⟨record, hRecord, rfl⟩ := List.mem_map.mp hRow
      rcases ClashRecord.mem_cells_cases hCell with ⟨text, hText, rfl⟩ | hShort
      · rw [String.length_toList]
        exact h record hRecord text hText
      · exact hShort.length_le.trans (by decide)

theorem lineFeed_not_mem_of_mem_tableCells
    (h : ∀ record ∈ records, ∀ text ∈ record.texts, '\n' ∉ text.toList)
    (hLine : cells ∈ tableCells records) : ∀ cell ∈ cells, '\n' ∉ cell := by
  intro cell hCell
  rcases List.mem_cons.mp hLine with rfl | hRow
  · revert cell
    decide
  · obtain ⟨record, hRecord, rfl⟩ := List.mem_map.mp hRow
    rcases ClashRecord.mem_cells_cases hCell with ⟨text, hText, rfl⟩ | hShort
    · exact h record hRecord text hText
    · exact hShort.lineFeed_not_mem

theorem map_cells_ofRecords (records : List ClashRecord) :
    (ofRecords records).rows.map ReviewRow.cells = records.map ClashRecord.cells := by
  simp [ofRecords, ClashRecord.cells]

/-- There is a table unless a text is too long to be padded. -/
theorem render_ofRecords (records : List ClashRecord) :
    (ofRecords records).render =
      if ∀ record ∈ records, ∀ text ∈ record.texts, text.length ≤ widestColumn then
        .ok (String.ofList
          ((tableCells records).flatMap (line (widths (records.map ClashRecord.cells)))))
      else .error .columnTooWide := by
  have hLengths : ∀ cells ∈ records.map ClashRecord.cells, cells.length = 8 :=
    fun cells => length_of_mem_cells
  have hFits : ((widths (records.map ClashRecord.cells)).all fun width => width ≤ widestColumn) =
      true ↔ ∀ record ∈ records, ∀ text ∈ record.texts, text.length ≤ widestColumn := by
    rw [← forall_cell_length_le_iff, tableCells, ← forall_widths_le_iff hLengths]
    simp
  rw [render, map_cells_ofRecords]
  simp only [hFits]
  rfl

/-- A column whose cells fit is shown by every line, in the order of the lines. -/
theorem showsCells_lineText (records : List ClashRecord) :
    List.Forall₂ (ShowsCells (widths (records.map ClashRecord.cells))) (tableCells records)
      ((tableCells records).map (lineText (widths (records.map ClashRecord.cells)))) := by
  rw [List.forall₂_map_right_iff, List.forall₂_same]
  intro cells hLine column hColumn
  have hFits := forall₂_widths (fun cells => length_of_mem_cells) hLine
  exact cellAt_lineText hFits (endsSolid_of_mem_tableCells hLine) hColumn

/-- The table of records whose texts are on one line each: a line of headings and a line for each record,
in order, with every cell in its place. A column is as wide as its longest cell. There is no table only
if a text is longer than the widest column. -/
theorem render_aligned (records : List ClashRecord)
    (hTexts : ∀ record ∈ records, ∀ text ∈ record.texts, '\n' ∉ text.toList) :
    ((∃ table, (ofRecords records).render = .ok table) ↔
      ∀ record ∈ records, ∀ text ∈ record.texts, text.length ≤ widestColumn) ∧
    ∀ table, (ofRecords records).render = .ok table →
      ∃ columns lines, columns.length = 8 ∧
        (∀ column < 8,
          IsGreatest (cellLengths (tableCells records) column) (columns.getD column 0)) ∧
        HasLines table lines ∧ List.Forall₂ (ShowsCells columns) (tableCells records) lines := by
  have hLengths : ∀ cells ∈ records.map ClashRecord.cells, cells.length = 8 :=
    fun cells => length_of_mem_cells
  rw [render_ofRecords]
  split
  · next hFits =>
    refine ⟨iff_of_true ⟨_, rfl⟩ hFits, ?_⟩
    rintro table hTable
    cases hTable
    refine ⟨_, _, length_widths hLengths, fun column => isGreatest_widths hLengths, ⟨?_, ?_⟩,
      showsCells_lineText records⟩
    · rw [String.toList_ofList, List.flatMap_map]
      rfl
    · rw [List.forall_mem_map]
      intro cells hLine
      exact lineFeed_not_mem_lineText _ (lineFeed_not_mem_of_mem_tableCells hTexts hLine)
  · next hWide => exact ⟨iff_of_false (by simp) hWide, nofun⟩

/-- A clash whose texts end in blanks, are nothing but blanks, or are empty, on the first day there is. -/
def blankClash : ClashRecord where
  equipmentName := "30cm 定規 \u3000"
  bookingId := 0xFFFFFFFFFFFFFFFF
  bookingUser := " \t "
  bookingActivity := ""
  bookingStarts :=
    ⟨.first, .ofNumbers 9 0, ⟨0, by decide⟩, ⟨0, by decide⟩, 0, by decide, by decide⟩
  bookingEnds :=
    ⟨.first, .ofNumbers 10 0, ⟨0, by decide⟩, ⟨0, by decide⟩, 0, by decide, by decide⟩
  youQuantity := 1
  clashQuantity := 2
  totalQuantity := 3
  netQuantity := Int64.minValue

theorem render_aligned_with_blanks :
    (∀ record ∈ [blankClash, blankClash], ∀ text ∈ record.texts, '\n' ∉ text.toList) ∧
      ∃ table lines, (ofRecords [blankClash, blankClash]).render = .ok table ∧
        HasLines table lines ∧ lines.length = 3 := by
  have hTexts : ∀ record ∈ [blankClash, blankClash], ∀ text ∈ record.texts, '\n' ∉ text.toList := by
    decide
  obtain ⟨hRender, hLines⟩ := render_aligned [blankClash, blankClash] hTexts
  obtain ⟨table, hTable⟩ := hRender.mpr (by decide)
  obtain ⟨columns, lines, -, -, hTableLines, hShown⟩ := hLines table hTable
  exact ⟨hTexts, table, lines, hTable, hTableLines, hShown.length_eq.symm⟩

def longClash (n : Nat) : ClashRecord :=
  { blankClash with equipmentName := String.ofList (List.replicate n 'x') }

theorem lineFeed_not_mem_longClash (n : Nat) : ∀ text ∈ (longClash n).texts, '\n' ∉ text.toList := by
  simp [ClashRecord.texts, longClash, blankClash]

theorem render_longClash {n : Nat} (h : widestColumn < n) :
    (ofRecords [longClash n]).render = .error .columnTooWide := by
  rw [render_ofRecords, if_neg]
  intro hFits
  have hName := hFits (longClash n) (by simp) (longClash n).equipmentName (by simp [ClashRecord.texts])
  simp only [longClash, String.length_ofList, List.length_replicate] at hName
  omega

/-- A table is not made of all records whose texts are on one line each: a name that is too long by one
character is enough. -/
theorem render_fails_when_too_wide :
    (∀ record ∈ [longClash 65536], ∀ text ∈ record.texts, '\n' ∉ text.toList) ∧
      (ofRecords [longClash 65536]).render = .error .columnTooWide := by
  constructor
  · rw [List.forall_mem_singleton]
    exact lineFeed_not_mem_longClash 65536
  · exact render_longClash (by decide)

end Tables

end ClashReview

end EquipmentBooking
