import EquipmentBooking.Json.Layout
import EquipmentBooking.Proofs.Json.RecordExtent

namespace EquipmentBooking.Json

section WholeTexts

variable {α : Type} {read : Bytes → Except Issue (α × Bytes)} {s : Bytes} {a : α}

theorem readWholeText_eq_ok_iff :
    readWholeText read s = .ok a ↔ ∃ rest, read s = .ok (a, rest) ∧ Blank rest := by
  simp only [readWholeText, readEnd, bind_eq_ok, Prod.exists, Except.ok.injEq, ite_eq_ok_iff,
    List.isEmpty_iff, skipSpace_eq_nil_iff]
  constructor
  · rintro ⟨_, rest, hRead, _, ⟨hBlank, -⟩, rfl⟩
    exact ⟨rest, hRead, hBlank⟩
  · rintro ⟨rest, hRead, hBlank⟩
    exact ⟨a, rest, hRead, (), ⟨hBlank, trivial⟩, rfl⟩

/-- Blanks behind a closed text belong to it as well as to what follows. -/
theorem Closed.split_iff {tail : Bytes} (h : Closed fun s rest => read s = .ok (a, rest)) :
    (∃ blanks, Blank blanks ∧ read s = .ok (a, blanks ++ tail)) ↔
      ∃ text, readWholeText read text = .ok a ∧ s = text ++ tail := by
  simp only [readWholeText_eq_ok_iff]
  constructor
  · rintro ⟨blanks, hBlank, hRead⟩
    obtain ⟨used, -, rfl, hLater⟩ := h hRead
    refine ⟨used ++ blanks, ⟨blanks, hLater blanks trivial, hBlank⟩, ?_⟩
    rw [List.append_assoc]
  · rintro ⟨text, ⟨blanks, hRead, hBlank⟩, rfl⟩
    obtain ⟨used, -, rfl, hLater⟩ := h hRead
    refine ⟨blanks, hBlank, ?_⟩
    rw [List.append_assoc]
    exact hLater (blanks ++ tail) trivial

/-- What a text that is read as a whole can go on with is blanks. -/
theorem readWholeText_append_iff (h : ∀ a, Closed fun s rest => read s = .ok (a, rest))
    {front back : Bytes} {a b : α} (hFront : readWholeText read front = .ok a) :
    readWholeText read (front ++ back) = .ok b ↔ Blank back ∧ b = a := by
  obtain ⟨blanks, hRead, hBlank⟩ := readWholeText_eq_ok_iff.mp hFront
  obtain ⟨used, -, rfl, hLater⟩ := h a hRead
  have hAll : read (used ++ (blanks ++ back)) = .ok (a, blanks ++ back) := hLater _ trivial
  rw [readWholeText_eq_ok_iff, List.append_assoc, hAll]
  constructor
  · rintro ⟨rest, hSame, hRest⟩
    cases hSame
    exact ⟨fun c hc => hRest c (List.mem_append_right blanks hc), rfl⟩
  · rintro ⟨hBack, rfl⟩
    refine ⟨_, rfl, fun c hc => ?_⟩
    rcases List.mem_append.mp hc with hc | hc
    · exact hBlank c hc
    · exact hBack c hc

end WholeTexts

variable {f : RecordFormat} {row : Row f.members} {rows : List (Row f.members)} {fuel : Nat}
  {first : Bool} {s rest : Bytes}

theorem RecordFormat.read_skipSpace (f : RecordFormat) (s : Bytes) :
    f.read (skipSpace s) = f.read s := by
  rw [read, skipSpace_skipSpace, read]

/-- No record starts with the end of a list. -/
theorem RecordFormat.opens_of_read (h : f.read s = .ok (row, rest)) :
    ∃ b, (skipSpace s).head? = some b ∧ b ≠ byte ']' := by
  obtain ⟨b, after, hSpace, ⟨rfl, -⟩ | ⟨rfl, -⟩⟩ := RecordFormat.read_eq_ok_iff.mp h
  · exact ⟨_, by rw [hSpace]; rfl, by decide⟩
  · exact ⟨_, by rw [hSpace]; rfl, by decide⟩

/-- A list of records is over, or has a record in front of the others. -/
theorem readRecordsWithin_eq_ok_iff :
    readRecordsWithin f (fuel + 1) first s = .ok (rows, rest) ↔
      (rows = [] ∧ skipSpace s = byte ']' :: rest) ∨
        ∃ row more, rows = row :: more ∧ ∃ element, ElementAt first s element ∧
          ∃ after, f.read element = .ok (row, after) ∧
            readRecordsWithin f fuel false after = .ok (more, rest) := by
  simp only [readRecordsWithin, bind_eq_ok]
  constructor
  · rintro ⟨place, hNext, hRead⟩
    cases place with
    | none =>
        simp only [bind_eq_ok, Except.ok.injEq, Prod.mk.injEq, readListEnd_eq_ok_iff] at hRead
        obtain ⟨_, hEnd, rfl, rfl⟩ := hRead
        exact .inl ⟨rfl, hEnd⟩
    | some start =>
        simp only [bind_eq_ok, Except.ok.injEq, Prod.exists, Prod.mk.injEq] at hRead
        obtain ⟨row, after, hRow, more, _, hMore, rfl, rfl⟩ := hRead
        obtain ⟨element, hPlace, rfl, -⟩ := nextElement_eq_some_iff.mp hNext
        rw [f.read_skipSpace] at hRow
        exact .inr ⟨row, more, rfl, element, hPlace, after, hRow, hMore⟩
  · rintro (⟨rfl, hEnd⟩ | ⟨row, more, rfl, element, hPlace, after, hRow, hMore⟩)
    · refine ⟨none, nextElement_eq_none_iff.mpr ⟨rest, hEnd⟩, ?_⟩
      simp only [readListEnd_eq_ok_iff.mpr hEnd, bind, Except.bind]
    · refine ⟨some (skipSpace element), ?_, ?_⟩
      · exact nextElement_eq_some_iff.mpr ⟨element, hPlace, rfl, RecordFormat.opens_of_read hRow⟩
      · simp only [f.read_skipSpace, hRow, hMore, bind, Except.bind]

/-- An element that is, by itself, the record of a row. -/
def IsRecord (f : RecordFormat) (element : Bytes) (row : Row f.members) : Prop :=
  readWholeText f.read element = .ok row

/-- The further elements of a list, with the commas in front of them and the end of the list. -/
def further (elements : List Bytes) (rest : Bytes) : Bytes :=
  elements.flatMap (byte ',' :: ·) ++ byte ']' :: rest

theorem further_cons (element : Bytes) (elements : List Bytes) (rest : Bytes) :
    further (element :: elements) rest = byte ',' :: (element ++ further elements rest) := by
  simp [further]

/-- Where records have been read from, the text can be cut into elements of which each is a record. -/
theorem elements_of_readRecordsWithin
    (h : readRecordsWithin f fuel false s = .ok (rows, rest)) :
    ∃ blanks elements, Blank blanks ∧ s = blanks ++ further elements rest ∧
      List.Forall₂ (IsRecord f) elements rows := by
  induction fuel generalizing s rows with
  | zero => cases h
  | succ fuel ih =>
      rcases readRecordsWithin_eq_ok_iff.mp h with
        ⟨rfl, hEnd⟩ | ⟨row, more, rfl, element, hPlace, after, hRow, hMore⟩
      · obtain ⟨blanks, hBlank, -, rfl⟩ := skipSpace_eq_cons_iff.mp hEnd
        exact ⟨blanks, [], hBlank, rfl, .nil⟩
      · obtain ⟨blanks, hBlank, -, rfl⟩ := skipSpace_eq_cons_iff.mp hPlace
        obtain ⟨behind, elements, hBehind, rfl, hRecords⟩ := ih hMore
        obtain ⟨text, hText, rfl⟩ :=
          (RecordFormat.closed_read f row).split_iff.mp ⟨behind, hBehind, hRow⟩
        refine ⟨blanks, text :: elements, hBlank, ?_, .cons hText hRecords⟩
        rw [further_cons]

/-- The commas between elements are all that joins their records, so they are read one after the other. -/
theorem readRecordsWithin_of_elements {elements : List Bytes} {blanks : Bytes}
    (hBlank : Blank blanks) (hRecords : List.Forall₂ (IsRecord f) elements rows)
    (hFuel : elements.length < fuel) :
    readRecordsWithin f fuel false (blanks ++ further elements rest) = .ok (rows, rest) := by
  induction hRecords generalizing fuel blanks with
  | nil =>
      obtain ⟨fuel, rfl⟩ := Nat.exists_eq_succ_of_ne_zero (Nat.ne_zero_of_lt hFuel)
      refine readRecordsWithin_eq_ok_iff.mpr (.inl ⟨rfl, ?_⟩)
      exact skipSpace_eq_cons_iff.mpr ⟨blanks, hBlank, by decide, rfl⟩
  | @cons element row elements rows hRecord hRecords ih =>
      obtain ⟨fuel, rfl⟩ := Nat.exists_eq_succ_of_ne_zero (Nat.ne_zero_of_lt hFuel)
      obtain ⟨behind, hBehind, hRow⟩ :=
        (RecordFormat.closed_read f row).split_iff.mpr ⟨element, hRecord, rfl⟩
      refine readRecordsWithin_eq_ok_iff.mpr (.inr ⟨row, rows, rfl, _, ?_, _, hRow, ?_⟩)
      · rw [further_cons]
        exact skipSpace_eq_cons_iff.mpr ⟨blanks, hBlank, by decide, rfl⟩
      · exact ih hBehind (Nat.lt_of_succ_lt_succ hFuel)

theorem length_lt_length_further (elements : List Bytes) (rest : Bytes) :
    elements.length < (further elements rest).length := by
  induction elements with
  | nil => simp [further]
  | cons element elements ih =>
      rw [further_cons]
      simp only [List.length_cons, List.length_append]
      omega

theorem isInside_cons_iff {inside element : Bytes} {elements : List Bytes} :
    IsInside inside (element :: elements) ↔
      inside = element ++ elements.flatMap (byte ',' :: ·) := by
  have hJoin : List.intercalate [byte ','] (element :: elements) =
      element ++ elements.flatMap (byte ',' :: ·) := by
    induction elements generalizing element with
    | nil => simp [List.intercalate]
    | cons next elements ih => simpa [List.intercalate] using ih
  rw [IsInside, hJoin]
  nofun

/-- A list from behind its opening bracket. -/
theorem readRecordsWithin_true_iff :
    readRecordsWithin f (s.length + 1) true s = .ok (rows, rest) ↔
      ∃ inside elements, IsInside inside elements ∧ List.Forall₂ (IsRecord f) elements rows ∧
        s = inside ++ byte ']' :: rest := by
  rw [readRecordsWithin_eq_ok_iff]
  constructor
  · rintro (⟨rfl, hEnd⟩ | ⟨row, more, rfl, element, hPlace, after, hRow, hMore⟩)
    · obtain ⟨blanks, hBlank, -, rfl⟩ := skipSpace_eq_cons_iff.mp hEnd
      exact ⟨blanks, [], hBlank, .nil, rfl⟩
    · obtain rfl : s = element := hPlace
      obtain ⟨behind, elements, hBehind, rfl, hRecords⟩ := elements_of_readRecordsWithin hMore
      obtain ⟨text, hText, hSplit⟩ :=
        (RecordFormat.closed_read f row).split_iff.mp ⟨behind, hBehind, hRow⟩
      refine ⟨_, text :: elements, isInside_cons_iff.mpr rfl, .cons hText hRecords, ?_⟩
      rw [hSplit, further, List.append_assoc]
  · rintro ⟨inside, elements, hInside, hRecords, hSplit⟩
    cases hRecords with
    | nil => exact .inl ⟨rfl, skipSpace_eq_cons_iff.mpr ⟨inside, hInside, by decide, hSplit⟩⟩
    | @cons element row elements rows hRecord hRecords =>
        rw [isInside_cons_iff.mp hInside, List.append_assoc] at hSplit
        obtain ⟨behind, hBehind, hRow⟩ :=
          (RecordFormat.closed_read f row).split_iff.mpr ⟨element, hRecord, hSplit⟩
        have hFuel := length_lt_length_further elements rest
        refine .inr ⟨row, rows, rfl, s, rfl, _, hRow, ?_⟩
        refine readRecordsWithin_of_elements hBehind hRecords ?_
        rw [hSplit, List.length_append]
        exact Nat.lt_add_left _ hFuel

theorem readRecords_eq_ok_iff :
    readRecords f s = .ok (rows, rest) ↔
      ∃ b after, skipSpace s = b :: after ∧
        ((b = byte 'n' ∧ rows = []) ∧ after = [byte 'u', byte 'l', byte 'l'] ++ rest ∨
          b = byte '[' ∧ readRecordsWithin f (after.length + 1) true after = .ok (rows, rest)) := by
  rw [readRecords]
  refine onFirst_eq_ok_iff.trans ?_
  refine exists_congr fun b => exists_congr fun after => and_congr_right fun _ => ?_
  split
  · next hNull =>
    subst hNull
    rw [map_pair_eq_ok, readIdent_eq_ok_iff]
    constructor
    · exact fun ⟨hRows, hWord⟩ => .inl ⟨⟨rfl, hRows⟩, hWord⟩
    · rintro (⟨⟨-, hRows⟩, hWord⟩ | ⟨hList, -⟩)
      · exact ⟨hRows, hWord⟩
      · exact absurd hList (by decide)
  · next hOther =>
    rw [ite_eq_ok_iff]
    constructor
    · exact .inr
    · rintro (⟨⟨hNull, -⟩, -⟩ | hList)
      · exact absurd hNull hOther
      · exact hList

theorem closed_readRecords (f : RecordFormat) (rows : List (Row f.members)) :
    Closed fun s rest => readRecords f s = .ok (rows, rest) := by
  refine .congr (fun s rest => readRecords_eq_ok_iff) (Closed.onFirst fun b => .or ?_ ?_)
  · refine .and_left _ ?_
    rintro s rest rfl
    exact ⟨_, by decide, rfl, fun later _ => rfl⟩
  · refine .and_left _ ?_
    rintro s rest hRead
    obtain ⟨inside, elements, hInside, hRecords, rfl⟩ := readRecordsWithin_true_iff.mp hRead
    refine ⟨inside ++ [byte ']'], by simp, by simp, fun later _ => ?_⟩
    exact readRecordsWithin_true_iff.mpr ⟨inside, elements, hInside, hRecords, by simp⟩

/-- A text is read as records just when it is `null`, for none, or a list of as many elements, each of
which is one of the records. -/
theorem readWholeText_readRecords_iff {body : Bytes} :
    readWholeText (readRecords f) body = .ok rows ↔
      (IsNull body ∧ rows = []) ∨
        ∃ elements, IsList body elements ∧ List.Forall₂ (IsRecord f) elements rows := by
  rw [readWholeText_eq_ok_iff]
  constructor
  · rintro ⟨back, hRead, hBack⟩
    obtain ⟨b, after, hSpace, ⟨⟨rfl, hRows⟩, hWord⟩ | ⟨rfl, hList⟩⟩ := readRecords_eq_ok_iff.mp hRead
    · obtain ⟨front, hFront, -, rfl⟩ := skipSpace_eq_cons_iff.mp hSpace
      rw [hWord]
      exact .inl ⟨⟨front, back, hFront, hBack, rfl⟩, hRows⟩
    · obtain ⟨front, hFront, -, rfl⟩ := skipSpace_eq_cons_iff.mp hSpace
      obtain ⟨inside, elements, hInside, hRecords, rfl⟩ := readRecordsWithin_true_iff.mp hList
      exact .inr ⟨elements, ⟨front, inside, back, hFront, hBack, hInside, rfl⟩, hRecords⟩
  · rintro (⟨⟨front, back, hFront, hBack, rfl⟩, hRows⟩ |
      ⟨elements, ⟨front, inside, back, hFront, hBack, hInside, rfl⟩, hRecords⟩)
    · refine ⟨back, readRecords_eq_ok_iff.mpr ⟨byte 'n', _, ?_, .inl ⟨⟨rfl, hRows⟩, rfl⟩⟩, hBack⟩
      exact skipSpace_eq_cons_iff.mpr ⟨front, hFront, by decide, rfl⟩
    · refine ⟨back, readRecords_eq_ok_iff.mpr
        ⟨byte '[', inside ++ byte ']' :: back, ?_, .inr ⟨rfl, ?_⟩⟩, hBack⟩
      · exact skipSpace_eq_cons_iff.mpr ⟨front, hFront, by decide, rfl⟩
      · exact readRecordsWithin_true_iff.mpr ⟨inside, elements, hInside, hRecords, rfl⟩

end EquipmentBooking.Json
