import EquipmentBooking.Json.Scalar
import EquipmentBooking.Proofs.Json.Extent

namespace EquipmentBooking.Json

/-- What is read from a number on, the first byte of the number included. -/
theorem Local.atNumber {gives : Bytes → Bytes → Prop} (h : Local gives) :
    Local fun s rest => ∃ b after, skipSpace s = b :: after ∧
      (b = byte '-' ∨ (digit? b).isSome = true) ∧ gives (b :: after) rest := by
  have hStart := local_skipSpace.comp
    (h.and_head fun next => ∃ b, next = some b ∧ (b = byte '-' ∨ (digit? b).isSome = true))
  intro s rest hGives
  obtain ⟨b, after, hSpace, hNumber, hGives⟩ := hGives
  obtain ⟨used, hLeast, hSplit, hLater⟩ := hStart ⟨b :: after, hSpace, ⟨b, rfl, hNumber⟩, hGives⟩
  refine ⟨used, hLeast, hSplit, fun later hSame => ?_⟩
  obtain ⟨behind, hSpace, ⟨c, hNext, hNumber⟩, hGives⟩ := hLater later hSame
  obtain ⟨more, rfl⟩ := List.head?_eq_some_iff.mp hNext
  exact ⟨c, more, hSpace, hNumber, hGives⟩

section Scalars

variable {s rest : Bytes}

theorem readString_eq_ok_iff {text : String} :
    readString s = .ok (text, rest) ↔
      ∃ b after, skipSpace s = b :: after ∧ b = byte '"' ∧ readText after = .ok (text, rest) := by
  rw [readString]
  refine onFirst_eq_ok_iff.trans ?_
  simp only [ite_eq_ok_iff]

theorem closed_readString (text : String) :
    Closed fun s rest => readString s = .ok (text, rest) := by
  simp only [readString_eq_ok_iff]
  exact Closed.onFirst fun b => (closed_readText text).and_left _

theorem readString_skipSpace (s : Bytes) : readString (skipSpace s) = readString s := by
  rw [readString, skipSpace_skipSpace, readString]

theorem readOptionalString_eq_ok_iff {value : Option String} :
    readOptionalString s = .ok (value, rest) ↔
      (∃ b after, skipSpace s = b :: after ∧ (b = byte 'n' ∧ value = none) ∧
        readIdent [byte 'u', byte 'l', byte 'l'] after = .ok rest) ∨
      ∃ text, value = some text ∧ readString s = .ok (text, rest) := by
  rw [readOptionalString]
  refine onFirst_eq_ok_iff.trans ⟨?_, ?_⟩
  · rintro ⟨b, after, h, hRead⟩
    split at hRead
    · next hNull =>
      obtain ⟨hValue, hWord⟩ := map_pair_eq_ok.mp hRead
      exact .inl ⟨b, after, h, ⟨hNull, hValue⟩, hWord⟩
    · obtain ⟨⟨text, behind⟩, hText, hSame⟩ := map_eq_ok.mp hRead
      cases hSame
      rw [← h, readString_skipSpace] at hText
      exact .inr ⟨text, rfl, hText⟩
  · rintro (⟨b, after, h, ⟨hNull, hValue⟩, hWord⟩ | ⟨text, rfl, hText⟩)
    · refine ⟨b, after, h, ?_⟩
      rw [if_pos hNull]
      exact map_pair_eq_ok.mpr ⟨hValue, hWord⟩
    · obtain ⟨b, after, h, rfl, -⟩ := readString_eq_ok_iff.mp hText
      refine ⟨_, after, h, ?_⟩
      rw [if_neg (by decide), ← h, readString_skipSpace, hText]
      rfl

theorem closed_readOptionalString (value : Option String) :
    Closed fun s rest => readOptionalString s = .ok (value, rest) := by
  simp only [readOptionalString_eq_ok_iff]
  refine .or (Closed.onFirst fun b => .and_left _ (closed_readIdent (List.cons_ne_nil _ _))) ?_
  exact .exists fun text => (closed_readString text).and_left _

theorem readFlag_eq_ok_iff {value : Bool} :
    readFlag s = .ok (value, rest) ↔
      ∃ b after, skipSpace s = b :: after ∧
        ((b = byte 't' ∧ value = true) ∧
            readIdent [byte 'r', byte 'u', byte 'e'] after = .ok rest ∨
          (b = byte 'f' ∧ value = false) ∧
            readIdent [byte 'a', byte 'l', byte 's', byte 'e'] after = .ok rest) := by
  rw [readFlag]
  refine onFirst_eq_ok_iff.trans ?_
  refine exists_congr fun b => exists_congr fun after => and_congr_right fun _ => ?_
  split
  · next hTrue => simp [hTrue, map_pair_eq_ok]
  · next hTrue =>
    split
    · next hFalse => simp [hFalse, map_pair_eq_ok]
    · next hFalse =>
      refine iff_of_false nofun ?_
      rintro (⟨⟨h, -⟩, -⟩ | ⟨⟨h, -⟩, -⟩)
      · exact hTrue h
      · exact hFalse h

theorem closed_readFlag (value : Bool) :
    Closed fun s rest => readFlag s = .ok (value, rest) := by
  simp only [readFlag_eq_ok_iff]
  exact Closed.onFirst fun b => .or (.and_left _ (closed_readIdent (List.cons_ne_nil _ _)))
    (.and_left _ (closed_readIdent (List.cons_ne_nil _ _)))

def Number.integer? : Number → Option Int
  | natural n => some n
  | negative n => some (-(n : Int))
  | real .. => none

theorem readWholeNumber_eq_ok_iff {α : Type} {expected : String} {ofInt? : Int → Option α}
    {value : α} :
    readWholeNumber expected ofInt? s = .ok (value, rest) ↔
      ∃ b after, skipSpace s = b :: after ∧ (b = byte '-' ∨ (digit? b).isSome = true) ∧
        ∃ n : Number, n.integer?.bind ofInt? = some value ∧
          readNumber (b :: after) = .ok (n, rest) := by
  rw [readWholeNumber]
  refine onFirst_eq_ok_iff.trans ?_
  simp only [ite_eq_ok_iff, bind_eq_ok, Prod.exists]
  refine exists_congr fun b => exists_congr fun after => and_congr_right fun _ =>
    and_congr_right fun _ => ?_
  constructor
  · rintro ⟨n, behind, hRead, hValue⟩
    refine ⟨n, ?_⟩
    cases n with
    | real => cases hValue
    | natural m | negative m =>
        dsimp only at hValue
        split at hValue
        · next hSome =>
          cases hValue
          exact ⟨hSome, hRead⟩
        · cases hValue
  · rintro ⟨n, hValue, hRead⟩
    refine ⟨n, rest, hRead, ?_⟩
    cases n with
    | real => cases hValue
    | natural m | negative m =>
        have hSome : ofInt? _ = some value := hValue
        simp only [hSome]

theorem local_readWholeNumber {α : Type} (expected : String) (ofInt? : Int → Option α)
    (value : α) : Local fun s rest => readWholeNumber expected ofInt? s = .ok (value, rest) := by
  simp only [readWholeNumber_eq_ok_iff]
  exact Local.atNumber (.exists fun n => (local_readNumber n).and_left _)

theorem readMoment_eq_ok_iff {t : Timestamp} :
    readMoment s = .ok (t, rest) ↔
      ∃ b after, skipSpace s = b :: after ∧ b = byte '"' ∧
        ∃ text : String, Timestamp.read text.toList = .ok t ∧
          readText after = .ok (text, rest) := by
  rw [readMoment]
  refine onFirst_eq_ok_iff.trans ?_
  simp only [ite_eq_ok_iff, bind_eq_ok, Prod.exists]
  refine exists_congr fun b => exists_congr fun after => and_congr_right fun _ =>
    and_congr_right fun _ => ?_
  constructor
  · rintro ⟨text, behind, hText, hMoment⟩
    split at hMoment
    · next hRead =>
      cases hMoment
      exact ⟨text, hRead, hText⟩
    · cases hMoment
  · rintro ⟨text, hRead, hText⟩
    refine ⟨text, rest, hText, ?_⟩
    simp only [hRead]

theorem closed_readMoment (t : Timestamp) :
    Closed fun s rest => readMoment s = .ok (t, rest) := by
  simp only [readMoment_eq_ok_iff]
  exact Closed.onFirst fun b => .and_left _ (.exists fun text => (closed_readText text).and_left _)

/-- One byte behind a value can matter, for that of a number. -/
theorem local_readScalar (kind : Scalar) (value : kind.Carrier) :
    Local fun s rest => kind.read s = .ok (value, rest) := by
  cases kind with
  | text => exact (closed_readString value).toLocal
  | optionalText => exact (closed_readOptionalString value).toLocal
  | flag => exact (closed_readFlag value).toLocal
  | moment => exact (closed_readMoment value).toLocal
  | count | id | place | balance =>
      simp only [Scalar.read]
      exact local_readWholeNumber _ _ value

end Scalars

section Series

/-- Where the next item of a series starts. Items have a comma in front of them but for the first
one, which does not start with the closing mark. -/
def NextItem (close : UInt8) (first : Bool) (s item : Bytes) : Prop :=
  if first then skipSpace s = item ∧ ∃ b, item.head? = some b ∧ b ≠ close
  else skipSpace s = byte ',' :: item

theorem local_nextItem (close : UInt8) (first : Bool) : Local (NextItem close first) := by
  cases first with
  | false => exact (closed_skipSpace (byte ',')).toLocal
  | true =>
      rintro s item ⟨hSpace, b, hNext, hOther⟩
      obtain ⟨used, hLeast, hSplit, hLater⟩ := local_skipSpace hSpace
      refine ⟨used, hLeast, hSplit, fun later hSame => ⟨hLater later hSame, b, ?_, hOther⟩⟩
      exact hSame.trans hNext

/-- In front of every item but the first one a comma is used up. -/
theorem NextItem.length_lt {close : UInt8} {first : Bool} {s item : Bytes}
    (h : NextItem close first s item) : item.length < s.length + first.toNat := by
  have hShorter := length_skipSpace_le s
  cases first with
  | false =>
      have hSpace : skipSpace s = byte ',' :: item := h
      rw [hSpace] at hShorter
      exact hShorter
  | true =>
      rw [h.1] at hShorter
      exact Nat.lt_succ_of_le hShorter

/-- A series is its closing mark, or an item with the rest of the series behind it. Each item takes
from the fuel. -/
def IsSeries (close : UInt8) (item : Nat → Bytes → Bytes → Prop)
    (series : Nat → Bool → Bytes → Bytes → Prop) : Prop :=
  ∀ fuel first s rest, series (fuel + 1) first s rest ↔
    skipSpace s = close :: rest ∨ ∃ start, NextItem close first s start ∧
      ∃ after, item fuel start after ∧ series fuel false after rest

/-- More fuel than twice what is used up, and the bound, makes no difference. -/
def Enough (bound : Nat) (gives : Nat → Bytes → Bytes → Prop) (fuel : Nat) : Prop :=
  ∀ ⦃s rest⦄, gives fuel s rest →
    ∀ more, 2 * s.length + bound ≤ more + 2 * rest.length → gives more s rest

variable {close : UInt8} {item : Nat → Bytes → Bytes → Prop}
  {series : Nat → Bool → Bytes → Bytes → Prop} {fuel : Nat}

theorem IsSeries.closed (h : IsSeries close item series) (hItem : Local (item fuel))
    (hSeries : Closed (series fuel false)) (first : Bool) : Closed (series (fuel + 1) first) := by
  refine .congr (h fuel first) (.or (closed_skipSpace close) ?_)
  exact (local_nextItem close first).comp_closed (hItem.comp_closed hSeries)

theorem IsSeries.enough (h : IsSeries close item series) (hLocal : Local (item fuel))
    (hClosed : Closed (series fuel false)) (hItem : Enough 1 item fuel)
    (hSeries : Enough 1 (series · false) fuel) (first : Bool) :
    Enough (1 + first.toNat) (series · first) (fuel + 1) := by
  intro s rest hGives more hMore
  have hShorter := (h.closed hLocal hClosed first).length_le hGives
  obtain ⟨more, rfl⟩ : ∃ n, more = n + 1 := ⟨more - 1, by omega⟩
  rw [h]
  rcases (h fuel first s rest).mp hGives with hEnd | ⟨start, hNext, after, hStart, hAfter⟩
  · exact .inl hEnd
  · have hRest := hClosed.length_le hAfter
    have hLength := hLocal.length_le hStart
    have hSpent := hNext.length_lt
    have hFirst := first.toNat_le
    exact .inr ⟨start, hNext, after, hItem hStart more (by omega), hSeries hAfter more (by omega)⟩

end Series

section Skipped

variable {s rest : Bytes} {fuel : Nat}

theorem local_skipNumber : Local fun s rest => skipNumber s = .ok rest := by
  simp only [skipNumber, map_eq_ok, Prod.exists, exists_eq_right]
  exact .exists fun form => local_readForm .invalidNumber form

theorem skipName_eq_ok_iff :
    skipName s = .ok rest ↔ ∃ b after, skipSpace s = b :: after ∧ b = byte '"' ∧
      ∃ behind, skipText after = .ok behind ∧ readColon behind = .ok rest := by
  rw [skipName]
  refine onFirst_eq_ok_iff.trans ?_
  simp only [ite_eq_ok_iff, bind_eq_ok]

theorem closed_skipName : Closed fun s rest => skipName s = .ok rest := by
  simp only [skipName_eq_ok_iff]
  exact Closed.onFirst fun b => .and_left _ ((closed_skipTextFrom .plain).comp closed_readColon)

theorem onItem_eq_ok_iff {close : UInt8} {first : Bool} {atEnd otherwise : Issue}
    {next : Bytes → Except Issue Bytes} (hClose : byte ',' ≠ close) :
    ((match skipSpace s with
      | [] => .error atEnd
      | b :: after =>
        if b = close then .ok after
        else if first then next (b :: after)
        else if b = byte ',' then next after
        else .error otherwise : Except Issue Bytes) = .ok rest) ↔
      skipSpace s = close :: rest ∨
        ∃ start, NextItem close first s start ∧ next start = .ok rest := by
  refine onFirst_eq_ok_iff.trans ⟨?_, ?_⟩
  · rintro ⟨b, after, h, hRead⟩
    split at hRead
    · next hClose =>
      cases hRead
      rw [h, hClose]
      exact .inl rfl
    · next hOther =>
      split at hRead
      · next hFirst =>
        subst hFirst
        exact .inr ⟨b :: after, ⟨h, b, rfl, hOther⟩, hRead⟩
      · next hLater =>
        obtain rfl : first = false := Bool.eq_false_iff.mpr hLater
        obtain ⟨rfl, hNext⟩ := ite_eq_ok_iff.mp hRead
        exact .inr ⟨after, h, hNext⟩
  · rintro (h | ⟨start, hStart, hNext⟩)
    · exact ⟨close, rest, h, if_pos rfl⟩
    · cases first with
      | false =>
          have h : skipSpace s = byte ',' :: start := hStart
          refine ⟨byte ',', start, h, ?_⟩
          rw [if_neg hClose, if_neg Bool.false_ne_true, if_pos rfl]
          exact hNext
      | true =>
          obtain ⟨h, b, hHead, hOther⟩ := hStart
          obtain ⟨after, rfl⟩ := List.head?_eq_some_iff.mp hHead
          refine ⟨b, after, h, ?_⟩
          rw [if_neg hOther, if_pos rfl]
          exact hNext

theorem skipElementsWithin_isSeries :
    IsSeries (byte ']') (fun fuel s rest => skipValueWithin fuel s = .ok rest)
      fun fuel first s rest => skipElementsWithin fuel first s = .ok rest := by
  intro fuel first s rest
  change skipElementsWithin (fuel + 1) first s = .ok rest ↔ _
  rw [skipElementsWithin]
  refine (onItem_eq_ok_iff (by decide)).trans ?_
  simp only [bind_eq_ok]

theorem skipMembersWithin_isSeries :
    IsSeries (byte '\x7d')
      (fun fuel s rest => ∃ value, skipName s = .ok value ∧ skipValueWithin fuel value = .ok rest)
      fun fuel first s rest => skipMembersWithin fuel first s = .ok rest := by
  intro fuel first s rest
  change skipMembersWithin (fuel + 1) first s = .ok rest ↔ _
  rw [skipMembersWithin]
  refine (onItem_eq_ok_iff (by decide)).trans ?_
  simp only [bind_eq_ok]
  grind

/-- No word starts like a number. -/
theorem ne_of_number {b : UInt8} (h : b = byte '-' ∨ (digit? b).isSome = true) :
    b ≠ byte 'n' ∧ b ≠ byte 't' ∧ b ≠ byte 'f' := by
  refine ⟨?_, ?_, ?_⟩
  all_goals
    rintro rfl
    revert h
    decide

/-- What can be passed over, by its first byte. -/
theorem skipValueWithin_eq_ok_iff :
    skipValueWithin (fuel + 1) s = .ok rest ↔
      ((∃ b after, skipSpace s = b :: after ∧
        (b = byte 'n' ∧ readIdent [byte 'u', byte 'l', byte 'l'] after = .ok rest ∨
          b = byte 't' ∧ readIdent [byte 'r', byte 'u', byte 'e'] after = .ok rest ∨
          b = byte 'f' ∧ readIdent [byte 'a', byte 'l', byte 's', byte 'e'] after = .ok rest ∨
          b = byte '"' ∧ skipText after = .ok rest ∨
          b = byte '[' ∧ skipElementsWithin fuel true after = .ok rest ∨
          b = byte '\x7b' ∧ skipMembersWithin fuel true after = .ok rest)) ∨
        ∃ b after, skipSpace s = b :: after ∧ (b = byte '-' ∨ (digit? b).isSome = true) ∧
          skipNumber (b :: after) = .ok rest) := by
  rw [skipValueWithin]
  refine onFirst_eq_ok_iff.trans ?_
  simp only [← exists_or, ← and_or_left]
  refine exists_congr fun b => exists_congr fun after => and_congr_right fun _ => ?_
  constructor
  · intro hRead
    split_ifs at hRead <;> simp_all
  · rintro ((⟨rfl, h⟩ | ⟨rfl, h⟩ | ⟨rfl, h⟩ | ⟨rfl, h⟩ | ⟨rfl, h⟩ | ⟨rfl, h⟩) | ⟨hNumber, h⟩)
    · exact h
    · exact h
    · exact h
    · exact h
    · exact h
    · exact h
    · obtain ⟨hNull, hTrue, hFalse⟩ := ne_of_number hNumber
      rw [if_neg hNull, if_neg hTrue, if_neg hFalse, if_pos hNumber]
      exact h

/-- How far values, elements and members are looked into when they are passed over. -/
theorem extent_skipWithin (fuel : Nat) :
    (Local fun s rest => skipValueWithin fuel s = .ok rest) ∧
      (∀ first, Closed fun s rest => skipElementsWithin fuel first s = .ok rest) ∧
      ∀ first, Closed fun s rest => skipMembersWithin fuel first s = .ok rest := by
  induction fuel with
  | zero =>
      refine ⟨fun _ _ h => ?_, fun _ _ _ h => ?_, fun _ _ _ h => ?_⟩
      · cases h
      · cases h
      · cases h
  | succ fuel ih =>
      obtain ⟨hValue, hElements, hMembers⟩ := ih
      have hMember := closed_skipName.toLocal.comp hValue
      refine ⟨?_, skipElementsWithin_isSeries.closed hValue (hElements false),
        skipMembersWithin_isSeries.closed hMember (hMembers false)⟩
      simp only [skipValueWithin_eq_ok_iff]
      refine .or (Closed.toLocal (Closed.onFirst fun b => ?_)) (Local.atNumber local_skipNumber)
      refine .or (.and_left _ (closed_readIdent (List.cons_ne_nil _ _))) ?_
      refine .or (.and_left _ (closed_readIdent (List.cons_ne_nil _ _))) ?_
      refine .or (.and_left _ (closed_readIdent (List.cons_ne_nil _ _))) ?_
      refine .or (.and_left _ (closed_skipTextFrom .plain)) ?_
      exact .or (.and_left _ (hElements true)) (.and_left _ (hMembers true))

/-- Values, elements and members are looked at together, since each of the three functions calls the
others with one less fuel. -/
theorem enough_skipWithin (fuel : Nat) :
    Enough 1 (fun fuel s rest => skipValueWithin fuel s = .ok rest) fuel ∧
      (∀ first, Enough (1 + first.toNat)
        (fun fuel s rest => skipElementsWithin fuel first s = .ok rest) fuel) ∧
      ∀ first, Enough (1 + first.toNat)
        (fun fuel s rest => skipMembersWithin fuel first s = .ok rest) fuel := by
  induction fuel with
  | zero =>
      refine ⟨fun _ _ h => ?_, fun _ _ _ h => ?_, fun _ _ _ h => ?_⟩
      · cases h
      · cases h
      · cases h
  | succ fuel ih =>
      obtain ⟨hValue, hElements, hMembers⟩ := ih
      obtain ⟨hValueExtent, hElementsExtent, hMembersExtent⟩ := extent_skipWithin fuel
      have hMember : Enough 1
          (fun fuel s rest => ∃ value, skipName s = .ok value ∧ skipValueWithin fuel value = .ok rest)
          fuel := by
        rintro s rest ⟨value, hName, hRead⟩ more hMore
        have hShorter := closed_skipName.length_le hName
        exact ⟨value, hName, hValue hRead more (by omega)⟩
      refine ⟨?_, skipElementsWithin_isSeries.enough hValueExtent (hElementsExtent false) hValue
        (hElements false), skipMembersWithin_isSeries.enough
        (closed_skipName.toLocal.comp hValueExtent) (hMembersExtent false) hMember (hMembers false)⟩
      -- the bracket of a list or object is a byte more, which makes up for the higher bounds behind it
      intro s rest hRead more hMore
      have hShorter := (extent_skipWithin (fuel + 1)).1.length_le hRead
      obtain ⟨more, rfl⟩ : ∃ n, more = n + 1 := ⟨more - 1, by omega⟩
      rw [skipValueWithin_eq_ok_iff] at hRead ⊢
      refine hRead.imp_left ?_
      rintro ⟨b, after, hSpace, hCases⟩
      have hAfter := length_skipSpace_le s
      rw [hSpace, List.length_cons] at hAfter
      refine ⟨b, after, hSpace, ?_⟩
      refine hCases.imp_right <| Or.imp_right <| Or.imp_right <| Or.imp_right <| Or.imp ?_ ?_
      · rintro ⟨hOpen, hList⟩
        exact ⟨hOpen, hElements true hList more (by simp only [Bool.toNat_true]; omega)⟩
      · rintro ⟨hOpen, hObject⟩
        exact ⟨hOpen, hMembers true hObject more (by simp only [Bool.toNat_true]; omega)⟩

theorem local_skipValue : Local fun s rest => skipValue s = .ok rest := by
  intro s rest h
  obtain ⟨used, hLeast, rfl, hLater⟩ := (extent_skipWithin _).1 h
  refine ⟨used, hLeast, rfl, fun later hSame => ?_⟩
  refine (enough_skipWithin _).1 (hLater later hSame) _ ?_
  rw [List.length_append]
  omega

end Skipped

end EquipmentBooking.Json
