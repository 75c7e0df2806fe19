import EquipmentBooking.Json.Grammar
import EquipmentBooking.Proofs.Json.Scalar

/-! Readers and the grammar: the text of a number or a string is read as what it spells, and the text of
any value can be passed over. -/
namespace EquipmentBooking.Json

open Text.Utf8

section Numbers

variable {digits : List Nat} {fraction : Option (List Nat)} {exponent : Option (Bool × List Nat)}
  {form : NumberForm} {s rest : Bytes} {atEnd : Issue}

/-- Nothing that follows can belong to a number. -/
def StopsNumber (rest : Bytes) : Prop :=
  ∀ b, rest.head? = some b → digit? b = none ∧ b ≠ byte '.' ∧ b ≠ byte 'e' ∧ b ≠ byte 'E'

theorem digit?_digitByte {d : Nat} (h : d < 10) : digit? (digitByte d) = some d := by
  have hAll : ∀ d : Fin 10, digit? (digitByte d.val) = some d.val := by decide
  exact hAll ⟨d, h⟩

theorem startsWithDigit_of_spells (h : SpellsDigits digits s) (rest : Bytes) :
    startsWithDigit (s ++ rest).head? := by
  obtain ⟨hSome, hSmall, rfl⟩ := h
  cases digits with
  | nil => exact absurd rfl hSome
  | cons d digits =>
      have hDigit := digit?_digitByte (hSmall d List.mem_cons_self)
      exact ⟨_, rfl, by rw [hDigit]; rfl⟩

theorem spanDigits_of_spells (h : SpellsDigits digits s)
    (hRest : ∀ b, rest.head? = some b → digit? b = none) : spanDigits (s ++ rest) = (digits, rest) := by
  obtain ⟨-, hSmall, rfl⟩ := h
  induction digits with
  | nil => exact spanDigits_of_stops hRest
  | cons d digits ih =>
      rw [List.forall_mem_cons] at hSmall
      simp [spanDigits, digit?_digitByte hSmall.1, ih hSmall.2]

theorem readDigits_of_spells (h : SpellsDigits digits s)
    (hRest : ∀ b, rest.head? = some b → digit? b = none) :
    readDigits atEnd (s ++ rest) = .ok (digits, rest) :=
  readDigits_eq_ok_iff.mpr ⟨startsWithDigit_of_spells h rest, spanDigits_of_spells h hRest⟩

/-- An exponent begins with a letter, so it ends what is in front of it. -/
theorem stops_exponent (h : SpellsExponent exponent s) (hRest : StopsNumber rest) :
    ∀ b, (s ++ rest).head? = some b → digit? b = none ∧ b ≠ byte '.' := by
  cases exponent with
  | none =>
      cases h
      exact fun b hb => ⟨(hRest b hb).1, (hRest b hb).2.1⟩
  | some pair =>
      obtain ⟨mark, sign, t, hMark, -, -, rfl⟩ := h
      rintro b ⟨⟩
      rcases hMark with rfl | rfl <;> decide

theorem stops_fraction (h : SpellsFraction fraction s)
    (hRest : ∀ b, rest.head? = some b → digit? b = none) :
    ∀ b, (s ++ rest).head? = some b → digit? b = none := by
  cases fraction with
  | none =>
      cases h
      exact hRest
  | some digits =>
      obtain ⟨t, -, rfl⟩ := h
      rintro b ⟨⟩
      decide

theorem readFraction_of_spells (h : SpellsFraction fraction s)
    (hRest : ∀ b, rest.head? = some b → digit? b = none ∧ b ≠ byte '.') :
    readFraction atEnd (s ++ rest) = .ok (fraction, rest) := by
  rw [readFraction_eq_ok_iff]
  cases fraction with
  | none =>
      cases h
      exact .inl ⟨fun hPoint => (hRest _ hPoint).2 rfl, rfl, rfl⟩
  | some digits =>
      obtain ⟨t, hDigits, rfl⟩ := h
      exact .inr ⟨digits, rfl, t ++ rest, rfl,
        readDigits_of_spells hDigits fun b hb => (hRest b hb).1⟩

theorem splitSign_of_startsWithDigit {sign? : UInt8 → Option Bool}
    (hSign : ∀ b, (digit? b).isSome = true → sign? b = none) (h : startsWithDigit s.head?) :
    splitSign sign? s = (false, s) := by
  obtain ⟨b, hHead, hDigit⟩ := h
  obtain ⟨more, rfl⟩ := List.head?_eq_some_iff.mp hHead
  simp [splitSign, hSign b hDigit]

theorem sign_ne_of_digit {b : UInt8} (h : (digit? b).isSome = true) :
    b ≠ byte '-' ∧ b ≠ byte '+' := by
  constructor
  · rintro rfl
    revert h
    decide
  · rintro rfl
    revert h
    decide

theorem readExponent_of_spells (h : SpellsExponent exponent s) (hRest : StopsNumber rest) :
    readExponent atEnd (s ++ rest) = .ok (exponent, rest) := by
  rw [readExponent_eq_ok_iff]
  cases exponent with
  | none =>
      cases h
      exact .inl ⟨⟨fun hMark => (hRest _ hMark).2.2.1 rfl, fun hMark => (hRest _ hMark).2.2.2 rfl⟩,
        rfl, rfl⟩
  | some pair =>
      obtain ⟨negative, digits⟩ := pair
      obtain ⟨mark, sign, t, hMark, hSign, hDigits, rfl⟩ := h
      have hRead : readDigits atEnd (t ++ rest) = .ok (digits, rest) :=
        readDigits_of_spells hDigits fun b hb => (hRest b hb).1
      have hSplit : splitSign exponentSign? (sign ++ (t ++ rest)) = (negative, t ++ rest) := by
        cases negative with
        | true =>
            obtain rfl : sign = [byte '-'] := hSign
            rfl
        | false =>
            obtain rfl | rfl : sign = [] ∨ sign = [byte '+'] := hSign
            · refine splitSign_of_startsWithDigit (fun b hb => ?_) (startsWithDigit_of_spells hDigits rest)
              obtain ⟨hMinus, hPlus⟩ := sign_ne_of_digit hb
              rw [exponentSign?, if_neg hMinus, if_neg hPlus]
            · rfl
      refine .inr ⟨mark, negative, digits, ⟨hMark, rfl⟩, sign ++ (t ++ rest), ?_, _, hSplit, hRead⟩
      simp

/-- A number is read as far as it goes. -/
theorem readForm_of_spells (h : SpellsNumber form s) (hRest : StopsNumber rest) :
    readForm atEnd (s ++ rest) = .ok (form, rest) := by
  obtain ⟨hLeading, whole, fraction, exponent, hWhole, hFraction, hExponent, rfl⟩ := h
  have hBehind := stops_exponent hExponent hRest
  have hFurther := stops_fraction hFraction fun b hb => (hBehind b hb).1
  have hSplit : splitSign numberSign? ((if form.negative then [byte '-'] else []) ++
      (whole ++ (fraction ++ exponent)) ++ rest) =
        (form.negative, whole ++ (fraction ++ (exponent ++ rest))) := by
    rw [List.append_assoc, List.append_assoc, List.append_assoc]
    cases form.negative with
    | true => rfl
    | false =>
        refine splitSign_of_startsWithDigit (fun b hb => ?_) (startsWithDigit_of_spells hWhole _)
        rw [numberSign?, if_neg (sign_ne_of_digit hb).1]
  rw [readForm_eq_ok_iff]
  refine ⟨_, hSplit, fraction ++ (exponent ++ rest), ?_, exponent ++ rest,
    readFraction_of_spells hFraction hBehind, readExponent_of_spells hExponent hRest⟩
  rw [readWhole_eq_ok_iff]
  refine ⟨?_, readDigits_of_spells hWhole hFurther⟩
  intro d more hZero
  have hOnly := hLeading (by rw [hZero]; rfl)
  rw [hZero] at hOnly
  cases hOnly

/-- A number begins with a digit or with a minus sign. -/
theorem exists_cons_of_spellsNumber (h : SpellsNumber form s) :
    ∃ b more, s = b :: more ∧ (b = byte '-' ∨ (digit? b).isSome = true) := by
  obtain ⟨-, whole, fraction, exponent, hWhole, -, -, rfl⟩ := h
  cases form.negative with
  | true => exact ⟨_, _, rfl, .inl rfl⟩
  | false =>
      obtain ⟨b, hHead, hDigit⟩ := startsWithDigit_of_spells hWhole (fraction ++ exponent)
      obtain ⟨more, hMore⟩ := List.head?_eq_some_iff.mp hHead
      exact ⟨b, more, hMore, .inr hDigit⟩

end Numbers

section Strings

variable {c : Char} {cs : List Char} {n : Nat} {b : UInt8} {s done rest content : Bytes}

theorem hexDigit?_of_isHexDigit {d : Nat} (h : IsHexDigit d b) : hexDigit? b = some d := by
  have hAll : ∀ d : Fin 16, hexDigit? (byte (Nat.digitChar d.val)) = some d.val ∧
      hexDigit? (byte (Nat.digitChar d.val).toUpper) = some d.val := by decide
  obtain ⟨hSmall, rfl | rfl⟩ := h
  · exact (hAll ⟨d, hSmall⟩).1
  · exact (hAll ⟨d, hSmall⟩).2

theorem exists_of_spellsUnit (h : SpellsUnit n s) :
    ∃ first second third fourth, s = [byte '\\', byte 'u', first, second, third, fourth] ∧
      hexValue? [fourth, third, second, first] = some n := by
  obtain ⟨d₁, d₂, d₃, d₄, first, second, third, fourth, h₁, h₂, h₃, h₄, rfl, rfl⟩ := h
  refine ⟨first, second, third, fourth, rfl, ?_⟩
  simp only [hexValue?, List.foldr_cons, List.foldr_nil, hexDigit?_of_isHexDigit h₁,
    hexDigit?_of_isHexDigit h₂, hexDigit?_of_isHexDigit h₃, hexDigit?_of_isHexDigit h₄,
    Option.bind_some, Option.map_some, Option.some.injEq]
  omega

theorem codeUnit_char (c : Char) : codeUnit none c.toNat = .ok (some c, .plain) := by
  have hValid : c.toNat < 0xD800 ∨ 0xDFFF < c.toNat ∧ c.toNat < 0x110000 := c.valid
  rw [codeUnit, if_neg (by omega), if_neg (by omega), Char.ofNat_toNat]

/-- Two numbers that are the halves of a surrogate pair are read as one character. -/
theorem textBytes_pair {high low : Nat} {t : Bytes} (hHigh : 0xD800 ≤ high ∧ high ≤ 0xDBFF)
    (hLow : 0xDC00 ≤ low ∧ low ≤ 0xDFFF)
    (h : c.toNat = (high - 0xD800) * 0x400 + (low - 0xDC00) + 0x10000)
    (hFirst : SpellsUnit high s) (hSecond : SpellsUnit low t) (done rest : Bytes) :
    textBytes .plain done (s ++ t ++ rest) =
      textBytes .plain ((String.utf8EncodeChar c).reverse ++ done) rest := by
  obtain ⟨a₁, a₂, a₃, a₄, rfl, hHighValue⟩ := exists_of_spellsUnit hFirst
  obtain ⟨b₁, b₂, b₃, b₄, rfl, hLowValue⟩ := exists_of_spellsUnit hSecond
  have hOpen : codeUnit none high = .ok (none, .pairBackslash high) := by
    rw [codeUnit, if_neg (by omega), if_pos hHigh]
  have hClose : codeUnit (some high) low = .ok (some c, .plain) := by
    rw [codeUnit, if_pos hLow, ← h, Char.ofNat_toNat]
  simp [textBytes, hHighValue, hLowValue, hOpen, hClose]

/-- However a character is spelt, the same bytes are read. -/
theorem textBytes_of_spellsChar (h : SpellsChar c s) (done rest : Bytes) :
    textBytes .plain done (s ++ rest) =
      textBytes .plain ((String.utf8EncodeChar c).reverse ++ done) rest := by
  cases h with
  | verbatim hQuote hBackslash hControl =>
      exact textBytes_verbatim
        (isVerbatim_of_mem_utf8EncodeChar hQuote hBackslash (Nat.not_lt.mpr hControl)) done rest
  | @letter l hLetter =>
      have hAll : ∀ pair ∈ letterEscapes, byte pair.1 ≠ byte 'u' ∧
          escaped? (byte pair.1) = some (byte pair.2) ∧
          String.utf8EncodeChar pair.2 = [byte pair.2] := by decide
      obtain ⟨hNumber, hEscaped, hEncode⟩ := hAll _ hLetter
      rw [hEncode]
      exact textBytes_letter hNumber hEscaped done rest
  | unit hUnit =>
      obtain ⟨first, second, third, fourth, rfl, hValue⟩ := exists_of_spellsUnit hUnit
      exact textBytes_number hValue (codeUnit_char c) done rest
  | pair hHigh hLow hChar hFirst hSecond => exact textBytes_pair hHigh hLow hChar hFirst hSecond done rest

theorem textBytes_of_spellsChars (h : SpellsChars cs s) (done rest : Bytes) :
    textBytes .plain done (s ++ byte '"' :: rest) = .ok (done.reverse ++ encode cs, rest) := by
  induction h generalizing done with
  | nil => simp [encode, textBytes]
  | cons first _ ih =>
      rw [List.append_assoc, textBytes_of_spellsChar first, ih]
      simp [encode]

/-- A string is read as what it spells, from behind its opening quote. -/
theorem readText_of_spells {t : String} (h : SpellsChars t.toList s) (rest : Bytes) :
    readText (s ++ byte '"' :: rest) = .ok (t, rest) := by
  rw [readText_eq_ok_iff]
  exact ⟨encode t.toList, by simp, textBytes_of_spellsChars h [] rest⟩

/-- Where the passing over of a string stands while a reader of it stands at the same place. The two
halves of a surrogate pair are passed over like any two numbers. -/
def TextState.passing : TextState → SkipState
  | plain => .plain
  | escape => .escape
  | hex _ seen => .hex seen
  | pairBackslash _ => .plain
  | pairLetter _ => .escape

/-- After four digits a reader may still wait for the second half of a pair; whoever passes over
does not. -/
theorem passing_of_codeUnit {high : Option Nat} {read : Option Char} {next : TextState}
    (h : codeUnit high n = .ok (read, next)) : next.passing = .plain := by
  cases high with
  | none =>
      simp only [codeUnit] at h
      split at h
      · cases h
      · split at h
        · cases h
          rfl
        · cases h
          rfl
  | some high =>
      obtain ⟨-, hRead⟩ := ite_eq_ok_iff.mp h
      cases hRead
      rfl

/-- What can be read can be passed over. -/
theorem skipTextFrom_of_textBytes {state : TextState}
    (h : textBytes state done s = .ok (content, rest)) :
    skipTextFrom state.passing s = .ok rest := by
  induction s generalizing state done with
  | nil => cases h
  | cons b s ih =>
      cases state with
      | plain =>
          simp only [textBytes] at h
          simp only [TextState.passing, skipTextFrom]
          split at h
          · next hQuote =>
            cases h
            rw [if_pos hQuote]
          · next hQuote =>
            rw [if_neg hQuote]
            split at h
            · next hBackslash =>
              rw [if_pos hBackslash]
              exact ih h
            · next hBackslash =>
              rw [if_neg hBackslash]
              split at h
              · cases h
              · next hControl =>
                rw [if_neg hControl]
                exact ih h
      | escape =>
          simp only [textBytes] at h
          simp only [TextState.passing, skipTextFrom]
          split at h
          · next hNumber =>
            rw [if_pos hNumber]
            exact ih h
          · next hNumber =>
            rw [if_neg hNumber]
            split at h
            · next e hLetter =>
              rw [hLetter]
              exact ih h
            · cases h
      | hex high seen =>
          simp only [textBytes] at h
          simp only [TextState.passing, skipTextFrom]
          split at h
          · next hMore =>
            rw [if_pos hMore]
            exact ih h
          · next hMore =>
            rw [if_neg hMore]
            split at h
            · cases h
            · next n hValue =>
              rw [hValue, Option.isSome_some, if_pos rfl]
              split at h
              · cases h
              · next next hUnit =>
                rw [← passing_of_codeUnit hUnit]
                exact ih h
              · next c next hUnit =>
                rw [← passing_of_codeUnit hUnit]
                exact ih h
      | pairBackslash high =>
          obtain ⟨rfl, hNext⟩ := ite_eq_ok_iff.mp h
          exact ih hNext
      | pairLetter high =>
          obtain ⟨rfl, hNext⟩ := ite_eq_ok_iff.mp h
          exact ih hNext

theorem skipText_of_spells (h : SpellsChars cs s) (rest : Bytes) :
    skipText (s ++ byte '"' :: rest) = .ok rest := by
  have hSkip := skipTextFrom_of_textBytes (textBytes_of_spellsChars h [] rest)
  exact hSkip

end Strings

section Values

variable {v : Value} {first : Bool} {close : UInt8} {gap s rest : Bytes}

def Value.Opens : Value → UInt8 → Prop
  | .null, b => b = byte 'n'
  | .flag true, b => b = byte 't'
  | .flag false, b => b = byte 'f'
  | .number _, b => b = byte '-' ∨ (digit? b).isSome = true
  | .text _, b => b = byte '"'
  | .list _, b => b = byte '['
  | .object _, b => b = byte '\x7b'

theorem Spells.opens (h : Spells v s) : ∃ b more, s = b :: more ∧ v.Opens b := by
  cases h with
  | number hNumber => exact exists_cons_of_spellsNumber hNumber
  | _ => exact ⟨_, _, rfl, rfl⟩

/-- No value begins with a blank or with a mark that parts or ends items. -/
theorem Value.Opens.separate {b : UInt8} (h : v.Opens b) :
    isSpace b = false ∧ b ≠ byte ',' ∧ b ≠ byte ']' ∧ b ≠ byte '\x7d' := by
  cases v with
  | number form =>
      refine ⟨isSpace_of_number h, ?_, ?_, ?_⟩
      all_goals
        rintro rfl
        revert h
        simp only [Value.Opens]
        decide
  | flag value =>
      cases value <;> cases h <;> decide
  | _ => cases h; decide

theorem Spells.skipSpace_eq {front : Bytes} (h : Spells v s) (hFront : Blank front) (rest : Bytes) :
    skipSpace (front ++ (s ++ rest)) = s ++ rest := by
  obtain ⟨b, more, rfl, hOpens⟩ := h.opens
  rw [skipSpace_append hFront]
  exact skipSpace_cons hOpens.separate.1 _

theorem stopsNumber_append {front : Bytes} (hFront : Blank front) (h : StopsNumber rest) :
    StopsNumber (front ++ rest) := by
  cases front with
  | nil => exact h
  | cons c front =>
      rintro d ⟨⟩
      have hSpace := hFront c List.mem_cons_self
      simp only [isSpace, Bool.or_eq_true, beq_iff_eq] at hSpace
      rcases hSpace with ((rfl | rfl) | rfl) | rfl <;> decide

theorem stopsNumber_cons {b : UInt8} (h : b = byte ',' ∨ b = byte ']' ∨ b = byte '\x7d') :
    StopsNumber (b :: rest) := by
  rintro c ⟨⟩
  rcases h with rfl | rfl | rfl <;> decide

theorem SpellsElements.stopsNumber {elements : List Value} (h : SpellsElements false elements s)
    (rest : Bytes) : StopsNumber (s ++ rest) := by
  cases h with
  | close hBlank =>
      rw [List.append_assoc]
      exact stopsNumber_append hBlank (stopsNumber_cons (.inr (.inl rfl)))
  | next hGap _ _ =>
      obtain ⟨front, back, hFront, -, rfl⟩ := hGap
      rw [List.append_assoc, List.append_assoc]
      exact stopsNumber_append hFront (stopsNumber_cons (.inl rfl))

theorem SpellsMembers.stopsNumber {members : List (String × Value)}
    (h : SpellsMembers false members s) (rest : Bytes) : StopsNumber (s ++ rest) := by
  cases h with
  | close hBlank =>
      rw [List.append_assoc]
      exact stopsNumber_append hBlank (stopsNumber_cons (.inr (.inr rfl)))
  | next hGap _ _ _ _ _ =>
      obtain ⟨front, back, hFront, -, rfl⟩ := hGap
      rw [List.append_assoc, List.append_assoc]
      exact stopsNumber_append hFront (stopsNumber_cons (.inl rfl))

/-- Behind a gap stands an item, with blanks in front of it. -/
theorem nextItem_of_isGap {b : UInt8} (hGap : IsGap first gap) (hSpace : isSpace b = false)
    (hClose : b ≠ close) (more : Bytes) :
    ∃ back, Blank back ∧ NextItem close first (gap ++ b :: more) (back ++ b :: more) := by
  cases first with
  | true =>
      exact ⟨[], List.forall_mem_nil _, skipSpace_eq_cons_iff.mpr ⟨gap, hGap, hSpace, rfl⟩, b, rfl,
        hClose⟩
  | false =>
      obtain ⟨front, back, hFront, hBack, rfl⟩ := hGap
      exact ⟨back, hBack,
        skipSpace_eq_cons_iff.mpr ⟨front, hFront, by decide, List.append_assoc _ _ _⟩⟩

/-- A text of a value can be passed over, with more fuel than twice its length. -/
def Skips (s : Bytes) : Prop :=
  ∀ (front rest : Bytes) (fuel : Nat), Blank front → StopsNumber rest → 2 * s.length < fuel →
    skipValueWithin fuel (front ++ (s ++ rest)) = .ok rest

/-- All values but numbers are known by their first byte, and end by themselves. -/
theorem skips_of_first {b : UInt8} {more : Bytes} (hSpace : isSpace b = false)
    (h : ∀ (rest : Bytes) (fuel : Nat), 2 * more.length + 1 < fuel →
      b = byte 'n' ∧ readIdent [byte 'u', byte 'l', byte 'l'] (more ++ rest) = .ok rest ∨
        b = byte 't' ∧ readIdent [byte 'r', byte 'u', byte 'e'] (more ++ rest) = .ok rest ∨
        b = byte 'f' ∧ readIdent [byte 'a', byte 'l', byte 's', byte 'e'] (more ++ rest) = .ok rest ∨
        b = byte '"' ∧ skipText (more ++ rest) = .ok rest ∨
        b = byte '[' ∧ skipElementsWithin fuel true (more ++ rest) = .ok rest ∨
        b = byte '\x7b' ∧ skipMembersWithin fuel true (more ++ rest) = .ok rest) :
    Skips (b :: more) := by
  intro front rest fuel hFront _ hFuel
  rw [List.length_cons] at hFuel
  obtain ⟨fuel, rfl⟩ : ∃ n, fuel = n + 1 := ⟨fuel - 1, by omega⟩
  exact skipValueWithin_eq_ok_iff.mpr (.inl ⟨b, more ++ rest,
    skipSpace_eq_cons_iff.mpr ⟨front, hFront, hSpace, rfl⟩, h rest fuel (by omega)⟩)

theorem skips_of_spellsNumber {form : NumberForm} (h : SpellsNumber form s) : Skips s := by
  intro front rest fuel hFront hRest hFuel
  have hSkip : skipNumber (s ++ rest) = .ok rest := by
    rw [skipNumber, readForm_of_spells h hRest]
    rfl
  have hSpace := (Spells.number h).skipSpace_eq hFront rest
  obtain ⟨b, more, rfl, hNumber⟩ := exists_cons_of_spellsNumber h
  rw [List.length_cons] at hFuel
  obtain ⟨fuel, rfl⟩ : ∃ n, fuel = n + 1 := ⟨fuel - 1, by omega⟩
  rw [skipValueWithin_eq_ok_iff]
  exact .inr ⟨b, more ++ rest, hSpace, hNumber, hSkip⟩

-- One case for each rule of the grammar. The opening bracket makes up for the higher bound behind it.
mutual

/-- Every value can be passed over. -/
theorem Spells.skips {v : Value} {s : Bytes} : Spells v s → Skips s
  | .null => skips_of_first (by decide) fun _ _ _ => .inl ⟨rfl, readIdent_eq_ok_iff.mpr rfl⟩
  | .yes => skips_of_first (by decide) fun _ _ _ => .inr (.inl ⟨rfl, readIdent_eq_ok_iff.mpr rfl⟩)
  | .no => skips_of_first (by decide) fun _ _ _ =>
      .inr (.inr (.inl ⟨rfl, readIdent_eq_ok_iff.mpr rfl⟩))
  | .number h => skips_of_spellsNumber h
  | .text h => skips_of_first (by decide) fun rest _ _ =>
      .inr (.inr (.inr (.inl ⟨rfl, by simpa using skipText_of_spells h rest⟩)))
  | .list h => skips_of_first (by decide) fun rest fuel hFuel =>
      .inr (.inr (.inr (.inr (.inl ⟨rfl, h.skips rest fuel hFuel⟩))))
  | .object h => skips_of_first (by decide) fun rest fuel hFuel =>
      .inr (.inr (.inr (.inr (.inr ⟨rfl, h.skips rest fuel hFuel⟩))))

theorem SpellsElements.skips {first : Bool} {elements : List Value} {s : Bytes} :
    SpellsElements first elements s → ∀ (rest : Bytes) (fuel : Nat), 2 * s.length + 1 < fuel →
      skipElementsWithin fuel first (s ++ rest) = .ok rest
  | .close hBlank, rest, fuel, hFuel => by
      rw [List.length_append, List.length_singleton] at hFuel
      obtain ⟨fuel, rfl⟩ : ∃ n, fuel = n + 1 := ⟨fuel - 1, by omega⟩
      exact (skipElementsWithin_isSeries fuel first _ rest).mpr
        (.inl (skipSpace_eq_cons_iff.mpr ⟨_, hBlank, by decide, List.append_assoc _ _ _⟩))
  | @SpellsElements.next _ _ _ _ s more hGap hValue hMore, rest, fuel, hFuel => by
      rw [List.length_append, List.length_append] at hFuel
      have hSkip := hValue.skips
      have hRest := hMore.skips rest
      have hStop := hMore.stopsNumber rest
      obtain ⟨b, t, rfl, hOpens⟩ := hValue.opens
      obtain ⟨hSpace, -, hClose, -⟩ := hOpens.separate
      obtain ⟨back, hBack, hNext⟩ := nextItem_of_isGap hGap hSpace hClose (t ++ (more ++ rest))
      rw [List.length_cons] at hFuel
      obtain ⟨fuel, rfl⟩ : ∃ n, fuel = n + 1 := ⟨fuel - 1, by omega⟩
      refine (skipElementsWithin_isSeries fuel first _ rest).mpr
        (.inr ⟨back ++ b :: (t ++ (more ++ rest)), by simpa using hNext, more ++ rest, ?_, ?_⟩)
      · exact hSkip back (more ++ rest) fuel hBack hStop (by rw [List.length_cons]; omega)
      · exact hRest fuel (by omega)

theorem SpellsMembers.skips {first : Bool} {members : List (String × Value)} {s : Bytes} :
    SpellsMembers first members s → ∀ (rest : Bytes) (fuel : Nat), 2 * s.length + 1 < fuel →
      skipMembersWithin fuel first (s ++ rest) = .ok rest
  | .close hBlank, rest, fuel, hFuel => by
      rw [List.length_append, List.length_singleton] at hFuel
      obtain ⟨fuel, rfl⟩ : ∃ n, fuel = n + 1 := ⟨fuel - 1, by omega⟩
      exact (skipMembersWithin_isSeries fuel first _ rest).mpr
        (.inl (skipSpace_eq_cons_iff.mpr ⟨_, hBlank, by decide, List.append_assoc _ _ _⟩))
  | @SpellsMembers.next _ _ _ _ _ t front back s more hGap hName hFront hBack hValue hMore,
      rest, fuel, hFuel => by
      simp only [List.length_append, List.length_cons] at hFuel
      have hSkip := hValue.skips
      have hRest := hMore.skips rest
      have hStop := hMore.stopsNumber rest
      obtain ⟨blanks, hBlanks, hNext⟩ := nextItem_of_isGap hGap (by decide)
        (by decide : byte '"' ≠ byte '\x7d')
        (t ++ byte '"' :: (front ++ byte ':' :: (back ++ (s ++ (more ++ rest)))))
      obtain ⟨fuel, rfl⟩ : ∃ n, fuel = n + 1 := ⟨fuel - 1, by omega⟩
      refine (skipMembersWithin_isSeries fuel first _ rest).mpr
        (.inr ⟨_, by simpa using hNext, more ++ rest, ⟨back ++ (s ++ (more ++ rest)), ?_, ?_⟩, ?_⟩)
      · exact skipName_eq_ok_iff.mpr ⟨_, _,
          skipSpace_eq_cons_iff.mpr ⟨blanks, hBlanks, by decide, rfl⟩, rfl, _,
          skipText_of_spells hName _, readColon_append hFront _⟩
      · exact hSkip back (more ++ rest) fuel hBack hStop (by omega)
      · exact hRest fuel (by omega)

end

theorem skipValue_of_spells {front : Bytes} (h : Spells v s) (hFront : Blank front)
    (hRest : StopsNumber rest) : skipValue (front ++ (s ++ rest)) = .ok rest := by
  refine h.skips front rest _ hFront hRest ?_
  simp only [List.length_append]
  omega

end Values

end EquipmentBooking.Json
