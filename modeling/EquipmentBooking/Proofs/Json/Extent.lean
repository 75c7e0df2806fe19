import EquipmentBooking.Json.Layout
import EquipmentBooking.Json.Skip
import EquipmentBooking.Proofs.Except
import Mathlib.Data.List.DropRight
import Mathlib.Data.List.TakeWhile

/-! How far readers look. What a reader gives depends on the bytes that it reads and at most on the byte
behind them; one that ends with a closing mark does not depend on anything behind it. -/
namespace EquipmentBooking.Json

/-- What is given for a text and leaves a rest uses up at least so many bytes, and is given however
the text goes on behind them, as long as it goes on alike. -/
def Extent (least : Nat) (alike : Bytes → Bytes → Prop) (gives : Bytes → Bytes → Prop) : Prop :=
  ∀ ⦃s rest⦄, gives s rest →
    ∃ used, least ≤ used.length ∧ s = used ++ rest ∧
      ∀ later, alike later rest → gives (used ++ later) later

/-- Texts that go on with the same byte, or both end. -/
def SameNext (later rest : Bytes) : Prop :=
  later.head? = rest.head?

/-- One byte behind what is used up may matter. -/
abbrev Local : (Bytes → Bytes → Prop) → Prop :=
  Extent 0 SameNext

/-- Something is used up, and nothing behind it matters. -/
abbrev Closed : (Bytes → Bytes → Prop) → Prop :=
  Extent 1 fun _ _ => True

section Composition

variable {least : Nat} {alike : Bytes → Bytes → Prop} {first second : Bytes → Bytes → Prop}

theorem Closed.toLocal (h : Closed first) : Local first := by
  intro s rest hGives
  obtain ⟨used, -, hSplit, hLater⟩ := h hGives
  exact ⟨used, Nat.zero_le _, hSplit, fun later _ => hLater later trivial⟩

theorem SameNext.append {later rest : Bytes} (h : SameNext later rest) (used : Bytes) :
    SameNext (used ++ later) (used ++ rest) := by
  rw [SameNext, List.head?_append, List.head?_append, h]

theorem sameNext_append {used : Bytes} (h : 1 ≤ used.length) (later rest : Bytes) :
    SameNext (used ++ later) (used ++ rest) := by
  cases used with
  | nil => cases h
  | cons b used => rfl

theorem Local.comp (hFirst : Local first) (hSecond : Local second) :
    Local fun s rest => ∃ middle, first s middle ∧ second middle rest := by
  rintro s rest ⟨middle, hLeft, hRight⟩
  obtain ⟨left, -, rfl, hLeft'⟩ := hFirst hLeft
  obtain ⟨right, -, rfl, hRight'⟩ := hSecond hRight
  refine ⟨left ++ right, Nat.zero_le _, by rw [List.append_assoc], fun later hSame => ?_⟩
  rw [List.append_assoc]
  exact ⟨right ++ later, hLeft' _ (hSame.append right), hRight' later hSame⟩

/-- The byte behind the first part belongs to the second. -/
theorem Local.comp_closed (hFirst : Local first) (hSecond : Closed second) :
    Closed fun s rest => ∃ middle, first s middle ∧ second middle rest := by
  rintro s rest ⟨middle, hLeft, hRight⟩
  obtain ⟨left, -, rfl, hLeft'⟩ := hFirst hLeft
  obtain ⟨right, hSome, rfl, hRight'⟩ := hSecond hRight
  refine ⟨left ++ right, ?_, by rw [List.append_assoc], fun later _ => ?_⟩
  · rw [List.length_append]
    exact Nat.le_add_left_of_le hSome
  · rw [List.append_assoc]
    exact ⟨right ++ later, hLeft' _ (sameNext_append hSome later rest),
      hRight' later trivial⟩

theorem Closed.comp (hFirst : Closed first) (hSecond : Closed second) :
    Closed fun s rest => ∃ middle, first s middle ∧ second middle rest :=
  hFirst.toLocal.comp_closed hSecond

theorem Extent.congr (h : ∀ s rest, first s rest ↔ second s rest)
    (hSecond : Extent least alike second) : Extent least alike first := by
  have hSame : first = second := funext fun s => funext fun rest => propext (h s rest)
  rw [hSame]
  exact hSecond

theorem Extent.length_le {s rest : Bytes} (h : Extent least alike first) (hGives : first s rest) :
    least + rest.length ≤ s.length := by
  obtain ⟨used, hLeast, rfl, -⟩ := h hGives
  rw [List.length_append]
  exact Nat.add_le_add_right hLeast _

theorem Extent.or (hFirst : Extent least alike first) (hSecond : Extent least alike second) :
    Extent least alike fun s rest => first s rest ∨ second s rest := by
  rintro s rest (h | h)
  · obtain ⟨used, hLeast, hSplit, hLater⟩ := hFirst h
    exact ⟨used, hLeast, hSplit, fun later hAlike => .inl (hLater later hAlike)⟩
  · obtain ⟨used, hLeast, hSplit, hLater⟩ := hSecond h
    exact ⟨used, hLeast, hSplit, fun later hAlike => .inr (hLater later hAlike)⟩

theorem Extent.exists {ι : Sort*} {gives : ι → Bytes → Bytes → Prop}
    (h : ∀ i, Extent least alike (gives i)) :
    Extent least alike fun s rest => ∃ i, gives i s rest := by
  rintro s rest ⟨i, hGives⟩
  obtain ⟨used, hLeast, hSplit, hLater⟩ := h i hGives
  exact ⟨used, hLeast, hSplit, fun later hAlike => ⟨i, hLater later hAlike⟩⟩

theorem Extent.and_left (p : Prop) (h : Extent least alike first) :
    Extent least alike fun s rest => p ∧ first s rest := by
  rintro s rest ⟨hp, hGives⟩
  obtain ⟨used, hLeast, hSplit, hLater⟩ := h hGives
  exact ⟨used, hLeast, hSplit, fun later hAlike => ⟨hp, hLater later hAlike⟩⟩

/-- A reader may look at the byte that it starts with. -/
theorem Local.and_head (p : Option UInt8 → Prop) (h : Local first) :
    Local fun s rest => p s.head? ∧ first s rest := by
  rintro s rest ⟨hp, hGives⟩
  obtain ⟨used, hLeast, rfl, hLater⟩ := h hGives
  refine ⟨used, hLeast, rfl, fun later hSame => ⟨?_, hLater later hSame⟩⟩
  rw [hSame.append used]
  exact hp

theorem local_eq : Local fun s rest => s = rest := by
  rintro s rest rfl
  exact ⟨[], Nat.zero_le _, rfl, fun later _ => rfl⟩

theorem closed_cons (b : UInt8) : Closed fun s rest => s = b :: rest := by
  rintro s rest rfl
  exact ⟨[b], Nat.le_refl 1, rfl, fun later _ => rfl⟩

end Composition

theorem map_pair_eq_ok {α : Type} {x : Except Issue Bytes} {a b : α} {rest : Bytes} :
    x.map (fun after => (a, after)) = .ok (b, rest) ↔ b = a ∧ x = .ok rest := by
  cases x <;> simp [Except.map, eq_comm]

theorem ite_eq_ok_iff {α : Type} {p : Prop} [Decidable p] {x : Except Issue α} {issue : Issue}
    {a : α} : (if p then x else .error issue) = .ok a ↔ p ∧ x = .ok a := by
  split <;> simp [*]

section Bytes

theorem skipSpace_append {front : Bytes} (h : Blank front) (s : Bytes) :
    skipSpace (front ++ s) = skipSpace s :=
  List.dropWhile_append_of_pos h

theorem skipSpace_cons {b : UInt8} (h : isSpace b = false) (s : Bytes) :
    skipSpace (b :: s) = b :: s := by
  simp [skipSpace, h]

/-- The first byte that is no blank, and the blanks in front of it. -/
theorem skipSpace_eq_cons_iff {s rest : Bytes} {b : UInt8} :
    skipSpace s = b :: rest ↔
      ∃ front, Blank front ∧ isSpace b = false ∧ s = front ++ b :: rest := by
  constructor
  · intro h
    have hSplit := List.takeWhile_append_dropWhile (p := isSpace) (l := s)
    have hStop := List.head?_dropWhile_not isSpace s
    rw [skipSpace] at h
    rw [h] at hSplit hStop
    refine ⟨s.takeWhile isSpace, fun c hc => List.mem_takeWhile_imp hc, ?_, hSplit.symm⟩
    simpa using hStop
  · rintro ⟨front, hBlank, hStop, rfl⟩
    rw [skipSpace_append hBlank, skipSpace_cons hStop]

theorem skipSpace_eq_nil_iff {s : Bytes} : skipSpace s = [] ↔ Blank s :=
  List.dropWhile_eq_nil_iff

theorem skipSpace_skipSpace (s : Bytes) : skipSpace (skipSpace s) = skipSpace s :=
  List.dropWhile_idempotent isSpace s

theorem local_skipSpace : Local fun s rest => skipSpace s = rest := by
  rintro s rest rfl
  refine ⟨s.takeWhile isSpace, Nat.zero_le _, List.takeWhile_append_dropWhile.symm,
    fun later hSame => ?_⟩
  have hStop := List.head?_dropWhile_not isSpace s
  change skipSpace (s.takeWhile isSpace ++ later) = later
  rw [skipSpace_append fun b hb => List.mem_takeWhile_imp hb]
  cases later with
  | nil => rfl
  | cons b later =>
      have hNext : some b = (s.dropWhile isSpace).head? := hSame
      rw [← hNext] at hStop
      exact skipSpace_cons (by simpa using hStop) later

theorem closed_skipSpace (b : UInt8) : Closed fun s rest => skipSpace s = b :: rest := by
  intro s rest h
  obtain ⟨front, hBlank, hStop, rfl⟩ := skipSpace_eq_cons_iff.mp h
  refine ⟨front ++ [b], by simp, by simp, fun later _ => ?_⟩
  rw [List.append_assoc]
  exact skipSpace_eq_cons_iff.mpr ⟨front, hBlank, hStop, rfl⟩

theorem readIdent_eq_ok_iff {letters s rest : Bytes} :
    readIdent letters s = .ok rest ↔ s = letters ++ rest := by
  induction letters generalizing s with
  | nil => simp [readIdent]
  | cons e letters ih =>
      cases s with
      | nil => simp [readIdent]
      | cons b s =>
          rw [readIdent]
          by_cases hSame : b = e
          · simp [hSame, ih]
          · simp [hSame]

theorem closed_readIdent {letters : Bytes} (h : letters ≠ []) :
    Closed fun s rest => readIdent letters s = .ok rest := by
  simp only [readIdent_eq_ok_iff]
  rintro s rest rfl
  exact ⟨letters, List.length_pos_iff.mpr h, rfl, fun later _ => rfl⟩

/-- Most readers decide by the first byte that is no blank. -/
theorem onFirst_eq_ok_iff {α : Type} {s : Bytes} {atEnd : Issue}
    {read : UInt8 → Bytes → Except Issue α} {a : α} :
    ((match skipSpace s with
      | [] => .error atEnd
      | b :: after => read b after : Except Issue α) = .ok a) ↔
      ∃ b after, skipSpace s = b :: after ∧ read b after = .ok a := by
  split
  · next h => simp [h]
  · next b after h =>
    constructor
    · exact fun hRead => ⟨b, after, h, hRead⟩
    · rintro ⟨_, _, hSame, hRead⟩
      cases h.symm.trans hSame
      exact hRead

theorem Closed.onFirst {gives : UInt8 → Bytes → Bytes → Prop} (h : ∀ b, Closed (gives b)) :
    Closed fun s rest => ∃ b after, skipSpace s = b :: after ∧ gives b after rest :=
  .exists fun b => (closed_skipSpace b).comp (h b)

theorem readColon_eq_ok_iff {s rest : Bytes} :
    readColon s = .ok rest ↔ skipSpace s = byte ':' :: rest := by
  rw [readColon]
  refine onFirst_eq_ok_iff.trans ?_
  simp only [ite_eq_ok_iff, Except.ok.injEq]
  constructor
  · rintro ⟨b, after, h, rfl, rfl⟩
    exact h
  · exact fun h => ⟨_, _, h, rfl, rfl⟩

theorem readColon_append {front : Bytes} (h : Blank front) (s : Bytes) :
    readColon (front ++ byte ':' :: s) = .ok s :=
  readColon_eq_ok_iff.mpr (skipSpace_eq_cons_iff.mpr ⟨front, h, by decide, rfl⟩)

theorem closed_readColon : Closed fun s rest => readColon s = .ok rest := by
  simp only [readColon_eq_ok_iff]
  exact closed_skipSpace (byte ':')

end Bytes

section Text

/-- One byte of a string ends it, makes it invalid or is taken into it, whatever follows. -/
theorem textBytes_cons (state : TextState) (done : Bytes) (b : UInt8) :
    (∀ rest, textBytes state done (b :: rest) = .ok (done.reverse, rest)) ∨
      (∃ issue, ∀ rest, textBytes state done (b :: rest) = .error issue) ∨
      ∃ next more, ∀ rest, textBytes state done (b :: rest) = textBytes next more rest := by
  cases state with
  | plain =>
      simp only [textBytes]
      split
      · exact .inl fun rest => rfl
      · split
        · exact .inr (.inr ⟨_, _, fun rest => rfl⟩)
        · split
          · exact .inr (.inl ⟨_, fun rest => rfl⟩)
          · exact .inr (.inr ⟨_, _, fun rest => rfl⟩)
  | escape =>
      simp only [textBytes]
      split
      · exact .inr (.inr ⟨_, _, fun rest => rfl⟩)
      · split
        · exact .inr (.inr ⟨_, _, fun rest => rfl⟩)
        · exact .inr (.inl ⟨_, fun rest => rfl⟩)
  | hex high seen =>
      simp only [textBytes]
      split
      · exact .inr (.inr ⟨_, _, fun rest => rfl⟩)
      · split
        · exact .inr (.inl ⟨_, fun rest => rfl⟩)
        · split
          · exact .inr (.inl ⟨_, fun rest => rfl⟩)
          · exact .inr (.inr ⟨_, _, fun rest => rfl⟩)
          · exact .inr (.inr ⟨_, _, fun rest => rfl⟩)
  | pairBackslash high | pairLetter high =>
      simp only [textBytes]
      split
      · exact .inr (.inr ⟨_, _, fun rest => rfl⟩)
      · exact .inr (.inl ⟨_, fun rest => rfl⟩)

/-- The closing quote is used up, so it does not matter what follows. -/
theorem closed_textBytes (state : TextState) (done content : Bytes) :
    Closed fun s rest => textBytes state done s = .ok (content, rest) := by
  intro s rest h
  induction s generalizing state done with
  | nil => cases h
  | cons b s ih =>
      rcases textBytes_cons state done b with hEnds | ⟨issue, hFails⟩ | ⟨next, more, hGoes⟩
      · rw [hEnds] at h
        cases h
        exact ⟨[b], Nat.le_refl 1, rfl, fun later _ => hEnds later⟩
      · rw [hFails] at h
        cases h
      · rw [hGoes] at h
        obtain ⟨used, -, rfl, hLater⟩ := ih next more h
        exact ⟨b :: used, Nat.le_add_left 1 _, rfl, fun later _ =>
          (hGoes _).trans (hLater later trivial)⟩

/-- The bytes of a string end at its closing quote, whether or not they are valid Unicode. -/
theorem readText_eq_ok_iff {s rest : Bytes} {text : String} :
    readText s = .ok (text, rest) ↔
      ∃ content, (Text.Utf8.decode? content).map String.ofList = some text ∧
        textBytes .plain [] s = .ok (content, rest) := by
  simp only [readText, bind_eq_ok, Prod.exists]
  constructor
  · rintro ⟨content, after, hBytes, hDecode⟩
    split at hDecode
    · next chars hChars =>
      cases hDecode
      exact ⟨content, by rw [hChars]; rfl, hBytes⟩
    · cases hDecode
  · rintro ⟨content, hDecode, hBytes⟩
    obtain ⟨chars, hChars, rfl⟩ := Option.map_eq_some_iff.mp hDecode
    exact ⟨content, rest, hBytes, by rw [hChars]⟩

theorem closed_readText (text : String) :
    Closed fun s rest => readText s = .ok (text, rest) := by
  simp only [readText_eq_ok_iff]
  exact Extent.exists fun content => (closed_textBytes _ _ content).and_left _

/-- One byte of a string that is passed over ends it, makes it invalid or is taken into it. -/
theorem skipTextFrom_cons (state : SkipState) (b : UInt8) :
    (∀ rest, skipTextFrom state (b :: rest) = .ok rest) ∨
      (∃ issue, ∀ rest, skipTextFrom state (b :: rest) = .error issue) ∨
      ∃ next, ∀ rest, skipTextFrom state (b :: rest) = skipTextFrom next rest := by
  cases state with
  | plain =>
      simp only [skipTextFrom]
      split
      · exact .inl fun rest => rfl
      · split
        · exact .inr (.inr ⟨_, fun rest => rfl⟩)
        · split
          · exact .inr (.inl ⟨_, fun rest => rfl⟩)
          · exact .inr (.inr ⟨_, fun rest => rfl⟩)
  | escape | hex seen =>
      simp only [skipTextFrom]
      split
      · exact .inr (.inr ⟨_, fun rest => rfl⟩)
      · split
        · exact .inr (.inr ⟨_, fun rest => rfl⟩)
        · exact .inr (.inl ⟨_, fun rest => rfl⟩)

theorem closed_skipTextFrom (state : SkipState) :
    Closed fun s rest => skipTextFrom state s = .ok rest := by
  intro s rest h
  induction s generalizing state with
  | nil => cases h
  | cons b s ih =>
      rcases skipTextFrom_cons state b with hEnds | ⟨issue, hFails⟩ | ⟨next, hGoes⟩
      · rw [hEnds] at h
        cases h
        exact ⟨[b], Nat.le_refl 1, rfl, fun later _ => hEnds later⟩
      · rw [hFails] at h
        cases h
      · rw [hGoes] at h
        obtain ⟨used, -, rfl, hLater⟩ := ih next h
        exact ⟨b :: used, Nat.le_add_left 1 _, rfl, fun later _ =>
          (hGoes _).trans (hLater later trivial)⟩

end Text

section Number

variable {s rest : Bytes} {atEnd : Issue} {digits : List Nat}

/-- Digits are read as far as they go, so the byte behind them is looked at. -/
theorem local_spanDigits (digits : List Nat) :
    Local fun s rest => spanDigits s = (digits, rest) := by
  intro s rest h
  induction s generalizing digits with
  | nil =>
      cases h
      refine ⟨[], Nat.zero_le _, rfl, fun later hSame => ?_⟩
      rw [List.head?_eq_none_iff.mp hSame]
      rfl
  | cons b s ih =>
      rw [spanDigits] at h
      split at h
      · next hDigit =>
        cases h
        refine ⟨[], Nat.zero_le _, rfl, fun later hSame => ?_⟩
        obtain ⟨more, rfl⟩ := List.head?_eq_some_iff.mp hSame
        simp [spanDigits, hDigit]
      · next d hDigit =>
        cases h
        obtain ⟨used, -, hSplit, hLater⟩ := ih _ rfl
        refine ⟨b :: used, Nat.zero_le _, congrArg (b :: ·) hSplit, fun later hSame => ?_⟩
        simp [spanDigits, hDigit, hLater later hSame]

def startsWithDigit (next : Option UInt8) : Prop :=
  ∃ b, next = some b ∧ (digit? b).isSome = true

theorem readDigits_eq_ok_iff :
    readDigits atEnd s = .ok (digits, rest) ↔
      startsWithDigit s.head? ∧ spanDigits s = (digits, rest) := by
  cases s with
  | nil => simp [readDigits, startsWithDigit]
  | cons b s =>
      rw [readDigits]
      split
      · next h => simp [startsWithDigit, h]
      · next h => simp [startsWithDigit, h]

theorem local_readDigits (atEnd : Issue) (digits : List Nat) :
    Local fun s rest => readDigits atEnd s = .ok (digits, rest) := by
  simp only [readDigits_eq_ok_iff]
  exact (local_spanDigits digits).and_head startsWithDigit

/-- A zero stands in front of no further digit. -/
theorem readWhole_eq_ok_iff :
    readWhole atEnd s = .ok (digits, rest) ↔
      (∀ d more, digits ≠ 0 :: d :: more) ∧ readDigits atEnd s = .ok (digits, rest) := by
  simp only [readWhole, bind_eq_ok, Prod.exists]
  constructor
  · rintro ⟨ds, after, hRead, hWhole⟩
    split at hWhole
    · cases hWhole
    · next hLeading =>
      cases hWhole
      exact ⟨hLeading, hRead⟩
  · rintro ⟨hLeading, hRead⟩
    refine ⟨digits, rest, hRead, ?_⟩
    split
    · next d more => exact absurd rfl (hLeading d more)
    · rfl

theorem local_readWhole (atEnd : Issue) (digits : List Nat) :
    Local fun s rest => readWhole atEnd s = .ok (digits, rest) := by
  simp only [readWhole_eq_ok_iff]
  exact (local_readDigits atEnd digits).and_left _

/-- Without a point there is no fraction, and behind a point there is at least one digit. -/
theorem readFraction_eq_ok_iff {fraction : Option (List Nat)} :
    readFraction atEnd s = .ok (fraction, rest) ↔
      (s.head? ≠ some (byte '.') ∧ fraction = none ∧ s = rest) ∨
        ∃ digits, fraction = some digits ∧
          ∃ middle, s = byte '.' :: middle ∧ readDigits atEnd middle = .ok (digits, rest) := by
  cases s with
  | nil => simp [readFraction, eq_comm (a := fraction)]
  | cons b s =>
      rw [readFraction, List.head?_cons]
      split
      · next hPoint =>
        rw [map_eq_ok]
        constructor
        · rintro ⟨⟨ds, after⟩, hRead, hSame⟩
          cases hSame
          exact .inr ⟨ds, rfl, s, by rw [hPoint], hRead⟩
        · rintro (⟨hOther, -⟩ | ⟨ds, rfl, middle, hMiddle, hRead⟩)
          · exact absurd (congrArg some hPoint) hOther
          · cases hMiddle
            exact ⟨(ds, rest), hRead, rfl⟩
      · next hOther =>
        constructor
        · intro h
          cases h
          exact .inl ⟨fun hSame => hOther (Option.some.inj hSame), rfl, rfl⟩
        · rintro (⟨-, rfl, rfl⟩ | ⟨ds, -, middle, hMiddle, -⟩)
          · rfl
          · exact absurd (List.cons.inj hMiddle).1 hOther

theorem local_readFraction (atEnd : Issue) (fraction : Option (List Nat)) :
    Local fun s rest => readFraction atEnd s = .ok (fraction, rest) := by
  simp only [readFraction_eq_ok_iff]
  refine .or (Local.and_head (· ≠ some (byte '.')) (.and_left _ local_eq))
    (.exists fun digits => ?_)
  exact .and_left _ ((closed_cons _).toLocal.comp (local_readDigits atEnd digits))

def splitSign (sign? : UInt8 → Option Bool) : Bytes → Bool × Bytes
  | [] => (false, [])
  | b :: s =>
    match sign? b with
    | some negative => (negative, s)
    | none => (false, b :: s)

theorem local_splitSign (sign? : UInt8 → Option Bool) (negative : Bool) :
    Local fun s rest => splitSign sign? s = (negative, rest) := by
  intro s rest h
  cases s with
  | nil =>
      cases h
      refine ⟨[], Nat.zero_le _, rfl, fun later hSame => ?_⟩
      rw [List.head?_eq_none_iff.mp hSame]
      rfl
  | cons b s =>
      rw [splitSign] at h
      split at h
      · next hSign =>
        cases h
        refine ⟨[b], Nat.zero_le _, rfl, fun later _ => ?_⟩
        simp [splitSign, hSign]
      · next hNone =>
        cases h
        refine ⟨[], Nat.zero_le _, rfl, fun later hSame => ?_⟩
        obtain ⟨more, rfl⟩ := List.head?_eq_some_iff.mp hSame
        simp [splitSign, hNone]

def exponentSign? (b : UInt8) : Option Bool :=
  if b = byte '-' then some true else if b = byte '+' then some false else none

theorem readExponent_of_mark {mark : UInt8} (hMark : mark = byte 'e' ∨ mark = byte 'E')
    (s : Bytes) :
    readExponent atEnd (mark :: s) =
      (readDigits atEnd (splitSign exponentSign? s).2).map
        fun (ds, after) => (some ((splitSign exponentSign? s).1, ds), after) := by
  simp only [readExponent, if_pos hMark]
  cases s with
  | nil => rfl
  | cons b s =>
      simp only [splitSign, exponentSign?]
      split
      · rfl
      · split <;> rfl

theorem readExponent_eq_ok_iff {exponent : Option (Bool × List Nat)} :
    readExponent atEnd s = .ok (exponent, rest) ↔
      ((s.head? ≠ some (byte 'e') ∧ s.head? ≠ some (byte 'E')) ∧ exponent = none ∧ s = rest) ∨
        ∃ mark negative digits, ((mark = byte 'e' ∨ mark = byte 'E') ∧
          exponent = some (negative, digits)) ∧
          ∃ behind, s = mark :: behind ∧ ∃ middle, splitSign exponentSign? behind =
            (negative, middle) ∧ readDigits atEnd middle = .ok (digits, rest) := by
  cases s with
  | nil => simp [readExponent, eq_comm (a := exponent)]
  | cons b s =>
      by_cases hMark : b = byte 'e' ∨ b = byte 'E'
      · rw [readExponent_of_mark hMark, map_eq_ok]
        constructor
        · rintro ⟨⟨ds, after⟩, hRead, hSame⟩
          cases hSame
          exact .inr ⟨b, _, ds, ⟨hMark, rfl⟩, s, rfl, _, rfl, hRead⟩
        · rintro (⟨⟨hLower, hUpper⟩, -⟩ | ⟨mark, negative, ds, ⟨-, rfl⟩, behind, hBehind, middle,
            hSign, hRead⟩)
          · rcases hMark with rfl | rfl
            · exact absurd rfl hLower
            · exact absurd rfl hUpper
          · cases hBehind
            rw [hSign]
            exact ⟨(ds, rest), hRead, rfl⟩
      · simp only [readExponent, if_neg hMark]
        constructor
        · intro h
          cases h
          refine .inl ⟨⟨fun hSame => hMark ?_, fun hSame => hMark ?_⟩, rfl, rfl⟩
          · exact .inl (Option.some.inj hSame)
          · exact .inr (Option.some.inj hSame)
        · rintro (⟨-, rfl, rfl⟩ | ⟨mark, -, -, ⟨hOther, -⟩, behind, hBehind, -⟩)
          · rfl
          · cases hBehind
            exact absurd hOther hMark

theorem local_readExponent (atEnd : Issue) (exponent : Option (Bool × List Nat)) :
    Local fun s rest => readExponent atEnd s = .ok (exponent, rest) := by
  simp only [readExponent_eq_ok_iff]
  refine .or (Local.and_head (fun next => next ≠ some (byte 'e') ∧ next ≠ some (byte 'E'))
    (.and_left _ local_eq)) ?_
  refine .exists fun mark => .exists fun negative => .exists fun digits => .and_left _ ?_
  exact (closed_cons mark).toLocal.comp
    ((local_splitSign _ negative).comp (local_readDigits atEnd digits))

def numberSign? (b : UInt8) : Option Bool :=
  if b = byte '-' then some true else none

theorem readForm_eq (atEnd : Issue) (s : Bytes) :
    readForm atEnd s = (do
      let (whole, behind) ← readWhole atEnd (splitSign numberSign? s).2
      let (fraction, further) ← readFraction atEnd behind
      let (exponent, rest) ← readExponent atEnd further
      .ok (⟨(splitSign numberSign? s).1, whole, fraction, exponent⟩, rest)) := by
  cases s with
  | nil => rfl
  | cons b s =>
      simp only [readForm, splitSign, numberSign?]
      split <;> rfl

/-- A number is read part by part, each from where the one before it ended. -/
theorem readForm_eq_ok_iff {form : NumberForm} :
    readForm atEnd s = .ok (form, rest) ↔
      ∃ digits, splitSign numberSign? s = (form.negative, digits) ∧
        ∃ behind, readWhole atEnd digits = .ok (form.whole, behind) ∧
          ∃ further, readFraction atEnd behind = .ok (form.fraction, further) ∧
            readExponent atEnd further = .ok (form.exponent, rest) := by
  simp only [readForm_eq, bind_eq_ok, Prod.exists, Except.ok.injEq, Prod.mk.injEq]
  constructor
  · rintro ⟨whole, behind, hWhole, fraction, further, hFraction, exponent, last, hExponent, rfl, rfl⟩
    exact ⟨_, rfl, behind, hWhole, further, hFraction, hExponent⟩
  · rintro ⟨digits, hSplit, behind, hWhole, further, hFraction, hExponent⟩
    rw [hSplit]
    exact ⟨_, behind, hWhole, _, further, hFraction, _, rest, hExponent, rfl, rfl⟩

theorem local_readForm (atEnd : Issue) (form : NumberForm) :
    Local fun s rest => readForm atEnd s = .ok (form, rest) := by
  simp only [readForm_eq_ok_iff]
  exact (local_splitSign _ _).comp <| (local_readWhole _ _).comp <|
    (local_readFraction _ _).comp (local_readExponent _ _)

theorem local_readNumber (n : Number) : Local fun s rest => readNumber s = .ok (n, rest) := by
  simp only [readNumber, bind_eq_ok, Prod.exists, Except.ok.injEq, Prod.mk.injEq]
  have hForm := Extent.exists fun form =>
    (local_readForm .eofValue form).and_left (form.value = .ok n)
  intro s rest h
  obtain ⟨form, after, hRead, value, hValue, rfl, rfl⟩ := h
  obtain ⟨used, hLeast, hSplit, hLater⟩ := hForm ⟨form, hValue, hRead⟩
  refine ⟨used, hLeast, hSplit, fun later hSame => ?_⟩
  obtain ⟨form, hValue, hRead⟩ := hLater later hSame
  exact ⟨form, later, hRead, value, hValue, rfl, rfl⟩

end Number

end EquipmentBooking.Json
