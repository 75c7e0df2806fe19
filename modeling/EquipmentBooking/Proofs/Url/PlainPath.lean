import EquipmentBooking.Proofs.Text.Utf8
import EquipmentBooking.Proofs.Url.Path

/-! Paths without steps. Encoding makes no step of a segment that is none, so a plain path is walked
along segment by segment, and is found again in written form behind the path that it was put behind. -/
namespace EquipmentBooking.Url

section Dots

variable {s t : List Char} {c : Char}

/-- A text that begins with anything but a dot, plain or encoded, is no step. -/
theorem dotCount?_of_not_dot (hDot : c ≠ '.')
    (hPercent : ∀ d t, c :: s = '%' :: '2' :: d :: t → d ≠ 'e' ∧ d ≠ 'E') :
    dotCount? (c :: s) = none := by
  unfold dotCount?
  split
  · next h => cases h
  · next h =>
    cases h
    exact absurd rfl hDot
  · next rest h => exact absurd rfl (hPercent 'e' rest h).1
  · next rest h => exact absurd rfl (hPercent 'E' rest h).2
  · rfl

/-- Among encoded bytes only that of a dot stands for a dot. -/
theorem digits_ne_dot {b : Nat} (hByte : b < 256) (hDot : b ≠ 0x2E) (h : hexDigit (b / 16) = '2') :
    hexDigit (b % 16) ≠ 'e' ∧ hexDigit (b % 16) ≠ 'E' := by
  have hTwo : ∀ n < 16, hexDigit n = '2' → n = 2 := by decide
  have hSmall : ∀ n < 16, hexDigit n ≠ 'e' := by decide
  have hLarge : ∀ n < 16, hexDigit n = 'E' → n = 14 := by decide
  have hHigh := hTwo (b / 16) (by omega) h
  constructor
  · exact hSmall _ (by omega)
  · intro hLow
    have := hLarge (b % 16) (by omega) hLow
    omega

theorem mem_utf8EncodeChar_ne_dot (hDot : c ≠ '.') :
    ∀ b ∈ String.utf8EncodeChar c, b.toNat ≠ 0x2E := by
  intro b hb
  rcases Nat.lt_or_ge c.toNat 0x80 with hAscii | hOther
  · rw [Text.Utf8.utf8EncodeChar_of_lt hAscii, List.mem_singleton] at hb
    subst hb
    intro hSame
    rw [Text.Utf8.toNat_ofNat_of_lt (by omega)] at hSame
    exact hDot (Char.toNat_inj.mp hSame)
  · have hHigh := Text.Utf8.le_toNat_of_mem_utf8EncodeChar hOther b hb
    omega

/-- A text that is encoded from its first character on begins with no dot. -/
theorem dotCount?_percentChar (hDot : c ≠ '.') (t : List Char) :
    dotCount? (percentChar c ++ t) = none := by
  have hBytes := mem_utf8EncodeChar_ne_dot hDot
  cases hEncoded : String.utf8EncodeChar c with
  | nil => exact absurd hEncoded (by simp)
  | cons b more =>
      have hFirst := hBytes b (by simp [hEncoded])
      have hChars : percentChar c ++ t = '%' :: hexDigit (b.toNat / 16) ::
          hexDigit (b.toNat % 16) :: (more.flatMap percentByte ++ t) := by
        simp [percentChar, hEncoded, percentByte]
      rw [hChars]
      apply dotCount?_of_not_dot (by decide)
      intro d rest hSame
      simp only [List.cons.injEq, true_and] at hSame
      obtain ⟨hHigh, rfl, -⟩ := hSame
      exact digits_ne_dot b.toNat_lt hFirst hHigh

/-- What is not a percent sign was there before. -/
theorem exists_of_percentEncode_eq_cons {set : Char → Bool} (h : percentEncode set s = c :: t)
    (hPlain : c ≠ '%') : ∃ rest, s = c :: rest ∧ percentEncode set rest = t := by
  cases s with
  | nil => simp [percentEncode] at h
  | cons d rest =>
      rw [percentEncode, List.flatMap_cons] at h
      split at h
      · cases hEncoded : String.utf8EncodeChar d with
        | nil => exact absurd hEncoded (by simp)
        | cons b more =>
            simp [percentChar, hEncoded, percentByte] at h
            exact absurd h.1.symm hPlain
      · obtain ⟨rfl, hRest⟩ := List.cons.inj h
        exact ⟨rest, rfl, hRest⟩

/-- Encoding makes no dots and takes none away. -/
theorem dotCount?_percentEncode (s : List Char) : dotCount? (percentEncode pathSet s) = dotCount? s := by
  fun_induction dotCount? s with
  | case1 => rfl
  | case2 rest ih => exact congrArg (Option.map (· + 1)) ih
  | case3 rest ih => exact congrArg (Option.map (· + 1)) ih
  | case4 rest ih => exact congrArg (Option.map (· + 1)) ih
  | case5 c rest hDot hSmall hLarge =>
      rw [percentEncode, List.flatMap_cons]
      split
      · exact dotCount?_percentChar hDot _
      · apply dotCount?_of_not_dot hDot
        intro d t hSame
        simp only [List.cons.injEq] at hSame
        obtain ⟨rfl, hRest⟩ := hSame
        obtain ⟨behind, rfl, hBehind⟩ := exists_of_percentEncode_eq_cons hRest (by decide)
        constructor
        · rintro rfl
          obtain ⟨more, rfl, -⟩ := exists_of_percentEncode_eq_cons hBehind (by decide)
          exact hSmall _ rfl rfl
        · rintro rfl
          obtain ⟨more, rfl, -⟩ := exists_of_percentEncode_eq_cons hBehind (by decide)
          exact hLarge _ rfl rfl

theorem writeSegment_of_unbroken (h : ∀ c ∈ s, isBreak c = false) :
    writeSegment s = percentEncode pathSet s := by
  rw [writeSegment, unbroken_of_forall h]

end Dots

section Plain

variable {scheme s : List Char} {plain : List (List Char)}

/-- A segment that is no step and has no breaks in it. -/
structure IsPlain (segment : List Char) : Prop where
  no_break : ∀ c ∈ segment, isBreak c = false
  not_double : isDoubleDot segment = false
  not_single : isSingleDot segment = false

theorem IsPlain.not_step (h : IsPlain s) :
    isDoubleDot (writeSegment s) = false ∧ isSingleDot (writeSegment s) = false := by
  rw [writeSegment_of_unbroken h.no_break, isDoubleDot, isSingleDot, dotCount?_percentEncode]
  exact ⟨h.not_double, h.not_single⟩

theorem IsPlain.pass (h : IsPlain s) (w : Walk) :
    w.pass false s = { w with above := percentEncode pathSet s :: w.above } := by
  rw [Walk.pass_of_plain h.not_step.1 h.not_step.2, writeSegment_of_unbroken h.no_break]

theorem IsPlain.finish (h : IsPlain s) (w : Walk) : w.finish false s = w.pass false s := by
  rw [Walk.finish, h.not_step.1, h.not_step.2]
  rfl

/-- A walk along plain segments gets to the place that they lead to, in written form. -/
theorem Walk.segments_along_of_plain (h : ∀ segment ∈ plain, IsPlain segment) (w : Walk) :
    (along false w plain).segments = w.segments ++ plain.map (percentEncode pathSet) := by
  induction plain generalizing w with
  | nil => simp [along]
  | cons s rest ih =>
      rw [List.forall_mem_cons] at h
      cases rest with
      | nil =>
          rw [along, h.1.finish, h.1.pass]
          simp [segments]
      | cons next rest =>
          rw [along, ih h.2, h.1.pass]
          simp [segments]

theorem percentEncode_append (set : Char → Bool) (s t : List Char) :
    percentEncode set (s ++ t) = percentEncode set s ++ percentEncode set t :=
  List.flatMap_append

/-- The written segments of a path, joined, are the path in written form. -/
theorem joinSegments_map_splitSegments (s : List Char) :
    joinSegments ((splitSegments (· == '/') s).map (percentEncode pathSet)) =
      percentEncode pathSet ('/' :: s) := by
  induction s with
  | nil => rfl
  | cons c s ih =>
      rw [splitSegments]
      split
      · next hSlash =>
        obtain rfl : c = '/' := by simpa using hSlash
        rw [List.map_cons, ← List.singleton_append, joinSegments_append, ih]
        rfl
      · cases hPieces : splitSegments (· == '/') s with
        | nil => exact absurd hPieces (splitSegments_ne_nil _ s)
        | cons segment more =>
            rw [hPieces] at ih
            have hRest : percentEncode pathSet segment ++
                joinSegments (more.map (percentEncode pathSet)) = percentEncode pathSet s :=
              (List.cons.inj ih).2
            have hSegment (t : List Char) : joinSegments (t :: more.map (percentEncode pathSet)) =
                '/' :: (t ++ joinSegments (more.map (percentEncode pathSet))) := rfl
            rw [List.map_cons, hSegment, ← List.singleton_append (x := c) (l := segment),
              percentEncode_append, List.append_assoc, hRest, ← percentEncode_append]
            rfl

theorem mem_of_mem_splitSegments {isSlash : Char → Bool} :
    ∀ segment ∈ splitSegments isSlash s, ∀ c ∈ segment, c ∈ s := by
  induction s with
  | nil => simp [splitSegments]
  | cons d s ih =>
      rw [splitSegments]
      split
      · simp only [List.forall_mem_cons, List.not_mem_nil, false_implies, implies_true, true_and]
        exact fun segment hSegment c hc => List.mem_cons_of_mem d (ih segment hSegment c hc)
      · cases hPieces : splitSegments isSlash s with
        | nil => exact absurd hPieces (splitSegments_ne_nil isSlash s)
        | cons first more =>
            rw [hPieces, List.forall_mem_cons] at ih
            simp only [List.forall_mem_cons]
            exact ⟨⟨List.mem_cons_self, fun c hc => List.mem_cons_of_mem d (ih.1 c hc)⟩,
              fun segment hSegment c hc => List.mem_cons_of_mem d (ih.2 segment hSegment c hc)⟩

theorem splitSegments_congr {p q : Char → Bool} (h : ∀ c ∈ s, p c = q c) :
    splitSegments p s = splitSegments q s := by
  induction s with
  | nil => rfl
  | cons c s ih =>
      rw [List.forall_mem_cons] at h
      rw [splitSegments, splitSegments, h.1, ih h.2]

/-- A path that begins with a slash and holds no break, no backslash and no step. -/
structure IsOrdinaryPath (path : List Char) : Prop where
  slash : path.head? = some '/'
  no_break : ∀ c ∈ path, isBreak c = false
  no_backslash : '\\' ∉ path
  no_step : ∀ segment ∈ splitSegments (· == '/') path,
    isDoubleDot segment = false ∧ isSingleDot segment = false

/-- Whether a path is ordinary can be found out character by character and segment by segment. -/
theorem isOrdinaryPath_iff {path : List Char} :
    IsOrdinaryPath path ↔
      path.head? = some '/' ∧ path.all (fun c => !isBreak c) ∧ '\\' ∉ path ∧
        (splitSegments (· == '/') path).all fun segment =>
          !isDoubleDot segment && !isSingleDot segment := by
  simp only [List.all_eq_true, Bool.and_eq_true, Bool.not_eq_true']
  constructor
  · intro h
    exact ⟨h.slash, h.no_break, h.no_backslash, h.no_step⟩
  · rintro ⟨hSlash, hBreak, hBackslash, hStep⟩
    exact ⟨hSlash, hBreak, hBackslash, hStep⟩

instance (path : List Char) : Decidable (IsOrdinaryPath path) :=
  decidable_of_iff _ isOrdinaryPath_iff.symm

theorem IsOrdinaryPath.isPlain (h : IsOrdinaryPath ('/' :: s)) :
    ∀ segment ∈ splitSegments (· == '/') s, IsPlain segment := by
  intro segment hSegment
  have hStep := h.no_step segment (List.mem_cons_of_mem [] hSegment)
  refine ⟨fun c hc => ?_, hStep.1, hStep.2⟩
  exact h.no_break c (List.mem_cons_of_mem _ (mem_of_mem_splitSegments segment hSegment c hc))

theorem IsOrdinaryPath.pieces_eq (h : IsOrdinaryPath ('/' :: s)) (scheme : List Char) :
    pieces scheme s = splitSegments (· == '/') s := by
  apply splitSegments_congr
  intro c hc
  have hOther : c ≠ '\\' := by
    rintro rfl
    exact h.no_backslash (List.mem_cons_of_mem _ hc)
  simp [isSlashIn, hOther]

/-- An ordinary path is found again, in written form, behind the path that it was put behind. -/
theorem IsOrdinaryPath.chars_setPath {url : Url} {path : List Char} {settled : List (List Char)}
    (h : IsOrdinaryPath path) (hSpecial : isSpecialScheme url.scheme = true)
    (hFile : isFileScheme url.scheme = false) (hPath : url.path = .segments settled)
    (hSettled : ∀ segment ∈ settled, IsSettled url.scheme segment) :
    (url.setPath (Text.dropTail (· == '/') url.path.chars ++ path)).path.chars =
      Text.dropTail (· == '/') url.path.chars ++ percentEncode pathSet path := by
  obtain ⟨s, rfl⟩ := List.head?_eq_some_iff.mp h.slash
  have hKept : Text.dropTail (· == '/') url.path.chars =
      joinSegments (settled.rdropWhile List.isEmpty) := by
    rw [hPath]
    exact dropTail_joinSegments fun segment hMem => (hSettled segment hMem).slash_not_mem
  rw [path_setPath_behind hSpecial hFile hPath hSettled, h.pieces_eq, Path.chars,
    Walk.segments_along_of_plain h.isPlain, joinSegments_append, joinSegments_map_splitSegments, hKept,
    Walk.segments, List.reverse_reverse]

end Plain

end EquipmentBooking.Url
