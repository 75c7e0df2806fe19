import EquipmentBooking.Proofs.Except
import EquipmentBooking.Proofs.Text.Trim
import EquipmentBooking.Url.Edit

/-! Paths are walked along segment by segment. Segments that have been walked along once are passed as
they are, so a path can be put behind another one, and steps that stay below the place where a walk
began leave alone what is above it. -/
namespace EquipmentBooking.Url

section Encoding

variable {set : Char → Bool} {p : Char → Prop} {s : List Char}

/-- What holds of the kept characters and of all that stands in encoded ones holds of all of a text. -/
theorem forall_mem_percentEncode (hPercent : p '%') (hDigit : ∀ n < 16, p (hexDigit n))
    (hKept : ∀ c ∈ s, set c = false → p c) : ∀ c ∈ percentEncode set s, p c := by
  intro c hc
  obtain ⟨d, hd, hChar⟩ := List.mem_flatMap.mp hc
  split at hChar
  · obtain ⟨b, -, hByte⟩ := List.mem_flatMap.mp hChar
    have hSize := UInt8.toNat_lt b
    simp only [percentByte, List.mem_cons, List.not_mem_nil, or_false] at hByte
    rcases hByte with rfl | rfl | rfl
    · exact hPercent
    · exact hDigit _ (by omega)
    · exact hDigit _ (by omega)
  · next hPlain =>
    obtain rfl : c = d := by simpa using hChar
    exact hKept c hd (Bool.eq_false_iff.mpr hPlain)

theorem percentEncode_of_forall (h : ∀ c ∈ s, set c = false) : percentEncode set s = s := by
  induction s with
  | nil => rfl
  | cons c s ih =>
      rw [List.forall_mem_cons] at h
      have hRest := ih h.2
      rw [percentEncode] at hRest ⊢
      rw [List.flatMap_cons, hRest, if_neg (Bool.eq_false_iff.mp h.1)]
      rfl

end Encoding

section Segments

variable {scheme s t : List Char} {c : Char} {isSlash : Char → Bool} {segments : List (List Char)}

theorem isBreak_of_pathSet (h : pathSet c = false) : isBreak c = false := by
  rw [← Bool.not_eq_true]
  intro hBreak
  simp only [isBreak, Bool.or_eq_true, beq_iff_eq] at hBreak
  rcases hBreak with (rfl | rfl) | rfl <;> revert h <;> decide

theorem unbroken_of_forall (h : ∀ c ∈ s, isBreak c = false) : unbroken s = s := by
  apply List.filter_eq_self.mpr
  intro c hc
  rw [h c hc]
  rfl

theorem writeSegment_of_forall (h : ∀ c ∈ s, pathSet c = false) : writeSegment s = s := by
  rw [writeSegment, unbroken_of_forall fun c hc => isBreak_of_pathSet (h c hc), percentEncode_of_forall h]

theorem pathSet_of_mem_writeSegment : ∀ c ∈ writeSegment s, pathSet c = false :=
  forall_mem_percentEncode (by decide) (by decide) fun _ _ hKept => hKept

theorem isSlashIn_of_mem_writeSegment (h : ∀ c ∈ s, isSlashIn scheme c = false) :
    ∀ c ∈ writeSegment s, isSlashIn scheme c = false := by
  have hDigit : ∀ n < 16, hexDigit n ≠ '/' ∧ hexDigit n ≠ '\\' := by decide
  refine forall_mem_percentEncode (by simp [isSlashIn]) (fun n hn => ?_) fun c hc _ => ?_
  · simp [isSlashIn, hDigit n hn]
  · exact h c (List.mem_filter.mp hc).1

theorem splitSegments_ne_nil (isSlash : Char → Bool) (s : List Char) :
    splitSegments isSlash s ≠ [] := by
  cases s with
  | nil => simp [splitSegments]
  | cons c s =>
      rw [splitSegments]
      split
      · simp
      · split <;> simp

theorem splitSegments_append (h : isSlash c = true) (s t : List Char) :
    splitSegments isSlash (s ++ c :: t) = splitSegments isSlash s ++ splitSegments isSlash t := by
  induction s with
  | nil => simp [splitSegments, h]
  | cons d s ih =>
      rw [List.cons_append, splitSegments, splitSegments, ih]
      split
      · rfl
      · cases hPieces : splitSegments isSlash s with
        | nil => exact absurd hPieces (splitSegments_ne_nil isSlash s)
        | cons piece pieces => rfl

theorem splitSegments_of_forall (h : ∀ c ∈ s, isSlash c = false) : splitSegments isSlash s = [s] := by
  induction s with
  | nil => rfl
  | cons c s ih =>
      rw [List.forall_mem_cons] at h
      rw [splitSegments, if_neg (Bool.eq_false_iff.mp h.1), ih h.2]

theorem isSlash_of_mem_splitSegments :
    ∀ segment ∈ splitSegments isSlash s, ∀ c ∈ segment, isSlash c = false := by
  induction s with
  | nil => simp [splitSegments]
  | cons d s ih =>
      rw [splitSegments]
      split
      · exact List.forall_mem_cons.mpr ⟨List.forall_mem_nil _, ih⟩
      · next hPlain =>
        cases hPieces : splitSegments isSlash s with
        | nil => exact absurd hPieces (splitSegments_ne_nil isSlash s)
        | cons piece pieces =>
            rw [hPieces, List.forall_mem_cons] at ih
            refine List.forall_mem_cons.mpr ⟨List.forall_mem_cons.mpr ⟨?_, ih.1⟩, ih.2⟩
            exact Bool.eq_false_iff.mpr hPlain

theorem joinSegments_append (front back : List (List Char)) :
    joinSegments (front ++ back) = joinSegments front ++ joinSegments back :=
  List.flatMap_append

/-- Segments are found again where they were joined. -/
theorem splitSegments_joinSegments (hSlash : isSlash '/' = true)
    (hFirst : ∀ c ∈ s, isSlash c = false)
    (hSegments : ∀ segment ∈ segments, ∀ c ∈ segment, isSlash c = false) (t : List Char) :
    splitSegments isSlash (s ++ (joinSegments segments ++ '/' :: t)) =
      s :: (segments ++ splitSegments isSlash t) := by
  induction segments generalizing s with
  | nil =>
      rw [joinSegments, List.flatMap_nil, List.nil_append, splitSegments_append hSlash,
        splitSegments_of_forall hFirst]
      rfl
  | cons next segments ih =>
      rw [List.forall_mem_cons] at hSegments
      have hLater := ih hSegments.1 hSegments.2
      have hJoin : joinSegments (next :: segments) ++ '/' :: t =
          '/' :: (next ++ (joinSegments segments ++ '/' :: t)) := by simp [joinSegments]
      rw [hJoin, splitSegments_append hSlash, splitSegments_of_forall hFirst, hLater]
      rfl

theorem dropSlash_slash (scheme s : List Char) : dropSlash scheme ('/' :: s) = s := by
  have hStart : ('/' :: s).dropWhile isBreak = '/' :: s := rfl
  have hSlash : isSlashIn scheme '/' = true := rfl
  rw [dropSlash, behindSlash?, hStart]
  simp [hSlash]

/-- The pieces of a path that is put behind joined segments. -/
theorem pieces_joinSegments
    (hSegments : ∀ segment ∈ segments, ∀ c ∈ segment, isSlashIn scheme c = false) (s : List Char) :
    pieces scheme (dropSlash scheme (joinSegments segments ++ '/' :: s)) =
      segments ++ pieces scheme s := by
  cases segments with
  | nil => exact congrArg (pieces scheme) (dropSlash_slash scheme s)
  | cons first segments =>
      rw [List.forall_mem_cons] at hSegments
      have hJoin : joinSegments (first :: segments) ++ '/' :: s =
          '/' :: (first ++ (joinSegments segments ++ '/' :: s)) := by simp [joinSegments]
      rw [hJoin, dropSlash_slash, pieces, splitSegments_joinSegments rfl hSegments.1 hSegments.2]
      rfl

/-- The slashes at the end of joined segments belong to empty ones. -/
theorem dropTail_joinSegments (h : ∀ segment ∈ segments, '/' ∉ segment) :
    Text.dropTail (· == '/') (joinSegments segments) =
      joinSegments (segments.rdropWhile List.isEmpty) := by
  rw [Text.dropTail_eq_rdropWhile]
  induction segments using List.reverseRecOn with
  | nil => rfl
  | append_singleton segments last ih =>
      rw [joinSegments_append]
      have hLast : joinSegments [last] = '/' :: last := by simp [joinSegments]
      rw [hLast]
      rcases List.eq_nil_or_concat' last with rfl | ⟨front, c, rfl⟩
      · rw [List.rdropWhile_concat_pos _ _ _ (by decide), List.rdropWhile_concat_pos _ _ _ rfl]
        exact ih fun segment hMem => h segment (List.mem_append_left _ hMem)
      · have hSlash : '/' ∉ front ++ [c] := h _ (by simp)
        have hChar : ¬ (c == '/') = true := by
          simp only [beq_iff_eq]
          rintro rfl
          simp at hSlash
        rw [← List.cons_append, ← List.append_assoc,
          List.rdropWhile_concat_neg (· == '/') _ _ hChar,
          List.rdropWhile_concat_neg _ _ _ (by simp), joinSegments_append]
        simp [joinSegments]

end Segments

section Walks

variable {scheme : List Char} {w : Walk} {s segment : List Char} {segments kept : List (List Char)}

/-- A segment that is passed as it is: it is in written form, holds no slash and is no step. -/
structure IsSettled (scheme segment : List Char) : Prop where
  written : ∀ c ∈ segment, pathSet c = false
  no_slash : ∀ c ∈ segment, isSlashIn scheme c = false
  not_double : isDoubleDot segment = false
  not_single : isSingleDot segment = false

theorem IsSettled.slash_not_mem (h : IsSettled scheme segment) : '/' ∉ segment := by
  intro hMem
  cases h.no_slash '/' hMem

theorem isSettled_nil (scheme : List Char) : IsSettled scheme [] where
  written := List.forall_mem_nil _
  no_slash := List.forall_mem_nil _
  not_double := rfl
  not_single := rfl

theorem Walk.pass_of_double (h : isDoubleDot (writeSegment s) = true) (w : Walk) :
    w.pass false s = { w with above := shorten w.above } := by
  rw [pass, if_pos h]

theorem Walk.pass_of_single (hDouble : isDoubleDot (writeSegment s) = false)
    (hSingle : isSingleDot (writeSegment s) = true) (w : Walk) : w.pass false s = w := by
  rw [pass, if_neg (Bool.eq_false_iff.mp hDouble), if_pos hSingle]

theorem Walk.pass_of_plain (hDouble : isDoubleDot (writeSegment s) = false)
    (hSingle : isSingleDot (writeSegment s) = false) (w : Walk) :
    w.pass false s = { w with above := writeSegment s :: w.above } := by
  rw [pass, if_neg (Bool.eq_false_iff.mp hDouble), if_neg (Bool.eq_false_iff.mp hSingle)]
  rfl

theorem IsSettled.pass (h : IsSettled scheme s) (w : Walk) :
    w.pass false s = { w with above := s :: w.above } := by
  have hWrite := writeSegment_of_forall h.written
  have hPass := Walk.pass_of_plain (s := s) (by rw [hWrite]; exact h.not_double)
    (by rw [hWrite]; exact h.not_single) w
  rwa [hWrite] at hPass

/-- A walk along settled segments gets to the place that they lead to. -/
theorem Walk.along_append (h : ∀ segment ∈ kept, IsSettled scheme segment) (hSome : segments ≠ [])
    (w : Walk) :
    along false w (kept ++ segments) =
      along false { w with above := kept.reverse ++ w.above } segments := by
  induction kept generalizing w with
  | nil => rfl
  | cons first kept ih =>
      rw [List.forall_mem_cons] at h
      obtain ⟨next, more, hNext⟩ :=
        List.exists_cons_of_ne_nil (List.append_ne_nil_of_right_ne_nil kept hSome)
      rw [List.cons_append, hNext, along, ← hNext, ih h.2, h.1.pass]
      simp

theorem mem_of_mem_shorten (h : segment ∈ shorten segments) : segment ∈ segments := by
  cases segments with
  | nil => exact h
  | cons last above =>
      rw [shorten] at h
      split at h
      · exact h
      · exact List.mem_cons_of_mem last h

/-- A segment is settled once it has been passed, and a step settles nothing new. -/
theorem Walk.settled_pass (hAbove : ∀ segment ∈ w.above, IsSettled scheme segment)
    (hPlain : ∀ c ∈ s, isSlashIn scheme c = false) :
    ∀ segment ∈ (w.pass false s).above, IsSettled scheme segment := by
  cases hDouble : isDoubleDot (writeSegment s) with
  | true =>
      rw [pass_of_double hDouble]
      exact fun segment hMem => hAbove segment (mem_of_mem_shorten hMem)
  | false =>
      cases hSingle : isSingleDot (writeSegment s) with
      | true =>
          rw [pass_of_single hDouble hSingle]
          exact hAbove
      | false =>
          rw [pass_of_plain hDouble hSingle]
          exact List.forall_mem_cons.mpr ⟨⟨pathSet_of_mem_writeSegment,
            isSlashIn_of_mem_writeSegment hPlain, hDouble, hSingle⟩, hAbove⟩

/-- A last segment is passed like any other, but that a step leaves an empty segment behind. -/
theorem Walk.finish_above (w : Walk) (s : List Char) :
    (w.finish false s).above = (w.pass false s).above ∨
      (w.finish false s).above = [] :: (w.pass false s).above := by
  rw [finish]
  split
  · exact .inr rfl
  · exact .inl rfl

/-- All segments of a walk are settled. -/
theorem Walk.settled_along (hAbove : ∀ segment ∈ w.above, IsSettled scheme segment)
    (hPlain : ∀ s ∈ segments, ∀ c ∈ s, isSlashIn scheme c = false) :
    ∀ segment ∈ (along false w segments).above, IsSettled scheme segment := by
  induction segments generalizing w with
  | nil => exact hAbove
  | cons s segments ih =>
      rw [List.forall_mem_cons] at hPlain
      have hPass := settled_pass hAbove hPlain.1
      cases segments with
      | nil =>
          rw [along]
          rcases w.finish_above s with hSame | hMore
          · rw [hSame]
            exact hPass
          · rw [hMore]
            exact List.forall_mem_cons.mpr ⟨isSettled_nil scheme, hPass⟩
      | cons next segments => exact ih hPass hPlain.2

/-- A walk with segments ends somewhere. -/
theorem Walk.along_ne_nil (hSome : segments ≠ []) (w : Walk) : (along false w segments).above ≠ [] := by
  induction segments generalizing w with
  | nil => exact absurd rfl hSome
  | cons s segments ih =>
      cases segments with
      | cons next segments => exact ih (List.cons_ne_nil _ _) _
      | nil =>
          rw [along, finish]
          cases hDouble : isDoubleDot (writeSegment s) with
          | true => simp
          | false =>
              cases hSingle : isSingleDot (writeSegment s) with
              | true => simp
              | false => simp [pass_of_plain hDouble hSingle]

/-- No step up takes back more than the steps down in front of it, of which there are `down` at first. -/
def StaysBelow : (down : Nat) → List (List Char) → Prop
  | _, [] => True
  | down, s :: rest =>
    if isDoubleDot (writeSegment s) then 0 < down ∧ StaysBelow (down - 1) rest
    else StaysBelow (if isSingleDot (writeSegment s) then down else down + 1) rest

instance decidableStaysBelow : (down : Nat) → (segments : List (List Char)) →
    Decidable (StaysBelow down segments)
  | _, [] => inferInstanceAs (Decidable True)
  | down, s :: rest =>
    have := decidableStaysBelow (down - 1) rest
    have := decidableStaysBelow (if isSingleDot (writeSegment s) then down else down + 1) rest
    inferInstanceAs (Decidable (if isDoubleDot (writeSegment s) then
      0 < down ∧ StaysBelow (down - 1) rest
      else StaysBelow (if isSingleDot (writeSegment s) then down else down + 1) rest))

variable {v : Walk} {top : List (List Char)} {down : Nat}

theorem shorten_append (h : segments ≠ []) (top : List (List Char)) :
    shorten (segments ++ top) = shorten segments ++ top := by
  cases segments with
  | nil => exact absurd rfl h
  | cons last above =>
      rw [List.cons_append, shorten, shorten]
      split <;> rfl

theorem le_length_shorten (segments : List (List Char)) :
    segments.length - 1 ≤ (shorten segments).length := by
  cases segments with
  | nil => exact Nat.le_refl 0
  | cons last above =>
      rw [shorten]
      split <;> simp

theorem Walk.finish_append (s : List Char)
    (h : (w.pass false s).above = (v.pass false s).above ++ top) :
    (w.finish false s).above = (v.finish false s).above ++ top := by
  rw [finish, finish]
  split
  · rw [h]
    rfl
  · exact h

/-- A walk that stays below the place where it begins goes the same way below any other place. -/
theorem Walk.above_along_append (h : w.above = v.above ++ top) (hStays : StaysBelow down segments)
    (hDown : down ≤ v.above.length) :
    (along false w segments).above = (along false v segments).above ++ top := by
  induction segments generalizing w v down with
  | nil => exact h
  | cons s segments ih =>
      rw [StaysBelow] at hStays
      -- one step: what is above stays apart, and the way back does not become longer than the way
      have hStep : ∃ now, (w.pass false s).above = (v.pass false s).above ++ top ∧
          StaysBelow now segments ∧ now ≤ (v.pass false s).above.length := by
        cases hDouble : isDoubleDot (writeSegment s) with
        | true =>
            rw [if_pos hDouble] at hStays
            have hSome : v.above ≠ [] := List.ne_nil_of_length_pos (Nat.lt_of_lt_of_le hStays.1 hDown)
            have hLength := le_length_shorten v.above
            rw [pass_of_double hDouble, pass_of_double hDouble]
            refine ⟨down - 1, ?_, hStays.2, by simp only; omega⟩
            simp only [h, shorten_append hSome]
        | false =>
            rw [if_neg (Bool.eq_false_iff.mp hDouble)] at hStays
            cases hSingle : isSingleDot (writeSegment s) with
            | true =>
                rw [if_pos hSingle] at hStays
                rw [pass_of_single hDouble hSingle, pass_of_single hDouble hSingle]
                exact ⟨down, h, hStays, hDown⟩
            | false =>
                rw [if_neg (Bool.eq_false_iff.mp hSingle)] at hStays
                rw [pass_of_plain hDouble hSingle, pass_of_plain hDouble hSingle]
                refine ⟨down + 1, ?_, hStays, Nat.succ_le_succ hDown⟩
                rw [h]
                rfl
      obtain ⟨now, hPass, hLater, hNow⟩ := hStep
      cases segments with
      | nil => exact Walk.finish_append s hPass
      | cons next segments => exact ih hPass hLater hNow

end Walks

section Urls

variable {url : Url} {scheme s : List Char} {segments : List (List Char)}

theorem readPath_of_special (hSpecial : isSpecialScheme scheme = true)
    (hFile : isFileScheme scheme = false) (s : List Char) :
    readPath scheme s =
      .segments (Walk.along false {} (pieces scheme (dropSlash scheme s))).segments := by
  simp [readPath, walkedPath, hSpecial, hFile]

theorem settled_readPath (hSpecial : isSpecialScheme scheme = true)
    (hFile : isFileScheme scheme = false) (s : List Char) :
    ∃ segments, readPath scheme s = .segments segments ∧
      ∀ segment ∈ segments, IsSettled scheme segment := by
  refine ⟨_, readPath_of_special hSpecial hFile s, fun segment hMem => ?_⟩
  exact Walk.settled_along (List.forall_mem_nil _) isSlash_of_mem_splitSegments segment
    (List.mem_reverse.mp hMem)

theorem of_parsePlaced (h : parsePlaced scheme s = .ok url) :
    url.scheme = scheme ∧ ∃ path, url.path = readPath scheme path := by
  simp only [parsePlaced, bind_eq_ok, Prod.exists, Except.ok.injEq] at h
  obtain ⟨_, _, -, rfl⟩ := h
  exact ⟨rfl, _, rfl⟩

theorem scheme_of_parseFile (h : parseFile scheme s = .ok url) : url.scheme = scheme := by
  simp only [parseFile, bind_eq_ok, Prod.exists, Except.ok.injEq] at h
  obtain ⟨_, _, -, rfl⟩ := h
  rfl

theorem scheme_of_parseOther (h : parseOther scheme s = .ok url) : url.scheme = scheme := by
  unfold parseOther at h
  simp only at h
  split at h
  · exact (of_parsePlaced h).1
  · cases h
    rfl
  · cases h
    rfl

/-- A URL with a special scheme has an authority, unless it is that of a file. -/
theorem parsePlaced_of_parseTrimmed (hSpecial : isSpecialScheme url.scheme = true)
    (hFile : isFileScheme url.scheme = false) (h : parseTrimmed s = .ok url) :
    ∃ rest, readScheme? s = some (url.scheme, rest) ∧
      parsePlaced url.scheme ((unbroken rest).dropWhile (isSlashIn url.scheme)) = .ok url := by
  rw [parseTrimmed] at h
  split at h
  · cases h
  · next scheme rest hScheme =>
    split at h
    · next hOwn =>
      rw [scheme_of_parseFile h, hOwn] at hFile
      cases hFile
    · split at h
      · obtain ⟨rfl, -⟩ := of_parsePlaced h
        exact ⟨rest, hScheme, h⟩
      · next hOther =>
        rw [scheme_of_parseOther h] at hSpecial
        exact absurd hSpecial hOther

/-- The path of a URL with a special scheme is settled, unless it is that of a file. -/
theorem settled_of_parse {text : String} (h : parse text = .ok url)
    (hSpecial : isSpecialScheme url.scheme = true) (hFile : isFileScheme url.scheme = false) :
    ∃ segments, url.path = .segments segments ∧
      ∀ segment ∈ segments, IsSettled url.scheme segment := by
  obtain ⟨_, -, hPlaced⟩ := parsePlaced_of_parseTrimmed hSpecial hFile h
  obtain ⟨-, path, hPath⟩ := of_parsePlaced hPlaced
  rw [hPath]
  exact settled_readPath hSpecial hFile path

theorem setPath_of_special (hSpecial : isSpecialScheme url.scheme = true)
    (hFile : isFileScheme url.scheme = false) (hPath : url.path = .segments segments)
    (s : List Char) : url.setPath s = { url with path := readPath url.scheme s } := by
  simp [setPath, hPath, readNewPath, hSpecial, hFile]

/-- A path put behind the settled path of a URL is walked along from there on. -/
theorem path_setPath_behind (hSpecial : isSpecialScheme url.scheme = true)
    (hFile : isFileScheme url.scheme = false) (hPath : url.path = .segments segments)
    (hSettled : ∀ segment ∈ segments, IsSettled url.scheme segment) (s : List Char) :
    (url.setPath (Text.dropTail (· == '/') url.path.chars ++ '/' :: s)).path =
      .segments (Walk.along false ⟨(segments.rdropWhile List.isEmpty).reverse, false⟩
        (pieces url.scheme s)).segments := by
  have hKept : ∀ segment ∈ segments.rdropWhile List.isEmpty, IsSettled url.scheme segment :=
    fun segment hMem => hSettled segment ((List.rdropWhile_prefix _ _).subset hMem)
  have hChars : Text.dropTail (· == '/') url.path.chars =
      joinSegments (segments.rdropWhile List.isEmpty) := by
    rw [hPath]
    exact dropTail_joinSegments fun segment hMem => (hSettled segment hMem).slash_not_mem
  have hSome : pieces url.scheme s ≠ [] := splitSegments_ne_nil _ _
  rw [setPath_of_special hSpecial hFile hPath, readPath_of_special hSpecial hFile, hChars,
    pieces_joinSegments fun segment hMem => (hKept segment hMem).no_slash,
    Walk.along_append hKept hSome]
  simp

/-- A path with a special scheme begins with a slash. -/
theorem exists_chars_readPath (hSpecial : isSpecialScheme scheme = true)
    (hFile : isFileScheme scheme = false) (s : List Char) :
    ∃ rest, (readPath scheme s).chars = '/' :: rest := by
  have hSome : pieces scheme (dropSlash scheme s) ≠ [] := splitSegments_ne_nil _ _
  obtain ⟨first, more, hFirst⟩ := List.exists_cons_of_ne_nil
    (List.reverse_eq_nil_iff.not.mpr (Walk.along_ne_nil hSome {}))
  rw [readPath_of_special hSpecial hFile, Path.chars, Walk.segments, hFirst]
  exact ⟨_, rfl⟩

/-- A path that stays below where it is put leads to the same place there as on its own. -/
theorem chars_setPath_behind (hSpecial : isSpecialScheme url.scheme = true)
    (hFile : isFileScheme url.scheme = false) (hPath : url.path = .segments segments)
    (hSettled : ∀ segment ∈ segments, IsSettled url.scheme segment)
    (hStays : StaysBelow 0 (pieces url.scheme s)) :
    (url.setPath (Text.dropTail (· == '/') url.path.chars ++ '/' :: s)).path.chars =
      Text.dropTail (· == '/') url.path.chars ++ (readPath url.scheme ('/' :: s)).chars := by
  have hAbove : (Walk.along false ⟨(segments.rdropWhile List.isEmpty).reverse, false⟩
      (pieces url.scheme s)).above = (Walk.along false {} (pieces url.scheme s)).above ++
        (segments.rdropWhile List.isEmpty).reverse :=
    Walk.above_along_append rfl hStays (Nat.zero_le _)
  rw [path_setPath_behind hSpecial hFile hPath hSettled, readPath_of_special hSpecial hFile,
    dropSlash_slash, hPath, Path.chars, Path.chars, Path.chars,
    dropTail_joinSegments fun segment hMem => (hSettled segment hMem).slash_not_mem, Walk.segments,
    hAbove, List.reverse_append, List.reverse_reverse, joinSegments_append]
  rfl

end Urls

end EquipmentBooking.Url
