import EquipmentBooking.Form.Receipt
import EquipmentBooking.Proofs.Text.Integer
import EquipmentBooking.Proofs.Text.Trim

/-! The number of a booking is read from the paths that end in it behind the success mark, and from no
others. The mark can overlap with itself, but no slash stands in a number. -/
namespace EquipmentBooking

open Text.Numeral (IsNatural)

section LastMark

variable {mark s found back : List Char} {c : Char}

/-- Where a mark stands, it stands for the last time somewhere. -/
theorem exists_afterLast? (h : mark ++ back <:+ s) : ∃ found, afterLast? mark s = some found := by
  induction s with
  | nil =>
      have hMark : mark = [] := (List.append_eq_nil_iff.mp (List.suffix_nil.mp h)).1
      exact ⟨[], by simp [afterLast?, hMark]⟩
  | cons c rest ih =>
      rw [afterLast?]
      cases hRest : afterLast? mark rest with
      | some found => exact ⟨found, rfl⟩
      | none =>
          rcases List.suffix_cons_iff.mp h with hHere | hLater
          · have hPrefix : mark.isPrefixOf (c :: rest) = true := by simp [← hHere]
            exact ⟨_, if_pos hPrefix⟩
          · obtain ⟨found, hFound⟩ := ih hLater
            rw [hRest] at hFound
            cases hFound

/-- What is found stands behind a mark at the end of the text. -/
theorem suffix_of_afterLast? (h : afterLast? mark s = some found) : mark ++ found <:+ s := by
  induction s with
  | nil =>
      rw [afterLast?] at h
      split at h
      · next hMark =>
        cases h
        simp [List.isEmpty_iff.mp hMark]
      · cases h
  | cons c rest ih =>
      rw [afterLast?] at h
      cases hRest : afterLast? mark rest with
      | some later =>
          rw [hRest] at h
          cases h
          exact (ih hRest).trans (List.suffix_cons c rest)
      | none =>
          rw [hRest] at h
          simp only at h
          split at h
          · next hPrefix =>
            cases h
            exact ⟨[], List.prefix_iff_eq_append.mp (List.isPrefixOf_iff_prefix.mp hPrefix)⟩
          · cases h

/-- Behind no other place of the mark stands less. -/
theorem length_le_of_afterLast? (h : afterLast? mark s = some found) (hBack : mark ++ back <:+ s) :
    found.length ≤ back.length := by
  induction s with
  | nil =>
      have hFound := List.suffix_nil.mp (suffix_of_afterLast? h)
      simp [(List.append_eq_nil_iff.mp hFound).2]
  | cons c rest ih =>
      rcases List.suffix_cons_iff.mp hBack with hHere | hLater
      · have hLength := congrArg List.length hHere
        have hFound := (suffix_of_afterLast? h).length_le
        simp only [List.length_append] at hLength hFound
        omega
      · obtain ⟨later, hRest⟩ := exists_afterLast? hLater
        rw [afterLast?, hRest, Option.some.injEq] at h
        subst h
        exact ih hRest hLater

/-- A text in which the end of the mark does not occur stands behind the last place of the mark. -/
theorem afterLast?_append (hEnd : mark.getLast? = some c) (hBack : c ∉ back) (front : List Char) :
    afterLast? mark (front ++ (mark ++ back)) = some back := by
  have hPlace : mark ++ back <:+ front ++ (mark ++ back) := List.suffix_append front _
  obtain ⟨found, hFound⟩ := exists_afterLast? hPlace
  have hSuffix := suffix_of_afterLast? hFound
  have hLength := length_le_of_afterLast? hFound hPlace
  have hBehind : back <:+ front ++ (mark ++ back) := (List.suffix_append mark back).trans hPlace
  rcases Nat.lt_or_eq_of_le hLength with hShorter | hSame
  · -- the end of the mark at the later place would stand in `back`
    obtain ⟨start, rfl⟩ := List.getLast?_eq_some_iff.mp hEnd
    have hLater : [c] ++ found <:+ front ++ (start ++ [c] ++ back) := by
      rw [List.append_assoc start] at hSuffix
      exact (List.suffix_append start _).trans hSuffix
    have hInside := List.suffix_of_suffix_length_le hLater hBehind (by simp; omega)
    exact absurd (hInside.subset (by simp)) hBack
  · have hLater : found <:+ front ++ (mark ++ back) := (List.suffix_append mark found).trans hSuffix
    rw [hFound, (List.suffix_of_suffix_length_le hLater hBehind hLength).eq_of_length hSame]

end LastMark

section Paths

variable {path : String} {s id : List Char} {m n : Nat}

/-- What stands behind a success mark in a path, the slashes at the end of the path aside. -/
def EndsInId (path : String) (id : List Char) : Prop :=
  ∃ (front : List Char) (slashes : Nat),
    path.toList = front ++ (successMark ++ (id ++ List.replicate slashes '/'))

/-- The path of the page for the booking with number `n`, under any prefix. -/
def LeadsTo (path : String) (n : Nat) : Prop :=
  ∃ id, EndsInId path id ∧ IsNatural id n

theorem successMark_eq : successMark = "/book/success".toList ++ ['/'] :=
  rfl

theorem dropTail_slashes (h : ∀ c, s.getLast? = some c → c ≠ '/') (slashes : Nat) :
    Text.dropTail (· == '/') (s ++ List.replicate slashes '/') = s := by
  rw [Text.dropTail_append_of_forall, Text.dropTail_of_getLast?]
  · simpa using h
  · simp

theorem afterLast?_of_endsInId (h : EndsInId path id) (hSome : id ≠ []) (hSlash : '/' ∉ id) :
    afterLast? successMark (Text.dropTail (· == '/') path.toList) = some id := by
  obtain ⟨front, slashes, hPath⟩ := h
  have hLast : ∀ c, (front ++ (successMark ++ id)).getLast? = some c → c ≠ '/' := by
    rintro c hc rfl
    rw [← List.append_assoc, List.getLast?_append_of_ne_nil _ hSome] at hc
    exact hSlash (List.mem_of_getLast? hc)
  rw [hPath, ← List.append_assoc successMark, ← List.append_assoc front, dropTail_slashes hLast]
  exact afterLast?_append rfl hSlash front

/-- No slash stands in a number, so the number is what is found behind the last mark. -/
theorem afterLast?_of_isNatural (hEnds : EndsInId path id) (hNumber : IsNatural id n) :
    afterLast? successMark (Text.dropTail (· == '/') path.toList) = some id :=
  afterLast?_of_endsInId hEnds hNumber.ne_nil (hNumber.not_mem rfl (by decide))

/-- Both directions for one number: a path gives the number that it ends in behind the mark, and no
other one. -/
theorem bookingId?_eq_some_iff {n : UInt64} : bookingId? path = some n ↔ LeadsTo path n.toNat := by
  rw [bookingId?, Option.bind_eq_some_iff]
  constructor
  · rintro ⟨id, hId, hRead⟩
    split at hRead
    · next m hNumber =>
      rw [Text.Numeral.readNatural_eq_ok_iff] at hNumber
      cases hRead
      obtain ⟨front, hFront⟩ := suffix_of_afterLast? hId
      obtain ⟨back, hBack, hSlashes⟩ := Text.exists_dropTail_append (· == '/') path.toList
      have hReplicate : back = List.replicate back.length '/' :=
        List.eq_replicate_of_mem fun c hc => by simpa using hSlashes c hc
      refine ⟨id, ⟨front, back.length, ?_⟩, ?_⟩
      · rw [hBack, ← hFront, ← hReplicate, List.append_assoc, List.append_assoc]
      · have hFits : m < UInt64.size := Nat.lt_of_le_of_lt hNumber.2 (by decide)
        rw [UInt64.toNat_ofNat_of_lt' hFits]
        exact hNumber.1
    · cases hRead
  · rintro ⟨id, hEnds, hNumber⟩
    have hFits : n.toNat ≤ UInt64.size - 1 := Nat.le_sub_one_of_lt n.toNat_lt
    refine ⟨id, afterLast?_of_isNatural hEnds hNumber, ?_⟩
    rw [Text.Numeral.readNatural_of_isNatural hNumber, if_pos hFits]
    simp

/-- The success mark stands in one place in front of a number only. -/
theorem LeadsTo.unique (h : LeadsTo path m) (h' : LeadsTo path n) : m = n := by
  obtain ⟨id, hEnds, hNumber⟩ := h
  obtain ⟨id', hEnds', hNumber'⟩ := h'
  have hSame := afterLast?_of_isNatural hEnds' hNumber'
  rw [afterLast?_of_isNatural hEnds hNumber, Option.some.injEq] at hSame
  subst hSame
  exact hNumber.unique hNumber'

/-- A mark with nothing behind it loses its last slash, so that no mark at all stands at the end. -/
theorem bookingId?_of_no_id (h : EndsInId path []) : bookingId? path = none := by
  cases hBooking : bookingId? path with
  | none => rfl
  | some n =>
      obtain ⟨id, hEnds, hNumber⟩ := bookingId?_eq_some_iff.mp hBooking
      have hId := afterLast?_of_isNatural hEnds hNumber
      obtain ⟨front, slashes, hPath⟩ := h
      have hCut : path.toList =
          front ++ "/book/success".toList ++ List.replicate (slashes + 1) '/' := by
        rw [hPath, successMark_eq, List.nil_append, List.append_assoc, List.append_assoc]
        rfl
      have hEnd : (front ++ "/book/success".toList).getLast? = some 's' := by
        rw [List.getLast?_append_of_ne_nil _ (by decide)]
        rfl
      rw [hCut, dropTail_slashes (by simp)] at hId
      obtain ⟨before, hBefore⟩ := suffix_of_afterLast? hId
      rw [← hBefore, ← List.append_assoc, List.getLast?_append_of_ne_nil _ hNumber.ne_nil] at hEnd
      exact absurd (List.mem_of_getLast? hEnd) (hNumber.not_mem rfl (by decide))

/-- There is no second try at an earlier mark if the text behind the last one is no number. -/
theorem bookingId?_of_bad_id (h : EndsInId path id) (hSlash : '/' ∉ id)
    (hBad : ∀ n, IsNatural id n → 2 ^ 64 ≤ n) : bookingId? path = none := by
  by_cases hSome : id = []
  · subst hSome
    exact bookingId?_of_no_id h
  · rw [bookingId?, afterLast?_of_endsInId h hSome hSlash, Option.bind_some]
    split
    · next n hRead =>
      obtain ⟨hNumber, hFits⟩ := Text.Numeral.readNatural_eq_ok_iff.mp hRead
      have hSize : n < 2 ^ 64 := Nat.lt_of_le_of_lt hFits (by decide)
      exact absurd (hBad n hNumber) (Nat.not_le.mpr hSize)
    · rfl

/-- The number of a booking is read from the paths that lead to one, and from nothing else: from those
that end in the success mark, a number of 64 bits and any number of slashes, whatever stands in front. No
path leads to two numbers, every number survives being written into a path, and what stands behind the
mark is not mistaken for a number if it is none, or nothing at all, or too large. -/
theorem bookingId?_reads_success_paths :
    (∀ (path : String) (n : UInt64), bookingId? path = some n ↔ LeadsTo path n.toNat) ∧
    (∀ (path : String) (m n : Nat), LeadsTo path m → LeadsTo path n → m = n) ∧
    (∀ (front : String) (n : UInt64) (slashes : Nat),
      bookingId? (front ++ "/book/success/" ++ Text.Numeral.text n.toNat ++
        String.ofList (List.replicate slashes '/')) = some n) ∧
    ∀ (path : String) (id : List Char), EndsInId path id → '/' ∉ id →
      (∀ n, IsNatural id n → 2 ^ 64 ≤ n) → bookingId? path = none := by
  refine ⟨fun path n => bookingId?_eq_some_iff, fun path m n => LeadsTo.unique,
    fun front n slashes => ?_, fun path id => bookingId?_of_bad_id⟩
  have hNumber : IsNatural (Text.Numeral.digits n.toNat) n.toNat :=
    .inl (Text.Numeral.isNumeral_digits n.toNat)
  refine bookingId?_eq_some_iff.mpr ⟨_, ⟨front.toList, slashes, ?_⟩, hNumber⟩
  simp only [String.toList_append, String.toList_ofList, Text.Numeral.text, List.append_assoc]
  rfl

/-- A path under a prefix that overlaps with the mark, to a number that is too large by one. -/
theorem bookingId?_reads_success_paths_behind_overlap :
    LeadsTo "/book/success/book/success/+018446744073709551616//" 18446744073709551616 ∧
      bookingId? "/book/success/book/success/+018446744073709551616//" = none := by
  have hEnds : EndsInId "/book/success/book/success/+018446744073709551616//"
      "+018446744073709551616".toList := ⟨"/book/success".toList, 2, by decide⟩
  have hNumber : IsNatural "+018446744073709551616".toList 18446744073709551616 :=
    .inr ⟨"018446744073709551616".toList, rfl, by decide, by decide, by decide⟩
  refine ⟨⟨_, hEnds, hNumber⟩, ?_⟩
  apply bookingId?_reads_success_paths.2.2.2 _ _ hEnds (by decide)
  intro n hOther
  exact (hNumber.unique hOther).le

end Paths

end EquipmentBooking
