import EquipmentBooking.Text.Blank
import Mathlib.Data.List.DropRight

/-! Trimming in terms of the list operations that drop from either end. What is trimmed has no blanks to
trim, and trimming leaves nothing only of a text of blanks. -/
namespace EquipmentBooking.Text

theorem dropTail_eq_rdropWhile {α : Type} (p : α → Bool) (l : List α) :
    dropTail p l = l.rdropWhile p := by
  induction l with
  | nil => rfl
  | cons a rest ih =>
      rw [dropTail, ih, List.rdropWhile, List.rdropWhile, List.reverse_cons, List.dropWhile_append]
      cases hRest : rest.reverse.dropWhile p with
      | nil => by_cases ha : p a <;> simp [ha]
      | cons b kept => simp

section DropTail

variable {α : Type} {p : α → Bool} {s back : List α}

theorem rdropWhile_append_of_forall (h : ∀ a ∈ back, p a = true) (s : List α) :
    (s ++ back).rdropWhile p = s.rdropWhile p := by
  rw [List.rdropWhile, List.reverse_append,
    List.dropWhile_append_of_pos fun a ha => h a (List.mem_reverse.mp ha), List.rdropWhile]

theorem dropTail_append_of_forall (h : ∀ a ∈ back, p a = true) (s : List α) :
    dropTail p (s ++ back) = dropTail p s := by
  rw [dropTail_eq_rdropWhile, rdropWhile_append_of_forall h, dropTail_eq_rdropWhile]

/-- Nothing is dropped behind an element that stays. -/
theorem dropTail_of_getLast? (h : ∀ a, s.getLast? = some a → p a = false) : dropTail p s = s := by
  rw [dropTail_eq_rdropWhile, List.rdropWhile_eq_self_iff]
  intro hSome
  simp [h _ (List.getLast?_eq_some_getLast hSome)]

/-- What is dropped stands behind what is kept. -/
theorem exists_dropTail_append (p : α → Bool) (s : List α) :
    ∃ back, s = dropTail p s ++ back ∧ ∀ a ∈ back, p a = true := by
  rw [dropTail_eq_rdropWhile]
  exact ⟨s.rtakeWhile p, List.rdropWhile_append_rtakeWhile.symm, fun a => List.mem_rtakeWhile_imp⟩

end DropTail

theorem trimChars_eq (s : List Char) :
    trimChars s = (s.dropWhile isBlank).rdropWhile isBlank := by
  rw [trimChars, trimEnd, trimStart, dropTail_eq_rdropWhile]

/-- There is nothing to drop in front of a trimmed text: it begins where the text without its
leading blanks begins. -/
theorem dropWhile_trimChars (s : List Char) : (trimChars s).dropWhile isBlank = trimChars s := by
  rw [List.dropWhile_eq_self_iff, trimChars_eq]
  intro hLength
  have hPrefix := List.rdropWhile_prefix isBlank (s.dropWhile isBlank)
  rw [hPrefix.getElem hLength]
  exact List.dropWhile_get_zero_not isBlank s _

theorem trimChars_trimChars (s : List Char) : trimChars (trimChars s) = trimChars s := by
  rw [trimChars_eq (trimChars s), dropWhile_trimChars, trimChars_eq, List.rdropWhile_idempotent]

theorem trimChars_eq_nil_iff (s : List Char) : trimChars s = [] ↔ ∀ c ∈ s, isBlank c = true := by
  rw [← List.dropWhile_eq_nil_iff, trimChars_eq, List.rdropWhile_eq_nil_iff,
    ← List.dropWhile_eq_nil_iff, List.dropWhile_idempotent]

/-- Blanks around a text make no difference. -/
theorem trimChars_surround {front back : List Char} (hFront : ∀ c ∈ front, isBlank c = true)
    (hBack : ∀ c ∈ back, isBlank c = true) (s : List Char) :
    trimChars (front ++ s ++ back) = trimChars s := by
  rw [trimChars_eq, trimChars_eq, List.append_assoc, List.dropWhile_append_of_pos hFront,
    List.dropWhile_append]
  split
  · next hNothing =>
    -- a text of blanks is dropped together with those behind it
    rw [List.isEmpty_iff.mp hNothing, List.dropWhile_eq_nil_iff.mpr hBack]
  · exact rdropWhile_append_of_forall hBack _

@[simp]
theorem toList_trim (s : String) : (trim s).toList = trimChars s.toList :=
  String.toList_ofList

@[simp]
theorem trim_trim (s : String) : trim (trim s) = trim s := by
  rw [trim, toList_trim, trimChars_trimChars, trim]

theorem trim_surround {front back : String} (hFront : IsBlankText front)
    (hBack : IsBlankText back) (s : String) : trim (front ++ s ++ back) = trim s := by
  rw [trim, String.toList_append, String.toList_append, trimChars_surround hFront hBack, trim]

theorem trim_eq_empty_iff (s : String) : trim s = "" ↔ IsBlankText s := by
  rw [trim, String.ofList_eq_empty_iff, trimChars_eq_nil_iff, IsBlankText]

/-- A text that is filled in and has no blanks anywhere. -/
def IsSolid (s : String) : Prop :=
  s ≠ "" ∧ ∀ c ∈ s.toList, isBlank c = false

theorem IsSolid.trim_eq {s : String} (h : IsSolid s) : trim s = s := by
  have hFront : s.toList.dropWhile isBlank = s.toList := by
    rw [List.dropWhile_eq_self_iff]
    intro hLength
    simp [h.2 _ (List.getElem_mem hLength)]
  have hBack : s.toList.rdropWhile isBlank = s.toList := by
    rw [List.rdropWhile_eq_self_iff]
    intro hSome
    simp [h.2 _ (List.getLast_mem hSome)]
  rw [trim, trimChars_eq, hFront, hBack, String.ofList_toList]

theorem IsSolid.not_isBlankText {s : String} (h : IsSolid s) : ¬ IsBlankText s := by
  intro hBlank
  obtain ⟨c, hc⟩ := List.exists_mem_of_ne_nil s.toList (by simpa using h.1)
  have hNot := h.2 c hc
  rw [hBlank c hc] at hNot
  cases hNot

@[simp]
theorem isBlankText_trim (s : String) : IsBlankText (trim s) ↔ IsBlankText s := by
  rw [IsBlankText, IsBlankText, toList_trim, ← trimChars_eq_nil_iff, ← trimChars_eq_nil_iff,
    trimChars_trimChars]

end EquipmentBooking.Text
