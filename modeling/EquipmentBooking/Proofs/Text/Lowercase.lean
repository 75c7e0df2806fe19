import EquipmentBooking.Text.Lowercase

/-! Lower-case forms that stay within ASCII. Runs are looked at once each, by their ends: what lies
between the ends of a run has its form between the forms of the ends. -/
namespace EquipmentBooking.Text

/-- The lower-case forms that a text can have. A capital sigma has one form at the end of a word and
another one elsewhere; here it may have either anywhere, as nothing is said about words. -/
inductive LowersTo : List Char → List Char → Prop
  | nil : LowersTo [] []
  | char (c : Char) {s t : List Char} (rest : LowersTo s t) : LowersTo (c :: s) (lowerChar c ++ t)
  | finalSigma {s t : List Char} (rest : LowersTo s t) : LowersTo ('Σ' :: s) ('ς' :: t)

/-- Texts that differ in nothing but the case of ASCII letters. -/
def SameLetters (s t : String) : Prop :=
  s.toList.map Char.toLower = t.toList.map Char.toLower

instance (s t : String) : Decidable (SameLetters s t) :=
  inferInstanceAs (Decidable (s.toList.map Char.toLower = t.toList.map Char.toLower))

section Runs

variable {r : CaseRun} {runs : List CaseRun} {n : Nat}

/-- The forms of a run of capitals beyond ASCII are characters beyond ASCII. The Kelvin sign, which is a
run of its own, is the exception. -/
def CaseRun.StaysBeyond (r : CaseRun) : Prop :=
  r.last < 0x80 ∨ r.first = 0x212A ∧ r.last = 0x212A ∨
    0x80 ≤ r.first + r.offset ∧ r.last + r.offset < 0xD800 ∨
    0xDFFF < r.first + r.offset ∧ r.last + r.offset < 0x110000

instance (r : CaseRun) : Decidable r.StaysBeyond :=
  inferInstanceAs (Decidable (_ ∨ _ ∧ _ ∨ _ ∧ _ ∨ _ ∧ _))

theorem staysBeyond_caseRuns : ∀ r ∈ caseRuns, r.StaysBeyond := by
  decide +kernel

theorem CaseRun.le_of_covers (h : r.covers n = true) : r.first ≤ n ∧ n ≤ r.last := by
  simp only [covers, Bool.and_eq_true, decide_eq_true_eq] at h
  exact h.1

/-- A form that is not the character itself comes from a run that covers it. -/
theorem lowerByRuns_cases (n : Nat) (runs : List CaseRun) :
    lowerByRuns n runs = n ∨
      ∃ r ∈ runs, r.covers n = true ∧ lowerByRuns n runs = (n + r.offset).toNat := by
  induction runs with
  | nil => exact .inl rfl
  | cons r runs ih =>
      rw [lowerByRuns]
      split
      · exact .inl rfl
      · split
        · next hCovers => exact .inr ⟨r, List.mem_cons_self, hCovers, rfl⟩
        · rcases ih with hSame | ⟨other, hMem, hOther⟩
          · exact .inl hSame
          · exact .inr ⟨other, List.mem_cons_of_mem r hMem, hOther⟩

theorem lowerByRuns_beyond (hBeyond : 0x80 ≤ n) (hKelvin : n ≠ 0x212A) (hValid : n.isValidChar) :
    0x80 ≤ lowerByRuns n caseRuns ∧ (lowerByRuns n caseRuns).isValidChar := by
  rcases lowerByRuns_cases n caseRuns with hSame | ⟨r, hMem, hCovers, hForm⟩
  · rw [hSame]
    exact ⟨hBeyond, hValid⟩
  · have hEnds := CaseRun.le_of_covers hCovers
    rw [hForm, Nat.isValidChar]
    rcases staysBeyond_caseRuns r hMem with hLast | hSign | hLow | hHigh <;> omega

end Runs

section Characters

variable {c d : Char}

theorem lowerChar_of_ascii (h : c.toNat < 0x80) : lowerChar c = [c.toLower] := by
  have hAll : ∀ n : Fin 0x80, lowerChar (Char.ofNat n.val) = [(Char.ofNat n.val).toLower] := by decide
  have hChar := hAll ⟨c.toNat, h⟩
  rwa [Char.ofNat_toNat] at hChar

/-- Only two characters outside ASCII have an ASCII character in their lower-case form. -/
theorem le_toNat_of_mem_lowerChar (hBeyond : 0x80 ≤ c.toNat) (hKelvin : c.toNat ≠ 0x212A)
    (hDotted : c.toNat ≠ 0x130) (hMem : d ∈ lowerChar c) : 0x80 ≤ d.toNat := by
  rw [lowerChar, if_neg hDotted, List.mem_singleton] at hMem
  obtain ⟨hForm, hValid⟩ := lowerByRuns_beyond hBeyond hKelvin c.valid
  rw [hMem, Char.ofNat, dif_pos hValid]
  exact hForm

/-- Of those two, one has a `k` in its form and the other one a character outside ASCII. -/
theorem isAscii_of_lowerChar (h : ∀ d ∈ lowerChar c, d.toNat < 0x80 ∧ d ≠ 'k') : c.toNat < 0x80 := by
  refine Nat.lt_of_not_le fun hBeyond => ?_
  have hChar {n : Nat} (hn : c.toNat = n) : c = Char.ofNat n := by
    rw [← hn, Char.ofNat_toNat]
  by_cases hKelvin : c.toNat = 0x212A
  · rw [hChar hKelvin] at h
    exact (h 'k' (by decide)).2 rfl
  · by_cases hDotted : c.toNat = 0x130
    · rw [hChar hDotted] at h
      exact absurd (h (Char.ofNat 0x307) (by decide)).1 (by decide)
    · obtain ⟨d, hMem⟩ : ∃ d, d ∈ lowerChar c := by
        rw [lowerChar, if_neg hDotted]
        exact ⟨_, List.mem_singleton_self _⟩
      exact absurd (h d hMem).1
        (Nat.not_lt.mpr (le_toNat_of_mem_lowerChar hBeyond hKelvin hDotted hMem))

theorem isAscii_of_toLower (h : c.toLower.toNat < 0x80) : c.toNat < 0x80 := by
  by_cases hUpper : c.val ≥ 'A'.val ∧ c.val ≤ 'Z'.val
  · exact Nat.lt_of_le_of_lt hUpper.2 (by decide)
  · have hSame : c.toLower = c := dif_neg hUpper
    rwa [hSame] at h

end Characters

section Texts

variable {s t name : List Char}

theorem lowersTo_lowerChars (s : List Char) : LowersTo s (lowerChars s) := by
  induction s with
  | nil => exact .nil
  | cons c s ih => exact .char c ih

/-- A form with neither a `k` nor anything outside ASCII is a form of ASCII characters. -/
theorem LowersTo.isAscii (h : LowersTo s t) (hForm : ∀ d ∈ t, d.toNat < 0x80 ∧ d ≠ 'k') :
    ∀ c ∈ s, c.toNat < 0x80 := by
  induction h with
  | nil => exact List.forall_mem_nil _
  | char c rest ih =>
      rw [List.forall_mem_append] at hForm
      exact List.forall_mem_cons.mpr ⟨isAscii_of_lowerChar hForm.1, ih hForm.2⟩
  | finalSigma rest ih => exact absurd (hForm 'ς' List.mem_cons_self).1 (by decide)

theorem LowersTo.eq_map (h : LowersTo s t) (hAscii : ∀ c ∈ s, c.toNat < 0x80) :
    t = s.map Char.toLower := by
  induction h with
  | nil => rfl
  | char c rest ih =>
      rw [List.forall_mem_cons] at hAscii
      rw [lowerChar_of_ascii hAscii.1, ih hAscii.2]
      rfl
  | finalSigma rest ih => exact absurd (hAscii 'Σ' List.mem_cons_self) (by decide)

/-- To compare the lower-case form with such a name is to compare the ASCII letters without their case. -/
theorem LowersTo.eq_iff (h : LowersTo s t) (hName : ∀ d ∈ name, d.toNat < 0x80 ∧ d ≠ 'k') :
    t = name ↔ s.map Char.toLower = name := by
  constructor
  · rintro rfl
    exact (h.eq_map (h.isAscii hName)).symm
  · rintro rfl
    refine h.eq_map fun c hc => isAscii_of_toLower ?_
    exact (hName _ (List.mem_map_of_mem hc)).1

end Texts

end EquipmentBooking.Text
