import EquipmentBooking.Proofs.Text.Lowercase
import EquipmentBooking.Proofs.Time.Reading

/-! Which texts name a day. The names are compared with lower-case forms, in which all of Unicode takes
part; yet no character outside ASCII has a form that occurs in a name. -/
namespace EquipmentBooking

open Text (LowersTo SameLetters)

namespace Weekday

variable {day other : Weekday} {s : String}

/-- No name has a `k`, the only letter that is the lower-case form of a character outside ASCII. -/
theorem isPlain_name (day : Weekday) : ∀ c ∈ day.name.toList, c.toNat < 0x80 ∧ c ≠ 'k' := by
  cases day <;> simp [name]

theorem name_inj : day.name = other.name ↔ day = other := by
  cases day <;> cases other <;> decide

theorem sameLetters_name_iff :
    SameLetters s day.name ↔ s.toList.map Char.toLower = day.name.toList := by
  have hSmall : day.name.toList.map Char.toLower = day.name.toList := by
    cases day <;> rfl
  rw [SameLetters, hSmall]

/-- The letters of a text tell which day it names. -/
theorem eq_of_sameLetters (h : SameLetters s day.name) (hOther : SameLetters s other.name) :
    other = day := by
  rw [sameLetters_name_iff] at h hOther
  exact name_inj.mp (String.toList_inj.mp (hOther.symm.trans h))

theorem ofName?_eq_some_iff : ofName? s = some day ↔ Text.lowerChars s.toList = day.name.toList := by
  have hLower : Text.lower s = day.name ↔ Text.lowerChars s.toList = day.name.toList := by
    rw [← String.toList_inj, Text.lower, String.toList_ofList]
  rw [← hLower]
  constructor
  · intro h
    have hSame := List.find?_some (p := fun other : Weekday => other.name == Text.lower s) h
    exact (eq_of_beq hSame).symm
  · intro h
    rw [ofName?, h]
    cases day <;> rfl

end Weekday

section Days

variable {s : String} {day : Weekday} {lowered : List Char}

/-- It does not matter which of their forms capital sigmas have. -/
theorem sameLetters_iff_of_lowersTo (h : LowersTo s.toList lowered) :
    SameLetters s day.name ↔ lowered = day.name.toList := by
  rw [Weekday.sameLetters_name_iff, h.eq_iff day.isPlain_name]

theorem readDay_eq_ok_iff_sameLetters : readDay s = .ok day ↔ SameLetters s day.name := by
  rw [readDay_eq_ok_iff, Weekday.ofName?_eq_some_iff,
    sameLetters_iff_of_lowersTo (Text.lowersTo_lowerChars s.toList)]

theorem isAscii_of_sameLetters (h : SameLetters s day.name) : ∀ c ∈ s.toList, c.toNat < 0x80 := by
  have hForm := Text.lowersTo_lowerChars s.toList
  refine hForm.isAscii ?_
  rw [(sameLetters_iff_of_lowersTo hForm).mp h]
  exact day.isPlain_name

theorem readDay_eq_error_iff {issue : TimeIssue} :
    readDay s = .error issue ↔ (¬ ∃ day, readDay s = .ok day) ∧ issue = .unknownDay s := by
  rw [readDay]
  cases Weekday.ofName? s <;> simp [eq_comm]

/-- A text names a day just when it is the name of the day but for the case of ASCII letters. So no text
with a character outside ASCII names a day, every name names its day, and no text names two. To compare
the names with any lower-case form of the text comes to the same. -/
theorem readDay_reads_names :
    (∀ s day, readDay s = .ok day ↔ SameLetters s day.name) ∧
      (∀ s, (∃ c ∈ s.toList, 0x80 ≤ c.toNat) → readDay s = .error (.unknownDay s)) ∧
      (∀ day : Weekday, readDay day.name = .ok day) ∧
      (∀ s day, readDay s = .ok day → ∀ other : Weekday, SameLetters s other.name → other = day) ∧
      ∀ s lowered day, LowersTo s.toList lowered →
        (readDay s = .ok day ↔ lowered = day.name.toList) := by
  refine ⟨fun s day => readDay_eq_ok_iff_sameLetters, ?_, ?_, ?_, ?_⟩
  · rintro s ⟨c, hMem, hBeyond⟩
    refine readDay_eq_error_iff.mpr ⟨?_, rfl⟩
    rintro ⟨day, hRead⟩
    have hAscii := isAscii_of_sameLetters (readDay_eq_ok_iff_sameLetters.mp hRead)
    exact absurd (hAscii c hMem) (Nat.not_lt.mpr hBeyond)
  · intro day
    exact readDay_eq_ok_iff.mpr (Weekday.ofName?_name day)
  · intro s day hRead other hOther
    exact Weekday.eq_of_sameLetters (readDay_eq_ok_iff_sameLetters.mp hRead) hOther
  · intro s lowered day hForm
    rw [readDay_eq_ok_iff_sameLetters, sameLetters_iff_of_lowersTo hForm]

/-- The dotted capital I has two characters in its lower-case form, one of them an `i`; a final sigma is
no `s`. -/
theorem readDay_reads_names_of_friday :
    readDay "fRIday" = .ok .friday ∧
      (∀ other : Weekday, SameLetters "fRIday" other.name → other = .friday) ∧
      readDay "fRİday" = .error (.unknownDay "fRİday") ∧
      LowersTo "Σunday".toList "ςunday".toList ∧ readDay "Σunday" ≠ .ok .sunday := by
  obtain ⟨hReads, hBeyond, -, hOne, hForms⟩ := readDay_reads_names
  have hFriday := (hReads "fRIday" .friday).mpr (by decide)
  have hSigma : LowersTo "Σunday".toList "ςunday".toList :=
    .finalSigma (Text.lowersTo_lowerChars "unday".toList)
  refine ⟨hFriday, hOne _ _ hFriday, hBeyond _ ⟨'İ', by decide, by decide⟩, hSigma, ?_⟩
  rw [Ne, hForms _ _ .sunday hSigma]
  decide

end Days

end EquipmentBooking
