import EquipmentBooking.Proofs.Json.Record

namespace EquipmentBooking.Json

/-- A number that is read is checked against its range there and then. -/
theorem Scalar.fits_of_read {kind : Scalar} {value : kind.Carrier} {s rest : Bytes}
    (h : kind.read s = .ok (value, rest)) : kind.Fits value := by
  cases kind with
  | place =>
      simp only [read] at h
      obtain ⟨b, after, -, -, n, hValue, -⟩ := readWholeNumber_eq_ok_iff.mp h
      obtain ⟨i, -, hNumber⟩ := Option.bind_eq_some_iff.mp hValue
      rw [natBelow?] at hNumber
      split at hNumber
      · cases hNumber
        show i.toNat < UInt64.size
        omega
      · cases hNumber
  | text | optionalText | flag | count | id | balance | moment => trivial

theorem Scalar.fits_of_ne_place {kind : Scalar} (h : kind ≠ .place) (value : kind.Carrier) :
    kind.Fits value := by
  cases kind with
  | place => exact absurd rfl h
  | text | optionalText | flag | count | id | balance | moment => trivial

theorem Row.fits_of_ne_place {members : List Member} (h : ∀ m ∈ members, m.kind ≠ .place)
    (row : Row members) : Row.Fits members row := by
  induction members with
  | nil => trivial
  | cons m members ih =>
      rw [List.forall_mem_cons] at h
      exact ⟨Scalar.fits_of_ne_place h.1 row.1, ih h.2 row.2⟩

/-- The values that stand for a member that is left out are within the range of its kind. -/
def Member.DefaultsFit (m : Member) : Prop :=
  ∀ value, m.unmentioned = some value ∨ m.cutOff = some value → m.kind.Fits value

theorem Member.defaultsFit_required (name : String) (kind : Scalar) :
    (Member.required name kind).DefaultsFit := by
  intro value h
  rcases h with h | h <;> cases h

def Filling.Fits : (members : List Member) → Filling members → Prop
  | [], _ => True
  | m :: rest, (found, more) => (∀ value, found = some value → m.kind.Fits value) ∧ Fits rest more

section Objects

variable {members : List Member} {s rest : Bytes}

theorem Filling.fits_empty (members : List Member) : Fits members (empty members) := by
  induction members with
  | nil => trivial
  | cons m members ih => exact ⟨nofun, ih⟩

theorem Filling.fits_fill {name : String} {filling filled : Filling members}
    (h : Filling.fill name members filling s = some (.ok (filled, rest)))
    (hFits : Filling.Fits members filling) : Filling.Fits members filled := by
  induction members with
  | nil => cases h
  | cons m members ih =>
      obtain ⟨found, more⟩ := filling
      rcases fill_cons_eq_ok_iff.mp h with ⟨-, value, rfl, after, -, hRead⟩ | ⟨-, later, rfl, hFill⟩
      · constructor
        · intro other hOther
          cases hOther
          exact Scalar.fits_of_read hRead
        · exact hFits.2
      · exact ⟨hFits.1, ih hFill hFits.2⟩

theorem fits_readMember {filling filled : Filling members}
    (h : readMember members filling s = .ok (filled, rest)) (hFits : Filling.Fits members filling) :
    Filling.Fits members filled := by
  obtain ⟨name, after, -, hFill | ⟨⟨-, rfl⟩, -⟩⟩ := readMember_eq_ok_iff.mp h
  · exact Filling.fits_fill hFill hFits
  · exact hFits

/-- The defaults that complete a row fit as the values found do. -/
theorem Filling.fits_finish {filling : Filling members} {row : Row members}
    (hDefaults : ∀ m ∈ members, m.DefaultsFit) (h : Filling.finish members filling = .ok row)
    (hFits : Filling.Fits members filling) : Row.Fits members row := by
  induction members with
  | nil => trivial
  | cons m members ih =>
      obtain ⟨found, more⟩ := filling
      rw [List.forall_mem_cons] at hDefaults
      rw [finish] at h
      split at h
      · cases h
      · next value hValue =>
        obtain ⟨later, hLater, hRow⟩ := bind_eq_ok.mp h
        cases hRow
        constructor
        · cases found with
          | none => exact hDefaults.1 value (.inl hValue)
          | some first => exact hFits.1 value hValue
        · exact ih hDefaults.2 hLater hFits.2

/-- The values of members that no one mentioned are defaults, which are within their ranges
by assumption. -/
theorem fits_readMembersWithin {fuel : Nat} {first : Bool} {filling : Filling members}
    {row : Row members} (hDefaults : ∀ m ∈ members, m.DefaultsFit)
    (h : readMembersWithin members fuel first filling s = .ok (row, rest))
    (hFits : Filling.Fits members filling) : Row.Fits members row := by
  induction fuel generalizing first filling s with
  | zero => cases h
  | succ fuel ih =>
      rcases readMembersWithin_eq_ok_iff.mp h with
        ⟨hFinish, -⟩ | ⟨filled, name, -, after, hMember, hMore⟩
      · exact Filling.fits_finish hDefaults hFinish hFits
      · exact ih hMore (fits_readMember hMember hFits)

end Objects

section Lists

variable {members : List Member} {s rest : Bytes}

theorem fits_cutOffRow? {row : Row members} (hDefaults : ∀ m ∈ members, m.DefaultsFit)
    (h : cutOffRow? members = some row) : Row.Fits members row := by
  induction members with
  | nil => trivial
  | cons m members ih =>
      rw [List.forall_mem_cons] at hDefaults
      obtain ⟨value, hValue, hMore⟩ := Option.bind_eq_some_iff.mp h
      obtain ⟨later, hLater, rfl⟩ := Option.map_eq_some_iff.mp hMore
      exact ⟨hDefaults.1 value (.inr hValue), ih hDefaults.2 hLater⟩

theorem fits_readsElements {shape : String} {read : Nat} {row : Row members}
    (hDefaults : ∀ m ∈ members, m.DefaultsFit) (h : ReadsElements shape members read row s rest) :
    Row.Fits members row := by
  induction members generalizing read s with
  | nil => trivial
  | cons m members ih =>
      obtain ⟨value, row⟩ := row
      rcases readsElements_cons_iff.mp h with ⟨hCut, -⟩ | ⟨start, -, after, hRead, hMore⟩
      · exact fits_cutOffRow? hDefaults hCut
      · rw [List.forall_mem_cons] at hDefaults
        exact ⟨Scalar.fits_of_read hRead, ih hDefaults.2 hMore⟩

end Lists

theorem RecordFormat.fits_of_read {f : RecordFormat} {row : Row f.members} {s rest : Bytes}
    (hDefaults : ∀ m ∈ f.members, m.DefaultsFit) (h : f.read s = .ok (row, rest)) :
    Row.Fits f.members row := by
  obtain ⟨b, after, -, ⟨-, hElements⟩ | ⟨-, hMembers⟩⟩ := RecordFormat.read_eq_ok_iff.mp h
  · exact fits_readsElements hDefaults hElements
  · exact fits_readMembersWithin hDefaults hMembers (Filling.fits_empty f.members)

end EquipmentBooking.Json
