import EquipmentBooking.Proofs.Json.RecordReading
import EquipmentBooking.Proofs.Json.Writing

/-! Objects of which members may be left out. What is found in such an object under a name is the value
that was set, or nothing. -/
namespace EquipmentBooking.Json

/-- A member that may be left out, with its value if it has one. -/
structure Field where
  name : String
  kind : Scalar
  value : Option kind.Carrier

def Field.entry? (f : Field) : Option Entry :=
  f.value.map fun x => ⟨f.name, f.kind, x⟩

def entriesOf (fields : List Field) : List Entry :=
  fields.filterMap Field.entry?

/-- A member of an object that has the name and stands for the value of another one. -/
def Entry.StoodForBy (e : Entry) (pair : String × Value) : Prop :=
  pair.1 = e.name ∧ e.kind.Means e.value pair.2

/-- A value means itself in the form in which it is written. -/
theorem Scalar.means_toValue {kind : Scalar} {x : kind.Carrier} (h : kind.Fits x) :
    kind.Means x (kind.toValue x) := by
  have hRead : kind.read (Text.Utf8.encode (kind.write x) ++ [byte ',']) = .ok (x, [byte ',']) :=
    kind.read_write x h (.inl rfl)
  exact ((kind.read_of_spells (kind.spells_write x) (List.forall_mem_nil _)
    (stopsNumber_cons (.inl rfl))).mp hRead).1

theorem valuesOf_eq_nil {name : String} {pairs : List (String × Value)}
    (h : name ∉ pairs.map Prod.fst) : valuesOf name pairs = [] := by
  rw [valuesOf, List.map_eq_nil_iff, List.filter_eq_nil_iff]
  intro pair hMem hName
  exact h (List.mem_map.mpr ⟨pair, hMem, of_decide_eq_true hName⟩)

section Fields

variable {f : Field} {fields : List Field}

theorem map_written_entry? (f : Field) :
    f.entry?.map Entry.written = f.value.map fun x => (f.name, f.kind.write x) :=
  Option.map_map Entry.written (Entry.mk f.name f.kind) f.value

theorem entriesOf_cons_of_none (h : f.value = none) : entriesOf (f :: fields) = entriesOf fields :=
  List.filterMap_cons_none (by rw [Field.entry?, h]; rfl)

theorem entriesOf_cons_of_some {x : f.kind.Carrier} (h : f.value = some x) :
    entriesOf (f :: fields) = ⟨f.name, f.kind, x⟩ :: entriesOf fields :=
  List.filterMap_cons_some (by rw [Field.entry?, h]; rfl)

/-- The members that are there have the names of their fields, in the same order. -/
theorem names_entriesOf_sublist (fields : List Field) :
    (((entriesOf fields).map Entry.pair).map Prod.fst).Sublist (fields.map Field.name) := by
  induction fields with
  | nil => exact .slnil
  | cons f fields ih =>
      cases hValue : f.value with
      | none =>
          rw [entriesOf_cons_of_none hValue]
          exact ih.cons f.name
      | some x =>
          rw [entriesOf_cons_of_some hValue]
          exact ih.cons_cons f.name

/-- A member that is unset is not found, and one that is set is found once. -/
theorem valuesOf_entriesOf (hNames : (fields.map Field.name).Nodup) (hMem : f ∈ fields) :
    valuesOf f.name ((entriesOf fields).map Entry.pair) = (f.value.map f.kind.toValue).toList := by
  induction fields with
  | nil => cases hMem
  | cons g fields ih =>
      rw [List.map_cons, List.nodup_cons] at hNames
      rcases List.mem_cons.mp hMem with rfl | hLater
      · have hNone : valuesOf f.name ((entriesOf fields).map Entry.pair) = [] :=
          valuesOf_eq_nil fun hName => hNames.1 ((names_entriesOf_sublist fields).subset hName)
        cases hValue : f.value with
        | none =>
            rw [entriesOf_cons_of_none hValue, hNone]
            rfl
        | some x =>
            rw [entriesOf_cons_of_some hValue, List.map_cons, Entry.pair, Filling.valuesOf_cons_self, hNone]
            rfl
      · have hOther : g.name ≠ f.name := fun hSame =>
          hNames.1 (hSame ▸ List.mem_map_of_mem hLater)
        cases hValue : g.value with
        | none => rw [entriesOf_cons_of_none hValue, ih hNames.2 hLater]
        | some x =>
            rw [entriesOf_cons_of_some hValue, List.map_cons, Entry.pair, Filling.valuesOf_cons_of_ne hOther,
              ih hNames.2 hLater]

/-- Where a default is given for a member, the value that is set replaces it. -/
theorem means_withDefault_of_mem (hNames : (fields.map Field.name).Nodup) (hMem : f ∈ fields)
    (hKind : f.kind ≠ .place) (standard : f.kind.Carrier) :
    (Member.withDefault f.name f.kind standard).Means (f.value.getD standard)
      (valuesOf f.name ((entriesOf fields).map Entry.pair)) := by
  rw [valuesOf_entriesOf hNames hMem, Member.withDefault_means_iff]
  cases f.value with
  | none => exact .inr ⟨rfl, rfl⟩
  | some x => exact .inl ⟨_, rfl, Scalar.means_toValue (Scalar.fits_of_ne_place hKind x)⟩

theorem stoodForBy_pair {e : Entry} (h : e.kind ≠ .place) : e.StoodForBy e.pair :=
  ⟨rfl, Scalar.means_toValue (Scalar.fits_of_ne_place h e.value)⟩

end Fields

end EquipmentBooking.Json
