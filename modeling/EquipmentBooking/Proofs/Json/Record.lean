import EquipmentBooking.Json.Choice
import EquipmentBooking.Proofs.Json.Listing
import EquipmentBooking.Proofs.Json.Scalar

/-! Reading a record undoes writing it. The members of a written object come in the order of the format,
so each one that is read fills the first place that is still open. -/
namespace EquipmentBooking.Json

open Text.Utf8

def Row.Fits : (members : List Member) → Row members → Prop
  | [], _ => True
  | m :: rest, (value, row) => m.kind.Fits value ∧ Row.Fits rest row

/-- The first values of a row found, the others not yet. -/
def Filling.upTo : (members : List Member) → Nat → Row members → Filling members
  | [], _, _ => ()
  | m :: rest, 0, _ => Filling.empty (m :: rest)
  | _ :: rest, k + 1, (value, row) => (some value, Filling.upTo rest k row)

/-- Named values from some place on, with commas in front of them but for the first of all, and the
end of the object. -/
def writeMembers : Bool → List (String × List Char) → List Char
  | _, [] => ['\x7d']
  | first, (name, value) :: more =>
    (if first then [] else [',']) ++ (writeText name ++ ':' :: (value ++ writeMembers false more))

section Layout

theorem intercalate_eq_flatMap (front : List Char) (more : List (List Char)) :
    List.intercalate [','] (front :: more) = front ++ more.flatMap (',' :: ·) := by
  induction more generalizing front with
  | nil => simp
  | cons next more ih => simp [List.intercalate_cons_cons, ih]

theorem writeMembers_false (named : List (String × List Char)) :
    writeMembers false named =
      (named.map fun (name, value) => writeText name ++ ':' :: value).flatMap (',' :: ·) ++
        ['\x7d'] := by
  induction named with
  | nil => rfl
  | cons pair named ih => simp [writeMembers, ih]

theorem writeObject_eq (named : List (String × List Char)) :
    writeObject named = '\x7b' :: writeMembers true named := by
  cases named with
  | nil => rfl
  | cons pair named =>
      simp [writeObject, writeMembers, intercalate_eq_flatMap, writeMembers_false]

theorem endsValue_writeMembers (named : List (String × List Char)) (rest : Bytes) :
    EndsValue (encode (writeMembers false named) ++ rest) := by
  cases named with
  | nil => exact .inr rfl
  | cons pair named => exact .inl rfl

end Layout

section Filling

variable {members : List Member} {name : String} {value : List Char} {rest : Bytes}

theorem Filling.upTo_zero (row : Row members) : upTo members 0 row = Filling.empty members := by
  cases members <;> rfl

theorem Filling.finish_upTo {k : Nat} (hAll : members.length ≤ k) (row : Row members) :
    Filling.finish members (upTo members k row) = .ok row := by
  induction members generalizing k with
  | nil => rfl
  | cons m members ih =>
      obtain ⟨value, row⟩ := row
      cases k with
      | zero => cases hAll
      | succ k =>
          have hRest := ih (Nat.le_of_succ_le_succ hAll) row
          simp [upTo, finish, hRest, bind, Except.bind]

theorem map_fst_named (row : Row members) :
    (Row.named members row).map Prod.fst = members.map Member.name := by
  induction members with
  | nil => rfl
  | cons m members ih => simp [Row.named, ih]

/-- The next value fills the first open place. As the names are distinct, no place before it has
the name. -/
theorem Filling.fill_upTo {k : Nat} {row : Row members} (hNames : (members.map Member.name).Nodup)
    (hFits : Row.Fits members row) (hRest : EndsValue rest)
    (hNext : (Row.named members row)[k]? = some (name, value)) :
    Filling.fill name members (upTo members k row) (byte ':' :: (encode value ++ rest)) =
      some (.ok (upTo members (k + 1) row, rest)) := by
  induction members generalizing k with
  | nil => cases hNext
  | cons m members ih =>
      obtain ⟨first, row⟩ := row
      rw [List.map_cons, List.nodup_cons] at hNames
      cases k with
      | zero =>
          cases hNext
          have hColon : readColon (byte ':' :: (encode (m.kind.write first) ++ rest)) =
              .ok (encode (m.kind.write first) ++ rest) :=
            readColon_eq_ok_iff.mpr (skipSpace_cons (by decide) _)
          have hValue := m.kind.read_write first hFits.1 hRest
          rw [upTo, empty, fill_cons_eq_ok_iff]
          refine .inl ⟨⟨rfl, rfl⟩, first, ?_, _, hColon, hValue⟩
          rw [upTo, upTo_zero]
      | succ k =>
          have hLater : (Row.named members row)[k]? = some (name, value) := hNext
          have hOther : m.name ≠ name := by
            rintro rfl
            have hMem := List.mem_map_of_mem (f := Prod.fst) (List.mem_of_getElem? hLater)
            rw [map_fst_named] at hMem
            exact hNames.1 hMem
          rw [upTo, fill_cons_eq_ok_iff]
          exact .inr ⟨hOther, _, rfl, ih hNames.2 hFits.2 hLater⟩

end Filling

section Members

variable {members : List Member} {rest : Bytes} {row : Row members}

theorem readMember_upTo {k : Nat} {name : String} {value : List Char}
    (hNames : (members.map Member.name).Nodup) (hFits : Row.Fits members row)
    (hRest : EndsValue rest) (hNext : (Row.named members row)[k]? = some (name, value)) :
    readMember members (Filling.upTo members k row)
        (encode (name.toList.flatMap writeChar) ++ byte '"' :: byte ':' :: (encode value ++ rest)) =
      .ok (Filling.upTo members (k + 1) row, rest) := by
  have hFill := Filling.fill_upTo hNames hFits hRest hNext
  rw [readMember_eq_ok_iff]
  exact ⟨name, _, readText_writeText name _, .inl hFill⟩

/-- The name of the next member stands behind the comma, if there is one. -/
theorem nextName_writeMembers (first : Bool) (name : String) (value : List Char)
    (more : List (String × List Char)) (rest : Bytes) :
    NextName first (encode (writeMembers first ((name, value) :: more)) ++ rest)
      (encode (name.toList.flatMap writeChar) ++ byte '"' :: byte ':' ::
        (encode value ++ (encode (writeMembers false more) ++ rest))) := by
  have hQuote (s : Bytes) : skipSpace (byte '"' :: s) = byte '"' :: s := skipSpace_cons (by decide) s
  have hComma (s : Bytes) : skipSpace (byte ',' :: s) = byte ',' :: s := skipSpace_cons (by decide) s
  have hName : encode (writeText name ++ ':' :: (value ++ writeMembers false more)) ++ rest =
      byte '"' :: (encode (name.toList.flatMap writeChar) ++ byte '"' :: byte ':' ::
        (encode value ++ (encode (writeMembers false more) ++ rest))) := by
    rw [encode_append, List.append_assoc, encode_writeText, encode_cons_of_lt (by decide),
      encode_append, List.cons_append, List.append_assoc]
  cases first with
  | true =>
      show skipSpace (encode (writeText name ++ _) ++ rest) = _
      rw [hName, hQuote]
  | false =>
      refine ⟨_, ?_, hQuote _⟩
      show skipSpace (encode (',' :: (writeText name ++ _)) ++ rest) = _
      rw [encode_cons_of_lt (by decide), List.cons_append, hName, hComma]

/-- From any member on, the members that are still to come complete the row. -/
theorem readMembersWithin_writeMembers {k fuel : Nat} {pending : List (String × List Char)}
    (hNames : (members.map Member.name).Nodup) (hFits : Row.Fits members row)
    (hPending : (Row.named members row).drop k = pending) (hFuel : pending.length < fuel)
    (first : Bool) (rest : Bytes) :
    readMembersWithin members fuel first (Filling.upTo members k row)
      (encode (writeMembers first pending) ++ rest) = .ok (row, rest) := by
  -- the members to come are those that the filling has no value for yet
  induction pending generalizing k fuel first with
  | nil =>
      obtain ⟨left, rfl⟩ : ∃ left, fuel = left + 1 := ⟨fuel - 1, by omega⟩
      have hAll : members.length ≤ k := by
        have hLength := congrArg List.length (map_fst_named row)
        rw [List.length_map, List.length_map] at hLength
        rw [← hLength]
        exact List.drop_eq_nil_iff.mp hPending
      have hEnd : encode (writeMembers first []) = [byte '\x7d'] := rfl
      rw [readMembersWithin_eq_ok_iff, hEnd]
      exact .inl ⟨Filling.finish_upTo hAll row, skipSpace_cons (by decide) rest⟩
  | cons pair pending ih =>
      obtain ⟨name, value⟩ := pair
      obtain ⟨left, rfl⟩ : ∃ left, fuel = left + 1 := ⟨fuel - 1, by omega⟩
      have hNext : (Row.named members row)[k]? = some (name, value) := by
        rw [← List.head?_drop, hPending]
        rfl
      have hLater : (Row.named members row).drop (k + 1) = pending := by
        rw [← List.tail_drop, hPending]
        rfl
      have hMember := readMember_upTo hNames hFits (endsValue_writeMembers pending rest) hNext
      have hMore := ih hLater (Nat.lt_of_succ_lt_succ hFuel) false
      rw [readMembersWithin_eq_ok_iff]
      exact .inr ⟨_, _, nextName_writeMembers first name value pending rest, _, hMember, hMore⟩

end Members

/-- A row is read as it was written, whatever follows it. -/
theorem RecordFormat.read_write {f : RecordFormat} {row : Row f.members}
    (hNames : (f.members.map Member.name).Nodup) (hFits : Row.Fits f.members row) (rest : Bytes) :
    f.read (encode (f.write row) ++ rest) = .ok (row, rest) := by
  have hMembers := readMembersWithin_writeMembers (k := 0) hNames hFits List.drop_zero
    (Nat.lt_succ_self _) true rest
  rw [Filling.upTo_zero] at hMembers
  rw [write, writeObject_eq, encode_cons_of_lt (by decide), List.cons_append,
    RecordFormat.read_eq_ok_iff]
  refine ⟨_, _, skipSpace_cons (by decide) _, .inr ⟨rfl, ?_⟩⟩
  exact readMembersWithin_of_le hMembers (by omega)

/-- An alternative is read as it was written, if its name is the name of no other one. -/
theorem Choice.read_write {α : Type} [DecidableEq α] {choice : Choice α} {name : String} {value : α}
    (hName : choice.alternatives.find? (fun alternative => alternative.2 = value) =
      some (name, value))
    (hValue : choice.alternatives.lookup name = some value) (rest : Bytes) :
    choice.read (encode (choice.write value) ++ rest) = .ok (value, rest) := by
  have hWrite : choice.write value = writeText name := by
    rw [write, hName]
  have hQuote (s : Bytes) : skipSpace (byte '"' :: s) = byte '"' :: s := skipSpace_cons (by decide) s
  have hRead : choice.readName (encode (name.toList.flatMap writeChar) ++ byte '"' :: rest) =
      .ok (value, rest) := by
    rw [readName, readText_writeText]
    simp only [bind, Except.bind, hValue]
  rw [hWrite, encode_writeText]
  simp only [read, hQuote, ↓reduceIte, hRead]

end EquipmentBooking.Json
