import EquipmentBooking.Roster.Lines

/-! A roster is its list of lines, numbered from one. Looking for a number and looking at a place come
to the same, so the edits that look for numbers are those of a plain list. -/
namespace EquipmentBooking

def numberFrom : Nat → List RosterLine → List RosterEntry
  | _, [] => []
  | first, l :: rest => l.numbered first :: numberFrom (first + 1) rest

@[simp]
theorem RosterLine.presentationId_numbered (l : RosterLine) (id : Nat) :
    (l.numbered id).presentationId = id := rfl

theorem RosterLine.getElem?_of_not_hasPlace {lines : List RosterLine} {place : Nat}
    (h : ¬ HasPlace lines (place + 1)) : lines[place]? = none := by
  rw [List.getElem?_eq_none_iff]
  exact Nat.le_of_not_lt fun hLt => h ⟨Nat.le_add_left 1 place, hLt⟩

@[simp]
theorem length_numberFrom (first : Nat) (lines : List RosterLine) :
    (numberFrom first lines).length = lines.length := by
  induction lines generalizing first with
  | nil => rfl
  | cons l rest ih => simp [numberFrom, ih]

theorem numberFrom_append (first : Nat) (front back : List RosterLine) :
    numberFrom first (front ++ back) =
      numberFrom first front ++ numberFrom (first + front.length) back := by
  induction front generalizing first with
  | nil => rfl
  | cons l rest ih => simp [numberFrom, ih, Nat.add_comm, Nat.add_left_comm]

theorem map_line_numberFrom (first : Nat) (lines : List RosterLine) :
    (numberFrom first lines).map RosterEntry.line = lines := by
  induction lines generalizing first with
  | nil => rfl
  | cons l rest ih => rw [numberFrom, List.map_cons, ih]; rfl

theorem map_presentationId_numberFrom (first : Nat) (lines : List RosterLine) :
    (numberFrom first lines).map RosterEntry.presentationId = List.range' first lines.length := by
  induction lines generalizing first with
  | nil => rfl
  | cons l rest ih => rw [numberFrom, List.map_cons, ih, List.length_cons, List.range'_succ]; rfl

theorem getElem?_numberFrom (first place : Nat) (lines : List RosterLine) :
    (numberFrom first lines)[place]? = lines[place]?.map fun l => l.numbered (first + place) := by
  induction lines generalizing first place with
  | nil => rfl
  | cons l rest ih =>
      cases place with
      | zero => rfl
      | succ place => simp [numberFrom, ih, Nat.add_comm, Nat.add_left_comm]

/-- No entry has a number before the first. -/
theorem le_of_mem_numberFrom {first : Nat} {lines : List RosterLine} {e : RosterEntry}
    (h : e ∈ numberFrom first lines) : first ≤ e.presentationId := by
  have hMem := List.mem_map_of_mem (f := RosterEntry.presentationId) h
  rw [map_presentationId_numberFrom, List.mem_range'_1] at hMem
  exact hMem.1

/-- Moving every line up by one moves the first number. -/
theorem map_pred_numberFrom (first : Nat) (lines : List RosterLine) :
    (numberFrom (first + 1) lines).map
        (fun later => { later with presentationId := later.presentationId - 1 }) =
      numberFrom first lines := by
  induction lines generalizing first with
  | nil => rfl
  | cons l rest ih => rw [numberFrom, List.map_cons, ih]; rfl

namespace Roster

/-- Removing takes out the entry that a search for its number finds. -/
theorem map_fst_removeFrom (id : Nat) (entries : List RosterEntry) :
    (removeFrom id entries).map Prod.fst = entries.find? fun e => e.presentationId = id := by
  induction entries with
  | nil => rfl
  | cons e rest ih =>
      rw [removeFrom]
      by_cases h : e.presentationId = id
      · simp [h]
      · simp [h, ← ih, Function.comp_def]

theorem isSome_setQuantityIn (id : Nat) (quantity : UInt32) (entries : List RosterEntry) :
    (setQuantityIn id quantity entries).isSome =
      (entries.find? fun e => e.presentationId = id).isSome := by
  induction entries with
  | nil => rfl
  | cons e rest ih =>
      rw [setQuantityIn]
      by_cases h : e.presentationId = id
      · simp [h]
      · simp [h, ih]

/-- With lines numbered in order, the line with a number is the one at that place, and the lines behind
it get the numbers of their new places. -/
theorem removeFrom_numberFrom (first place : Nat) (lines : List RosterLine) :
    removeFrom (first + place) (numberFrom first lines) =
      lines[place]?.map fun l =>
        (l.numbered (first + place), numberFrom first (lines.eraseIdx place)) := by
  induction lines generalizing first place with
  | nil => rfl
  | cons l rest ih =>
      rw [numberFrom, removeFrom, RosterLine.presentationId_numbered]
      cases place with
      | zero =>
          rw [if_pos (Nat.add_zero first).symm, map_pred_numberFrom]
          rfl
      | succ place =>
          rw [if_neg (by omega), show first + (place + 1) = first + 1 + place by omega, ih]
          cases h : rest[place]? <;> simp [h, numberFrom]

/-- Setting a quantity by number is setting it by place, and moves no line. -/
theorem setQuantityIn_numberFrom (first place : Nat) (quantity : UInt32)
    (lines : List RosterLine) :
    setQuantityIn (first + place) quantity (numberFrom first lines) =
      lines[place]?.map fun _ =>
        numberFrom first (lines.modify place fun l => { l with quantity }) := by
  induction lines generalizing first place with
  | nil => rfl
  | cons l rest ih =>
      rw [numberFrom, setQuantityIn, RosterLine.presentationId_numbered]
      cases place with
      | zero =>
          rw [if_pos (Nat.add_zero first).symm]
          rfl
      | succ place =>
          rw [if_neg (by omega), show first + (place + 1) = first + 1 + place by omega, ih]
          cases h : rest[place]? <;> simp [h, numberFrom]

theorem find?_numberFrom_eq_none {id first : Nat} (h : id < first) (lines : List RosterLine) :
    (numberFrom first lines).find? (fun e => e.presentationId = id) = none := by
  rw [List.find?_eq_none]
  intro e hMem
  have hFirst := le_of_mem_numberFrom hMem
  simp
  omega

/-- The numbers of a roster are its places, so looking for a number that is no place finds nothing. -/
theorem find?_eq_none_of_not_hasPlace {id : Nat} {lines : List RosterLine}
    (h : ¬ RosterLine.HasPlace lines id) :
    (numberFrom 1 lines).find? (fun e => e.presentationId = id) = none := by
  cases id with
  | zero => exact find?_numberFrom_eq_none Nat.one_pos lines
  | succ place =>
      rw [← map_fst_removeFrom, Nat.add_comm, removeFrom_numberFrom,
        RosterLine.getElem?_of_not_hasPlace h]
      rfl

def ofLines (kind : RosterKind) (lines : List RosterLine) : Roster :=
  ⟨kind, numberFrom 1 lines⟩

theorem remove_snd (r : Roster) (id : Nat) :
    (r.remove id).2 = r.entries.find? fun e => e.presentationId = id := by
  rw [← map_fst_removeFrom, remove]
  cases removeFrom id r.entries <;> rfl

theorem setQuantity_snd (r : Roster) (id : Nat) (quantity : UInt32) :
    (r.setQuantity id quantity).2 =
      (r.entries.find? fun e => e.presentationId = id).isSome := by
  rw [← isSome_setQuantityIn id quantity, setQuantity]
  cases setQuantityIn id quantity r.entries <;> rfl

variable {kind : RosterKind} {lines : List RosterLine}

theorem add_ofLines {itemId : String} (name : String) (maxQuantity : UInt32)
    (hId : itemId ≠ "") :
    (ofLines kind lines).add itemId name maxQuantity =
      (ofLines kind (lines ++ [.added itemId name maxQuantity]), some (lines.length + 1)) := by
  rw [add, if_neg hId, ofLines, ofLines, numberFrom_append, size, length_numberFrom, Nat.add_comm 1]
  rfl

theorem remove_ofLines {place : Nat} (h : place < lines.length) :
    (ofLines kind lines).remove (place + 1) =
      (ofLines kind (lines.eraseIdx place), some (lines[place].numbered (place + 1))) := by
  rw [remove, ofLines, Nat.add_comm place, removeFrom_numberFrom, List.getElem?_eq_getElem h]
  rfl

theorem setQuantity_ofLines {place : Nat} (quantity : UInt32) (h : place < lines.length) :
    (ofLines kind lines).setQuantity (place + 1) quantity =
      (ofLines kind (lines.modify place fun l => { l with quantity }), true) := by
  rw [setQuantity, ofLines, Nat.add_comm place, setQuantityIn_numberFrom,
    List.getElem?_eq_getElem h]
  rfl

theorem remove_ofLines_eq_self {id : Nat} (h : ¬ RosterLine.HasPlace lines id) :
    (ofLines kind lines).remove id = (ofLines kind lines, none) := by
  have hNone := find?_eq_none_of_not_hasPlace h
  rw [← map_fst_removeFrom, Option.map_eq_none_iff] at hNone
  rw [remove, ofLines, hNone]

theorem setQuantity_ofLines_eq_self {id : Nat} (quantity : UInt32)
    (h : ¬ RosterLine.HasPlace lines id) :
    (ofLines kind lines).setQuantity id quantity = (ofLines kind lines, false) := by
  have hNone := isSome_setQuantityIn id quantity (numberFrom 1 lines)
  rw [find?_eq_none_of_not_hasPlace h, Option.isSome_none, Option.isSome_eq_false_iff,
    Option.isNone_iff_eq_none] at hNone
  rw [setQuantity, ofLines, hNone]

/-- An edit does to a roster what it does to its lines, and answers the same. -/
theorem edit_ofLines (edit : RosterEdit) :
    (ofLines kind lines).edit edit = (ofLines kind (edit.onLines lines), edit.answerOn lines) := by
  cases edit with
  | add itemId name maxQuantity =>
      by_cases h : itemId = ""
      · simp [Roster.edit, add, RosterEdit.onLines, RosterEdit.answerOn, h]
      · simp [Roster.edit, add_ofLines name maxQuantity h, RosterEdit.onLines,
          RosterEdit.answerOn, h]
  | addItem item =>
      simp [Roster.edit, addItem, add_ofLines _ _ (Text.Numeral.text_ne_empty _),
        RosterEdit.onLines, RosterEdit.answerOn]
  | remove id =>
      rw [Roster.edit, RosterEdit.onLines, RosterEdit.answerOn]
      by_cases h : RosterLine.HasPlace lines id
      · obtain ⟨place, rfl⟩ := Nat.exists_eq_add_of_le' h.1
        have hLt : place < lines.length := h.2
        rw [remove_ofLines hLt, if_pos h, if_pos h, Nat.add_sub_cancel,
          List.getElem?_eq_getElem hLt]
        rfl
      · rw [remove_ofLines_eq_self h, if_neg h, if_neg h]
  | setQuantity id quantity =>
      rw [Roster.edit, RosterEdit.onLines, RosterEdit.answerOn]
      by_cases h : RosterLine.HasPlace lines id
      · obtain ⟨place, rfl⟩ := Nat.exists_eq_add_of_le' h.1
        have hLt : place < lines.length := h.2
        rw [setQuantity_ofLines quantity hLt, if_pos h, decide_eq_true h, Nat.add_sub_cancel]
      · rw [setQuantity_ofLines_eq_self quantity h, if_neg h, decide_eq_false h]

theorem editAll_ofLines (edits : List RosterEdit) :
    (ofLines kind lines).editAll edits =
      ofLines kind (edits.foldl (fun lines edit => edit.onLines lines) lines) := by
  induction edits generalizing lines with
  | nil => rfl
  | cons edit rest ih =>
      rw [editAll, List.foldl_cons, edit_ofLines]
      exact ih

/-- The line at a place is the one that a search for its number finds. -/
theorem get?_ofLines (id : Nat) :
    (ofLines kind lines).get? id =
      (ofLines kind lines).entries.find? fun e => e.presentationId = id := by
  rw [← remove_snd, get?]
  by_cases h : RosterLine.HasPlace lines id
  · obtain ⟨place, rfl⟩ := Nat.exists_eq_add_of_le' h.1
    have hLt : place < lines.length := h.2
    rw [if_neg (Nat.succ_ne_zero place), remove_ofLines hLt, ofLines, getElem?_numberFrom,
      Nat.add_sub_cancel, List.getElem?_eq_getElem hLt, Nat.add_comm 1]
    rfl
  · rw [remove_ofLines_eq_self h, ofLines, getElem?_numberFrom]
    cases id with
    | zero => rfl
    | succ place =>
        rw [Nat.add_sub_cancel, RosterLine.getElem?_of_not_hasPlace h]
        rfl

/-- Whatever edits are made to an empty roster, its entries are numbered from one without gaps, and
without their numbers they are what the edits make of a plain list. Whatever edit comes next answers
what it answers about that list. The entry at a place is the one that a search for its number finds,
which is the entry removed or changed; every entry behind a removed one has a number beyond one, so
moving up leaves it a number. -/
theorem editAll_refines_lines (kind : RosterKind) (edits : List RosterEdit) :
    let r := (Roster.mk kind []).editAll edits
    let lines := RosterEdit.linesOf edits
    r.kind = kind ∧
      r.entries.map RosterEntry.presentationId = List.range' 1 lines.length ∧
      r.entries.map RosterEntry.line = lines ∧
      (∀ edit, (r.edit edit).2 = edit.answerOn lines) ∧
      (∀ id, (r.get? id = r.entries.find? fun e => e.presentationId = id) ∧
        (r.remove id).2 = r.get? id ∧
        ∀ quantity, (r.setQuantity id quantity).2 = (r.get? id).isSome) ∧
      ∀ id, ∀ later ∈ r.entries.drop id, id < later.presentationId := by
  intro r lines
  have hRoster : r = ofLines kind lines := @editAll_ofLines kind [] edits
  rw [hRoster]
  refine ⟨rfl, map_presentationId_numberFrom 1 lines, map_line_numberFrom 1 lines, ?_, ?_, ?_⟩
  · intro edit
    rw [edit_ofLines]
  · intro id
    rw [remove_snd]
    refine ⟨get?_ofLines id, (get?_ofLines id).symm, fun quantity => ?_⟩
    rw [setQuantity_snd, get?_ofLines]
  · intro id later hLater
    obtain ⟨place, hPlace⟩ := List.mem_iff_getElem?.mp hLater
    rw [List.getElem?_drop, ofLines, getElem?_numberFrom] at hPlace
    obtain ⟨l, -, rfl⟩ := Option.map_eq_some_iff.mp hPlace
    rw [RosterLine.presentationId_numbered]
    omega

/-- An item without an id, one that is not available, a removal in front of other lines and edits of
lines that are not there. -/
def sampleLineEdits : List RosterEdit :=
  [.add "ruler" "30cm ruler" 10, .add "" "Nameless" 5, .add "beaker" "250ml beaker" 20,
    .addItem { id := 12, name := "Oscilloscope", quantity := 4, available := false }, .remove 1,
    .setQuantity 2 3, .remove 0, .setQuantity 9 7]

theorem editAll_refines_lines_after_removal :
    let r := (Roster.mk .core []).editAll sampleLineEdits
    r.entries = [⟨1, "beaker", "250ml beaker", 1, 20⟩, ⟨2, "12", "Oscilloscope", 3, 0⟩] ∧
      (r.remove 2).2 = r.get? 2 ∧
      ∀ later ∈ r.entries.drop 1, 1 < later.presentationId := by
  have hRefines := editAll_refines_lines .core sampleLineEdits
  obtain ⟨-, -, -, -, hFind, hBehind⟩ := hRefines
  exact ⟨rfl, (hFind 2).2.1, hBehind 1⟩

end Roster

end EquipmentBooking
