import EquipmentBooking.Roster.Rows
import EquipmentBooking.Proofs.Time.Resolution
import EquipmentBooking.Proofs.Workflow.Bounds

/-! What a form is told to be wrong with it, and that an idle workflow begins an attempt unless there is
something. Each line that asks for too much is named as its row and its part of the query name it. -/
namespace EquipmentBooking

/-- The lines of a roster that ask for more than there is, in order, each with its place. -/
def Roster.overdrawn (r : Roster) : List (RosterEntry × Nat) :=
  r.entries.zipIdx.filter fun (e, _) => e.maxQuantity < e.quantity

/-- A message about one line of a roster. Its field is the name of the input in the line's row, and the
key of the line's quantity in whatever query is built from the roster. -/
structure FieldError.IsAbout (error : FieldError) (roster : Roster) (line : RosterEntry × Nat) :
    Prop where
  row : ∃ row, roster.rows[line.2]? = some row ∧ row.presentationId = line.1.presentationId ∧
    error.field = row.inputName
  item : ∀ time query, ClashQuery.build time roster.kind roster.entries = .ok (.ok query) →
    ∃ item, query.items[line.2]? = some item ∧ item.itemId = line.1.itemId ∧ error.field = item.key
  message_eq : error.message = Text.Numeral.text line.1.quantity.toNat ++
    " requested but only " ++ Text.Numeral.text line.1.maxQuantity.toNat ++ " available"

/-- Whether typed time fields keep clear of the days before the first Monday of the calendar. -/
def TypedTime.IsClear (t : TypedTime) : Prop :=
  ∀ given, Calendar.readDate (content t.weekCommencing).toList = .ok given → Date.firstMonday ≤ given

def BookingForm.NamesPlace (form : BookingForm) : Prop :=
  ∃ text, form.location = some text ∧ ¬ Text.IsBlankText text

/-- All that is wrong with a form, in order: the location unless it names a place, the time unless one
resolves, and one message for each line that asks for too much. -/
structure BookingForm.Lists (form : BookingForm) (roster : Roster)
    (place time lines : List FieldError) : Prop where
  place : form.NamesPlace ∧ place = [] ∨
    ¬ form.NamesPlace ∧ place = [⟨"location", "a location is required"⟩]
  time : (∃ booked, form.time.resolve = .ok (.ok booked)) ∧ time = [] ∨
    ∃ issue, form.time.resolve = .ok (.error issue) ∧ time = [⟨"time", issue.message⟩]
  lines : List.Forall₂ (fun line error => error.IsAbout roster line) roster.overdrawn lines

theorem forall₂_filterMap {α β : Type} {R : α → β → Prop} {f : α → Option β} {l : List α}
    (h : ∀ a ∈ l, ∀ b, f a = some b → R a b) :
    List.Forall₂ R (l.filter fun a => (f a).isSome) (l.filterMap f) := by
  induction l with
  | nil => exact .nil
  | cons a l ih =>
      rw [List.forall_mem_cons] at h
      cases hSome : f a with
      | none => simpa [hSome] using ih h.2
      | some b => simpa [hSome] using List.Forall₂.cons (h.1 b hSome) (ih h.2)

section Lines

variable {roster : Roster} {e : RosterEntry} {place : Nat}

theorem Roster.rows_getElem? (h : roster.entries[place]? = some e) :
    roster.rows[place]? = some (RosterRow.ofEntry roster.kind e) := by
  rw [rows, List.getElem?_map, h, Option.map_some]

theorem ClashQuery.items_getElem? {time : TypedTime} {query : ClashQuery}
    (hBuild : build time roster.kind roster.entries = .ok (.ok query))
    (h : roster.entries[place]? = some e) :
    query.items[place]? = some (QuantityParam.ofEntry roster.kind e) := by
  rw [(build_eq_ok_iff.mp hBuild).2, List.getElem?_map, h, Option.map_some]

/-- The rows, the query and the form name the quantity of a line alike. -/
theorem BookingForm.isAbout_of_quantityError? {error : FieldError}
    (hPlace : roster.entries[place]? = some e) (h : quantityError? roster.kind e = some error) :
    error.IsAbout roster (e, place) := by
  rw [quantityError?] at h
  split at h
  · cases h
    exact {
      row := ⟨_, Roster.rows_getElem? hPlace, rfl, rfl⟩
      item := fun time query hBuild => ⟨_, ClashQuery.items_getElem? hBuild hPlace, rfl, rfl⟩
      message_eq := rfl }
  · cases h

theorem BookingForm.isSome_quantityError? (kind : RosterKind) (e : RosterEntry) :
    (quantityError? kind e).isSome = decide (e.maxQuantity < e.quantity) := by
  rw [quantityError?]
  split <;> simp [*]

/-- There is one message for each of the lines that ask for too much. -/
theorem BookingForm.forall₂_overdrawn (roster : Roster) :
    List.Forall₂ (fun line error => FieldError.IsAbout error roster line) roster.overdrawn
      (roster.entries.filterMap (quantityError? roster.kind)) := by
  have hEntries : roster.entries.filterMap (quantityError? roster.kind) =
      roster.entries.zipIdx.filterMap fun line => quantityError? roster.kind line.1 := by
    conv_lhs => rw [← List.zipIdx_map_fst 0 roster.entries, List.filterMap_map]
    rfl
  have hLines := forall₂_filterMap (R := fun line error => FieldError.IsAbout error roster line)
    (f := fun line => quantityError? roster.kind line.1) (l := roster.entries.zipIdx)
    fun line hLine error hError =>
      isAbout_of_quantityError? (List.mem_zipIdx_iff_getElem?.mp hLine) hError
  rw [hEntries, Roster.overdrawn]
  simpa only [isSome_quantityError?] using hLines

end Lines

/-- What is wrong with a form is told completely and in order, if there is an answer at all. -/
theorem BookingForm.lists_of_problems {form : BookingForm} {roster : Roster}
    {errors : List FieldError} (h : form.problems roster = .ok errors) :
    ∃ place time lines, form.Lists roster place time lines ∧ errors = place ++ time ++ lines := by
  obtain ⟨resolved, hResolve, rfl⟩ := map_eq_ok.mp h
  refine ⟨_, _, _, ⟨?_, ?_, forall₂_overdrawn roster⟩, rfl⟩
  · by_cases hPlace : form.NamesPlace
    · exact .inl ⟨hPlace, (locationErrors_eq_nil_iff form).mpr hPlace⟩
    · refine .inr ⟨hPlace, ?_⟩
      have hSome := mt (locationErrors_eq_nil_iff form).mp hPlace
      rw [locationErrors] at hSome ⊢
      split at hSome
      · exact absurd rfl hSome
      · next hAbsent => rw [if_neg hAbsent]
  · cases resolved with
    | error issue => exact .inr ⟨issue, hResolve, rfl⟩
    | ok booked => exact .inl ⟨⟨booked, hResolve⟩, rfl⟩

theorem BookingForm.exists_problems {form : BookingForm} (h : form.time.IsClear) (roster : Roster) :
    ∃ errors, form.problems roster = .ok errors := by
  obtain ⟨resolved, hResolve⟩ := TypedTime.exists_resolve_of_clear h
  exact ⟨_, map_eq_ok.mpr ⟨resolved, hResolve, rfl⟩⟩

/-- Any form is told all that is wrong with it and any roster, as long as its time fields keep clear of
the beginning of the calendar. An idle workflow, however it became so, begins an attempt if that is
nothing, with the query of the form, and otherwise answers with just that. In no case does it get as far
as to find that there is no query. -/
theorem validation_decides_beginning :
    (∀ (form : BookingForm) (roster : Roster), form.time.IsClear →
      ∃ errors, form.problems roster = .ok errors ∧
        ∃ place time lines, form.Lists roster place time lines ∧ errors = place ++ time ++ lines) ∧
      ∀ (w : Workflow) (form : BookingForm) (target : SubmitTarget),
        w.state.phase = .idle → form.time.IsClear →
        ∃ errors step, form.problems w.roster = .ok errors ∧ w.begin form target = .ok step ∧
          ((∃ pending, step.answer = .ok pending) ↔ errors = []) ∧
          (errors ≠ [] → step.answer = .error (.validation errors)) ∧
          (errors = [] → ∃ query,
            ClashQuery.build form.time w.roster.kind w.roster.entries = .ok (.ok query) ∧
              step.answer = .ok ⟨⟨w.nextAttempt⟩, query, w.bound⟩) := by
  constructor
  · intro form roster hClear
    obtain ⟨errors, hProblems⟩ := BookingForm.exists_problems hClear roster
    exact ⟨errors, hProblems, BookingForm.lists_of_problems hProblems⟩
  · intro w form target hIdle hClear
    obtain ⟨errors, hProblems⟩ := BookingForm.exists_problems hClear w.roster
    by_cases hErrors : errors = []
    · subst hErrors
      obtain ⟨query, hBuild, hBegin⟩ := Workflow.begin_of_valid target hIdle hProblems
      exact ⟨[], _, hProblems, hBegin, iff_of_true ⟨_, rfl⟩ rfl, absurd rfl,
        fun _ => ⟨query, hBuild, rfl⟩⟩
    · have hBegin : w.begin form target = _ := Workflow.begin_of_problems hIdle hProblems hErrors
      refine ⟨errors, _, hProblems, hBegin, iff_of_false ?_ hErrors, fun _ => rfl,
        fun hNone => absurd hNone hErrors⟩
      rintro ⟨pending, hAnswer⟩
      cases hAnswer

def overdrawnRoster : Roster where
  entries := [⟨1, "ruler", "30cm ruler", 3, 10⟩, ⟨2, "scope", "Oscilloscope", 5, 4⟩]

/-- A form with nothing but blanks in its location, and with a slot on a day that no week has. -/
def hopelessForm : BookingForm where
  action := "/book/5/submit"
  location := some " \t"
  time := .ofSlot "2024-03-13" "someday" "09:00" "10:00"

def givenUp : List Intent :=
  [.edit (.setQuantity 2 4),
    .begin (.ofActivity 5 (.ofWindow "2024-03-12" "09:15" "10:00") "Lab 3") ⟨"first"⟩, .cancel,
    .edit (.setQuantity 2 5)]

/-- The workflow is idle again, and has nothing to object but the three things that are wrong. -/
theorem validation_decides_beginning_of_hopeless_form :
    ∃ past now, (Workflow.fresh overdrawnRoster none).performAll?
        givenUp = some (past, now) ∧
      now.state.phase = .idle ∧ hopelessForm.time.IsClear ∧
      ∃ step, now.begin hopelessForm ⟨"second"⟩ = .ok step ∧
        step.answer = .error (.validation
          [⟨"location", "a location is required"⟩,
            ⟨"time", (TimeIssue.unknownDay "someday").message⟩,
            ⟨"eqty_scope", "5 requested but only 4 available"⟩]) := by
  have hGiven : Calendar.readDate (TypedTime.content hopelessForm.time.weekCommencing).toList =
      .ok ((Date.of? 2024 3 13).get rfl) := rfl
  have hClear : hopelessForm.time.IsClear := by
    intro given hRead
    cases hGiven.symm.trans hRead
    exact .inl (.inl (by decide))
  obtain ⟨past, now, hRun, hIdle, hRoster⟩ : ∃ past now,
      (Workflow.fresh overdrawnRoster none).performAll? givenUp = some (past, now) ∧
        now.state.phase = .idle ∧ now.roster = overdrawnRoster := ⟨_, _, rfl, rfl, rfl⟩
  have hWrong : hopelessForm.problems overdrawnRoster = .ok
      [⟨"location", "a location is required"⟩, ⟨"time", (TimeIssue.unknownDay "someday").message⟩,
        ⟨"eqty_scope", "5 requested but only 4 available"⟩] := rfl
  obtain ⟨errors, step, hErrors, hBegin, -, hFails, -⟩ :=
    validation_decides_beginning.2 now hopelessForm ⟨"second"⟩ hIdle hClear
  rw [hRoster, hWrong, Except.ok.injEq] at hErrors
  subst hErrors
  exact ⟨past, now, hRun, hIdle, hClear, step, hBegin, hFails (List.cons_ne_nil _ _)⟩

end EquipmentBooking
