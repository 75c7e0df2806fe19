import EquipmentBooking.Json.Record
import EquipmentBooking.Proofs.Json.ValueExtent

namespace EquipmentBooking.Json

section Members

variable {m : Member} {members : List Member} {name : String} {s rest : Bytes}

/-- A value fills the first member if it has the name and is open still, and else one of the others. -/
theorem fill_cons_eq_ok_iff {found : Option m.kind.Carrier} {more : Filling members}
    {filled : Filling (m :: members)} :
    Filling.fill name (m :: members) (found, more) s = some (.ok (filled, rest)) ↔
      (m.name = name ∧ found = none) ∧ (∃ value, filled = (some value, more) ∧
        ∃ after, readColon s = .ok after ∧ m.kind.read after = .ok (value, rest)) ∨
      m.name ≠ name ∧ ∃ later, filled = (found, later) ∧
        Filling.fill name members more s = some (.ok (later, rest)) := by
  rw [Filling.fill]
  split
  · next hName =>
    simp only [hName, ne_eq, not_true_eq_false, false_and, or_false, true_and, Option.some.injEq]
    cases found with
    | some value => simp
    | none =>
        simp only [Option.isSome_none, Bool.false_eq_true, ↓reduceIte, bind_eq_ok, true_and,
          Prod.exists, Except.ok.injEq, Prod.mk.injEq]
        constructor
        · rintro ⟨after, hColon, value, behind, hValue, rfl, rfl⟩
          exact ⟨value, rfl, after, hColon, hValue⟩
        · rintro ⟨value, rfl, after, hColon, hValue⟩
          exact ⟨after, hColon, value, rest, hValue, rfl, rfl⟩
  · next hOther =>
    simp only [hOther, ne_eq, not_false_eq_true, false_and, false_or, true_and,
      Option.map_eq_some_iff, map_eq_ok, Prod.exists, Prod.mk.injEq]
    constructor
    · rintro ⟨_, hFill, later, behind, rfl, rfl, rfl⟩
      exact ⟨later, rfl, hFill⟩
    · rintro ⟨later, rfl, hFill⟩
      exact ⟨_, hFill, later, rest, rfl, rfl, rfl⟩

/-- Which members there are decides whether a member is passed over. -/
theorem fill_eq_none_iff {filling : Filling members} :
    Filling.fill name members filling s = none ↔ ∀ m ∈ members, m.name ≠ name := by
  induction members with
  | nil => simp [Filling.fill]
  | cons m members ih =>
      obtain ⟨found, more⟩ := filling
      rw [Filling.fill, List.forall_mem_cons]
      split
      · next hName => simp [hName]
      · next hOther => rw [Option.map_eq_none_iff, ih]; simp [hOther]

theorem local_fill (name : String) (members : List Member) (filling filled : Filling members) :
    Local fun s rest => Filling.fill name members filling s = some (.ok (filled, rest)) := by
  induction members with
  | nil => exact fun _ _ h => nomatch h
  | cons m members ih =>
      obtain ⟨found, more⟩ := filling
      refine .congr (fun s rest => fill_cons_eq_ok_iff) (.or ?_ ?_)
      · refine .and_left _ (.exists fun value => .and_left _ ?_)
        exact closed_readColon.toLocal.comp (local_readScalar m.kind value)
      · exact .and_left _ (.exists fun later => .and_left _ (ih more later))

/-- A member is taken into the values found, or passed over if no member of the record has its name. -/
theorem readMember_eq_ok_iff {filling filled : Filling members} :
    readMember members filling s = .ok (filled, rest) ↔
      ∃ name after, readText s = .ok (name, after) ∧
        (Filling.fill name members filling after = some (.ok (filled, rest)) ∨
          ((∀ m ∈ members, m.name ≠ name) ∧ filled = filling) ∧
            ∃ value, readColon after = .ok value ∧ skipValue value = .ok rest) := by
  simp only [readMember, bind_eq_ok, Prod.exists]
  refine exists_congr fun name => exists_congr fun after => and_congr_right fun _ => ?_
  split
  · next read hFill =>
    have hSome : Filling.fill name members filling after ≠ none := by
      rw [hFill]
      nofun
    have hKnown := mt fill_eq_none_iff.mpr hSome
    simp [hFill, hKnown]
  · next hFill =>
    have hUnknown := fill_eq_none_iff.mp hFill
    simp only [bind_eq_ok, Except.ok.injEq, Prod.mk.injEq, hFill, reduceCtorEq, false_or]
    constructor
    · rintro ⟨value, hColon, behind, hSkip, rfl, rfl⟩
      exact ⟨⟨hUnknown, rfl⟩, value, hColon, hSkip⟩
    · rintro ⟨⟨-, rfl⟩, value, hColon, hSkip⟩
      exact ⟨value, hColon, rest, hSkip, rfl, rfl⟩

theorem local_readMember (filling filled : Filling members) :
    Local fun s rest => readMember members filling s = .ok (filled, rest) := by
  simp only [readMember_eq_ok_iff]
  refine .exists fun name => (closed_readText name).toLocal.comp ?_
  exact (local_fill name members filling filled).or
    (.and_left _ (closed_readColon.toLocal.comp local_skipValue))

def NextName (first : Bool) (s name : Bytes) : Prop :=
  if first then skipSpace s = byte '"' :: name
  else ∃ after, skipSpace s = byte ',' :: after ∧ skipSpace after = byte '"' :: name

theorem closed_nextName (first : Bool) : Closed (NextName first) := by
  cases first with
  | true => exact closed_skipSpace _
  | false => exact (closed_skipSpace _).comp (closed_skipSpace _)

/-- Between two members there is a comma, but none in front of the first one or behind the last one. -/
theorem onName_eq_ok_iff {α : Type} {first : Bool} {finish next : Bytes → Except Issue α} {a : α} :
    ((match skipSpace s with
      | [] => .error .eofObject
      | b :: after =>
        if b = byte '\x7d' then finish after
        else if first then if b = byte '"' then next after else .error .keyNotText
        else if b = byte ',' then
          match skipSpace after with
          | [] => .error .eofValue
          | c :: name =>
            if c = byte '"' then next name
            else if c = byte '\x7d' then .error .trailingComma
            else .error .keyNotText
        else .error .objectGoesOn : Except Issue α) = .ok a) ↔
      (∃ after, skipSpace s = byte '\x7d' :: after ∧ finish after = .ok a) ∨
        ∃ name, NextName first s name ∧ next name = .ok a := by
  refine onFirst_eq_ok_iff.trans ⟨?_, ?_⟩
  · rintro ⟨b, after, hSpace, hRead⟩
    split at hRead
    · next hClose =>
      subst hClose
      exact .inl ⟨after, hSpace, hRead⟩
    · split at hRead
      · next hFirst =>
        subst hFirst
        obtain ⟨rfl, hNext⟩ := ite_eq_ok_iff.mp hRead
        exact .inr ⟨after, hSpace, hNext⟩
      · next hLater =>
        obtain rfl : first = false := Bool.eq_false_iff.mpr hLater
        obtain ⟨rfl, hRead⟩ := ite_eq_ok_iff.mp hRead
        obtain ⟨c, name, hName, hRead⟩ := onFirst_eq_ok_iff.mp hRead
        split at hRead
        · next hQuote =>
          subst hQuote
          exact .inr ⟨name, ⟨after, hSpace, hName⟩, hRead⟩
        · split at hRead <;> cases hRead
  · rintro (⟨after, hSpace, hFinish⟩ | ⟨name, hName, hNext⟩)
    · refine ⟨_, after, hSpace, ?_⟩
      rw [if_pos rfl]
      exact hFinish
    · cases first with
      | true =>
          refine ⟨byte '"', name, hName, ?_⟩
          rw [if_neg (by decide), if_pos rfl, if_pos rfl]
          exact hNext
      | false =>
          obtain ⟨after, hSpace, hName⟩ := hName
          refine ⟨byte ',', after, hSpace, ?_⟩
          rw [if_neg (by decide), if_neg Bool.false_ne_true, if_pos rfl]
          refine onFirst_eq_ok_iff.mpr ⟨byte '"', name, hName, ?_⟩
          rw [if_pos rfl]
          exact hNext

/-- An object is over with all its values found, or has a member in front of the others. -/
theorem readMembersWithin_eq_ok_iff {fuel : Nat} {first : Bool} {filling : Filling members}
    {row : Row members} :
    readMembersWithin members (fuel + 1) first filling s = .ok (row, rest) ↔
      (Filling.finish members filling = .ok row ∧ skipSpace s = byte '\x7d' :: rest) ∨
        ∃ filled name, NextName first s name ∧
          ∃ after, readMember members filling name = .ok (filled, after) ∧
            readMembersWithin members fuel false filled after = .ok (row, rest) := by
  rw [readMembersWithin]
  refine onName_eq_ok_iff.trans (or_congr ?_ ?_)
  · simp only [bind_eq_ok, Except.ok.injEq, Prod.mk.injEq]
    constructor
    · rintro ⟨after, hSpace, _, hFinish, rfl, rfl⟩
      exact ⟨hFinish, hSpace⟩
    · rintro ⟨hFinish, hSpace⟩
      exact ⟨rest, hSpace, row, hFinish, rfl, rfl⟩
  · simp only [bind_eq_ok, Prod.exists]
    constructor
    · rintro ⟨name, hName, filled, after, hMember, hMore⟩
      exact ⟨filled, name, hName, after, hMember, hMore⟩
    · rintro ⟨filled, name, hName, after, hMember, hMore⟩
      exact ⟨name, hName, filled, after, hMember, hMore⟩

theorem closed_readMembersWithin (fuel : Nat) (first : Bool) (filling : Filling members)
    (row : Row members) :
    Closed fun s rest => readMembersWithin members fuel first filling s = .ok (row, rest) := by
  induction fuel generalizing first filling with
  | zero => exact fun _ _ h => nomatch h
  | succ fuel ih =>
      refine .congr (fun s rest => readMembersWithin_eq_ok_iff) (.or ?_ ?_)
      · exact .and_left _ (closed_skipSpace _)
      · refine .exists fun filled => (closed_nextName first).comp ?_
        exact (local_readMember filling filled).comp_closed (ih false filled)

/-- Every member takes a byte, so as much fuel as there are bytes is enough. -/
theorem readMembersWithin_of_le {fuel more : Nat} {first : Bool} {filling : Filling members}
    {row : Row members} (h : readMembersWithin members fuel first filling s = .ok (row, rest))
    (hMore : s.length ≤ more + rest.length) :
    readMembersWithin members more first filling s = .ok (row, rest) := by
  induction fuel generalizing more first filling s with
  | zero => cases h
  | succ fuel ih =>
      have hSpent := (closed_readMembersWithin _ first filling row).length_le h
      obtain ⟨more, rfl⟩ : ∃ n, more = n + 1 := ⟨more - 1, by omega⟩
      rw [readMembersWithin_eq_ok_iff] at h ⊢
      rcases h with hEnd | ⟨filled, start, hStart, after, hMember, hAfter⟩
      · exact .inl hEnd
      · have hName := (closed_nextName first).length_le hStart
        have hLength := (local_readMember filling filled).length_le hMember
        exact .inr ⟨filled, start, hStart, after, hMember, ih hAfter (by omega)⟩

end Members

section Elements

variable {members : List Member} {shape : String} {read : Nat} {s rest : Bytes}

/-- Where the next element of a list starts, the blanks in front of it included. -/
def ElementAt (first : Bool) (s element : Bytes) : Prop :=
  if first then s = element else skipSpace s = byte ',' :: element

theorem local_elementAt (first : Bool) : Local (ElementAt first) := by
  cases first with
  | true => exact local_eq
  | false => exact (closed_skipSpace _).toLocal

theorem nextElement_eq_some_iff {first : Bool} {start : Bytes} :
    nextElement first s = .ok (some start) ↔
      ∃ element, ElementAt first s element ∧ skipSpace element = start ∧
        ∃ b, start.head? = some b ∧ b ≠ byte ']' := by
  rw [nextElement]
  refine onFirst_eq_ok_iff.trans ⟨?_, ?_⟩
  · rintro ⟨b, after, hSpace, hRead⟩
    split at hRead
    · cases hRead
    · next hOpen =>
      split at hRead
      · next hFirst =>
        cases hRead
        subst hFirst
        exact ⟨s, rfl, hSpace, b, rfl, hOpen⟩
      · next hLater =>
        obtain ⟨rfl, hRead⟩ := ite_eq_ok_iff.mp hRead
        obtain ⟨c, behind, hStart, hRead⟩ := onFirst_eq_ok_iff.mp hRead
        split at hRead
        · cases hRead
        · next hOther =>
          cases hRead
          obtain rfl : first = false := Bool.eq_false_iff.mpr hLater
          exact ⟨after, hSpace, hStart, c, rfl, hOther⟩
  · rintro ⟨element, hPlace, hStart, b, hHead, hOther⟩
    obtain ⟨behind, rfl⟩ := List.head?_eq_some_iff.mp hHead
    cases first with
    | true =>
        obtain rfl : s = element := hPlace
        refine ⟨b, behind, hStart, ?_⟩
        rw [if_neg hOther, if_pos rfl]
    | false =>
        refine ⟨byte ',', element, hPlace, ?_⟩
        rw [if_neg (by decide), if_neg Bool.false_ne_true, if_pos rfl]
        refine onFirst_eq_ok_iff.mpr ⟨b, behind, hStart, ?_⟩
        rw [if_neg hOther]

theorem nextElement_eq_none_iff {first : Bool} :
    nextElement first s = .ok none ↔ ∃ after, skipSpace s = byte ']' :: after := by
  rw [nextElement]
  refine onFirst_eq_ok_iff.trans ⟨?_, ?_⟩
  · rintro ⟨b, after, hSpace, hRead⟩
    split at hRead
    · next hClose => exact ⟨after, by rw [hSpace, hClose]⟩
    · split at hRead
      · cases hRead
      · obtain ⟨c, behind, -, hRead⟩ := onFirst_eq_ok_iff.mp (ite_eq_ok_iff.mp hRead).2
        split at hRead <;> cases hRead
  · rintro ⟨after, hSpace⟩
    exact ⟨_, after, hSpace, if_pos rfl⟩

theorem readListEnd_eq_ok_iff : readListEnd s = .ok rest ↔ skipSpace s = byte ']' :: rest := by
  rw [readListEnd]
  refine onFirst_eq_ok_iff.trans ⟨?_, fun h => ⟨_, rest, h, if_pos rfl⟩⟩
  rintro ⟨b, after, hSpace, hRead⟩
  split at hRead
  · next hClose =>
    cases hRead
    rw [hSpace, hClose]
  · split at hRead
    · split at hRead <;> cases hRead
    · cases hRead

theorem local_nextElement (first : Bool) :
    Local fun s start => nextElement first s = .ok (some start) := by
  intro s start h
  obtain ⟨element, hPlace, hStart, b, hHead, hOther⟩ := nextElement_eq_some_iff.mp h
  obtain ⟨used, hLeast, hSplit, hLater⟩ :=
    ((local_elementAt first).comp local_skipSpace) ⟨element, hPlace, hStart⟩
  refine ⟨used, hLeast, hSplit, fun later hSame => nextElement_eq_some_iff.mpr ?_⟩
  obtain ⟨element, hPlace, hStart⟩ := hLater later hSame
  exact ⟨element, hPlace, hStart, b, hSame.trans hHead, hOther⟩

/-- What a record has if its list ends before any of the members. -/
def cutOffRow? : (members : List Member) → Option (Row members)
  | [] => some ()
  | m :: members => m.cutOff.bind fun value => (cutOffRow? members).map fun row => (value, row)

/-- At the end of a list nothing more is read. -/
theorem readElements_at_end {row : Row members} {after : Bytes}
    (h : skipSpace s = byte ']' :: after) :
    readElements shape members read s = .ok (row, rest) ↔
      cutOffRow? members = some row ∧ s = rest := by
  have hNone (first : Bool) : nextElement first s = .ok none :=
    nextElement_eq_none_iff.mpr ⟨after, h⟩
  induction members generalizing read with
  | nil => simp [readElements, cutOffRow?]
  | cons m members ih =>
      obtain ⟨value, row⟩ := row
      rw [readElements, hNone, cutOffRow?]
      cases hCut : m.cutOff with
      | none => simp [bind, Except.bind]
      | some default =>
          simp only [bind_eq_ok, Except.ok.injEq, exists_eq_left', Prod.exists,
            Option.bind_some, Option.map_eq_some_iff, Prod.mk.injEq]
          constructor
          · rintro ⟨more, behind, hRead, ⟨rfl, rfl⟩, rfl⟩
            obtain ⟨hCutOff, rfl⟩ := ih.mp hRead
            exact ⟨⟨more, hCutOff, rfl, rfl⟩, rfl⟩
          · rintro ⟨⟨more, hCutOff, rfl, rfl⟩, rfl⟩
            exact ⟨more, s, ih.mpr ⟨hCutOff, rfl⟩, ⟨rfl, rfl⟩, rfl⟩

def ReadsElements (shape : String) (members : List Member) (read : Nat) (row : Row members)
    (s rest : Bytes) : Prop :=
  ∃ after, readElements shape members read s = .ok (row, after) ∧ readListEnd after = .ok rest

/-- A list may end in front of a member only where all members left have values for that. -/
theorem readsElements_cons_iff {m : Member} {value : m.kind.Carrier} {row : Row members} :
    ReadsElements shape (m :: members) read (value, row) s rest ↔
      (cutOffRow? (m :: members) = some (value, row) ∧ skipSpace s = byte ']' :: rest) ∨
        ∃ start, nextElement (read == 0) s = .ok (some start) ∧
          ∃ after, m.kind.read start = .ok (value, after) ∧
            ReadsElements shape members (read + 1) row after rest := by
  have hOpen (h : nextElement (read == 0) s ≠ .ok none) : skipSpace s ≠ byte ']' :: rest :=
    fun hEnd => h (nextElement_eq_none_iff.mpr ⟨rest, hEnd⟩)
  cases hNext : nextElement (read == 0) s with
  | error issue =>
      rw [hNext] at hOpen
      constructor
      · rintro ⟨after, hRead, -⟩
        rw [readElements, hNext] at hRead
        cases hRead
      · rintro (⟨-, hEnd⟩ | ⟨start, hStart, -⟩)
        · exact absurd hEnd (hOpen nofun)
        · cases hStart
  | ok place =>
      cases place with
      | none =>
          obtain ⟨after, hEnd⟩ := nextElement_eq_none_iff.mp hNext
          simp only [ReadsElements, readElements_at_end hEnd, readListEnd_eq_ok_iff]
          simp
      | some start =>
          rw [hNext] at hOpen
          constructor
          · rintro ⟨after, hRead, hEnd⟩
            rw [readElements, hNext] at hRead
            simp only [bind_eq_ok, Except.ok.injEq, exists_eq_left', Prod.exists,
              Prod.mk.injEq] at hRead
            obtain ⟨_, behind, hValue, _, _, hMore, ⟨rfl, rfl⟩, rfl⟩ := hRead
            exact .inr ⟨start, rfl, behind, hValue, _, hMore, hEnd⟩
          · rintro (⟨-, hEnd⟩ | ⟨_, hStart, behind, hValue, after, hMore, hEnd⟩)
            · exact absurd hEnd (hOpen nofun)
            · cases hStart
              refine ⟨after, ?_, hEnd⟩
              rw [readElements, hNext]
              simp only [bind_eq_ok, Except.ok.injEq, exists_eq_left', Prod.exists, Prod.mk.injEq]
              exact ⟨value, behind, hValue, row, after, hMore, ⟨rfl, rfl⟩, rfl⟩

theorem closed_readsElements (shape : String) (members : List Member) (read : Nat)
    (row : Row members) : Closed (ReadsElements shape members read row) := by
  induction members generalizing read with
  | nil =>
      refine .congr (fun s rest => ?_) (closed_skipSpace (byte ']'))
      simp [ReadsElements, readElements, readListEnd_eq_ok_iff]
  | cons m members ih =>
      obtain ⟨value, row⟩ := row
      refine .congr (fun s rest => readsElements_cons_iff) (.or ?_ ?_)
      · exact .and_left _ (closed_skipSpace _)
      · exact (local_nextElement _).comp_closed
          ((local_readScalar m.kind value).comp_closed (ih (read + 1) row))

end Elements

section Records

variable {f : RecordFormat} {row : Row f.members} {s rest : Bytes}

/-- What the elements of a list stand for is told to whoever counts them. -/
def RecordFormat.shape (f : RecordFormat) : String :=
  f.expected ++ " with " ++ Text.Numeral.text f.members.length ++ " elements"

/-- The first byte decides between the two forms of a record. -/
theorem RecordFormat.read_eq_ok_iff :
    f.read s = .ok (row, rest) ↔
      ∃ b after, skipSpace s = b :: after ∧
        (b = byte '[' ∧ ReadsElements f.shape f.members 0 row after rest ∨
          b = byte '\x7b' ∧ readMembersWithin f.members (after.length + 1) true
            (Filling.empty f.members) after = .ok (row, rest)) := by
  rw [read]
  refine onFirst_eq_ok_iff.trans ?_
  refine exists_congr fun b => exists_congr fun after => and_congr_right fun _ => ?_
  split
  · next hList =>
    subst hList
    simp only [bind_eq_ok, Prod.exists, Except.ok.injEq, Prod.mk.injEq]
    constructor
    · rintro ⟨_, behind, hElements, _, hEnd, rfl, rfl⟩
      exact .inl ⟨trivial, behind, hElements, hEnd⟩
    · rintro (⟨-, behind, hElements, hEnd⟩ | ⟨hObject, -⟩)
      · exact ⟨row, behind, hElements, rest, hEnd, rfl, rfl⟩
      · exact absurd hObject (by decide)
  · next hOther =>
    rw [ite_eq_ok_iff]
    constructor
    · exact .inr
    · rintro (⟨hList, -⟩ | hObject)
      · exact absurd hList hOther
      · exact hObject

theorem closed_readMembers (members : List Member) (filling : Filling members) (row : Row members) :
    Closed fun s rest =>
      readMembersWithin members (s.length + 1) true filling s = .ok (row, rest) := by
  intro s rest h
  obtain ⟨used, hSome, rfl, hLater⟩ := closed_readMembersWithin _ true filling row h
  refine ⟨used, hSome, rfl, fun later _ => readMembersWithin_of_le (hLater later trivial) ?_⟩
  omega

theorem RecordFormat.closed_read (f : RecordFormat) (row : Row f.members) :
    Closed fun s rest => f.read s = .ok (row, rest) := by
  refine .congr (fun s rest => RecordFormat.read_eq_ok_iff) (Closed.onFirst fun b => .or ?_ ?_)
  · exact (closed_readsElements f.shape f.members 0 row).and_left _
  · exact (closed_readMembers f.members (Filling.empty f.members) row).and_left _

end Records

end EquipmentBooking.Json
