import EquipmentBooking.Proofs.Json.Listing
import EquipmentBooking.Proofs.Json.Reading
import Mathlib.Data.List.Forall2

/-! Where records belong, what is read from a text of a value is what the value means. The members of an
object come in any order, so what is said of the ones to come depends on the values found so far. -/
namespace EquipmentBooking.Json

namespace Filling

variable {members : List Member} {m : Member} {name : String} {v : Value}
  {pairs : List (String × Value)}

/-- What taking in a member with a value makes of the values found. -/
def Takes (name : String) (v : Value) : (members : List Member) → Filling members →
    Filling members → Prop
  | [], _, _ => False
  | m :: rest, (found, more), (now, later) =>
    if m.name = name then (found = none ∧ ∃ x, now = some x ∧ m.kind.Means x v) ∧ later = more
    else now = found ∧ Takes name v rest more later

/-- The values to come with the name of a member complete what is found of it. -/
def MemberCompletes (m : Member) (x : m.kind.Carrier) : Option m.kind.Carrier → List Value → Prop
  | none, values => m.Means x values
  | some y, values => y = x ∧ values = []

/-- The members to come complete the values found to a row. -/
def Completes : (members : List Member) → Filling members → List (String × Value) → Row members →
    Prop
  | [], _, _, _ => True
  | m :: rest, (found, more), pairs, (x, row) =>
    MemberCompletes m x found (valuesOf m.name pairs) ∧ Completes rest more pairs row

theorem valuesOf_cons_self (name : String) (v : Value) (pairs : List (String × Value)) :
    valuesOf name ((name, v) :: pairs) = v :: valuesOf name pairs := by
  simp [valuesOf]

theorem valuesOf_cons_of_ne {other : String} (h : other ≠ name) (v : Value)
    (pairs : List (String × Value)) :
    valuesOf name ((other, v) :: pairs) = valuesOf name pairs := by
  simp [valuesOf, h]

theorem completes_nil_iff {filling : Filling members} {row : Row members} :
    Completes members filling [] row ↔ finish members filling = .ok row := by
  induction members with
  | nil => simp [Completes, finish]
  | cons m members ih =>
      obtain ⟨found, more⟩ := filling
      obtain ⟨x, row⟩ := row
      rw [Completes, ih, finish]
      cases found with
      | none =>
          simp only [valuesOf, List.filter_nil, List.map_nil, MemberCompletes, Member.Means]
          cases hDefault : m.unmentioned with
          | none => simp
          | some y => simp [bind_eq_ok, and_comm]
      | some y => simp [bind_eq_ok, valuesOf, MemberCompletes, and_comm]

/-- Members of other names do not count. -/
theorem completes_cons_of_unknown (h : ∀ m ∈ members, m.name ≠ name) {filling : Filling members}
    {row : Row members} :
    Completes members filling ((name, v) :: pairs) row ↔ Completes members filling pairs row := by
  induction members with
  | nil => exact Iff.rfl
  | cons m members ih =>
      rw [List.forall_mem_cons] at h
      obtain ⟨found, more⟩ := filling
      obtain ⟨x, row⟩ := row
      rw [Completes, Completes, ih h.2, valuesOf_cons_of_ne h.1.symm]

theorem member_means_cons_iff {x : m.kind.Carrier} {values : List Value} :
    m.Means x (v :: values) ↔ m.kind.Means x v ∧ values = [] := by
  cases values with
  | nil => exact (and_iff_left rfl).symm
  | cons w values => exact iff_of_false id nofun

/-- A member to come is taken in, or it is not known. -/
theorem completes_cons_iff (hNames : (members.map Member.name).Nodup) {filling : Filling members}
    {row : Row members} :
    Completes members filling ((name, v) :: pairs) row ↔
      ∃ filled, (Takes name v members filling filled ∨
        (∀ m ∈ members, m.name ≠ name) ∧ filled = filling) ∧ Completes members filled pairs row := by
  induction members with
  | nil => exact iff_of_true trivial ⟨filling, .inr ⟨List.forall_mem_nil _, rfl⟩, trivial⟩
  | cons m members ih =>
      obtain ⟨found, more⟩ := filling
      obtain ⟨x, row⟩ := row
      rw [List.map_cons, List.nodup_cons] at hNames
      by_cases hName : m.name = name
      · subst hName
        have hOther : ∀ other ∈ members, other.name ≠ m.name := fun other hMem hSame =>
          hNames.1 (hSame ▸ List.mem_map_of_mem hMem)
        rw [Completes, valuesOf_cons_self, completes_cons_of_unknown hOther]
        constructor
        · rintro ⟨hMember, hMore⟩
          cases found with
          | some y => cases hMember.2
          | none =>
              obtain ⟨hMeans, hValues⟩ := member_means_cons_iff.mp hMember
              refine ⟨(some x, more), .inl ?_, ⟨rfl, hValues⟩, hMore⟩
              rw [Takes, if_pos rfl]
              exact ⟨⟨rfl, x, rfl, hMeans⟩, rfl⟩
        · rintro ⟨⟨now, later⟩, hTakes | ⟨hUnknown, -⟩, hMember, hMore⟩
          · rw [Takes, if_pos rfl] at hTakes
            obtain ⟨⟨rfl, y, rfl, hMeans⟩, rfl⟩ := hTakes
            obtain ⟨rfl, hValues⟩ := hMember
            exact ⟨member_means_cons_iff.mpr ⟨hMeans, hValues⟩, hMore⟩
          · exact absurd rfl (hUnknown m List.mem_cons_self)
      · rw [Completes, valuesOf_cons_of_ne (Ne.symm hName), ih hNames.2]
        constructor
        · rintro ⟨hMember, later, hStep, hMore⟩
          refine ⟨(found, later), hStep.imp ?_ ?_, hMember, hMore⟩
          · intro hTakes
            rw [Takes, if_neg hName]
            exact ⟨rfl, hTakes⟩
          · rintro ⟨hUnknown, rfl⟩
            exact ⟨List.forall_mem_cons.mpr ⟨hName, hUnknown⟩, rfl⟩
        · rintro ⟨⟨now, later⟩, hTakes | ⟨hUnknown, hSame⟩, hMember, hMore⟩
          · rw [Takes, if_neg hName] at hTakes
            obtain ⟨rfl, hTakes⟩ := hTakes
            exact ⟨hMember, later, .inl hTakes, hMore⟩
          · cases hSame
            exact ⟨hMember, more, .inr ⟨(List.forall_mem_cons.mp hUnknown).2, rfl⟩, hMore⟩

theorem completes_empty_iff {row : Row members} :
    Completes members (empty members) pairs row ↔ Row.InObject members row pairs := by
  induction members with
  | nil => exact Iff.rfl
  | cons m members ih =>
      obtain ⟨x, row⟩ := row
      exact and_congr_right fun _ => ih

end Filling

section Objects

variable {members : List Member} {filling : Filling members} {name : String} {v : Value}
  {pairs : List (String × Value)} {first : Bool} {gap t front back s rest after : Bytes}

/-- The text of a value fills the members found as the value itself does. -/
theorem fill_of_spells (hFront : Blank front) (hBack : Blank back) (hValue : Spells v s)
    (hRest : StopsNumber rest) {filled : Filling members} :
    Filling.fill name members filling (front ++ byte ':' :: (back ++ (s ++ rest))) =
        some (.ok (filled, after)) ↔
      Filling.Takes name v members filling filled ∧ after = rest := by
  have hColon := readColon_append hFront (back ++ (s ++ rest))
  induction members with
  | nil => exact iff_of_false nofun fun h => h.1
  | cons m members ih =>
      obtain ⟨found, more⟩ := filling
      obtain ⟨now, later⟩ := filled
      rw [fill_cons_eq_ok_iff, Filling.Takes]
      split
      · next hName =>
        constructor
        · rintro (⟨⟨-, rfl⟩, x, hFilled, behind, hBehind, hRead⟩ | ⟨hOther, -⟩)
          · cases hFilled
            cases hColon.symm.trans hBehind
            obtain ⟨hMeans, rfl⟩ := (m.kind.read_of_spells hValue hBack hRest).mp hRead
            exact ⟨⟨⟨rfl, x, rfl, hMeans⟩, rfl⟩, rfl⟩
          · exact absurd hName hOther
        · rintro ⟨⟨⟨rfl, x, rfl, hMeans⟩, rfl⟩, hAfter⟩
          exact .inl ⟨⟨hName, rfl⟩, x, rfl, _, hColon,
            (m.kind.read_of_spells hValue hBack hRest).mpr ⟨hMeans, hAfter⟩⟩
      · next hOther =>
        constructor
        · rintro (⟨⟨hName, -⟩, -⟩ | ⟨-, more, hFilled, hFill⟩)
          · exact absurd hName hOther
          · cases hFilled
            obtain ⟨hTakes, hAfter⟩ := ih.mp hFill
            exact ⟨⟨rfl, hTakes⟩, hAfter⟩
        · rintro ⟨⟨rfl, hTakes⟩, hAfter⟩
          exact .inr ⟨hOther, later, rfl, ih.mpr ⟨hTakes, hAfter⟩⟩

theorem readMember_of_spells (hName : SpellsChars name.toList t) (hFront : Blank front)
    (hBack : Blank back) (hValue : Spells v s) (hRest : StopsNumber rest)
    {filled : Filling members} :
    readMember members filling
        (t ++ byte '"' :: (front ++ byte ':' :: (back ++ (s ++ rest)))) = .ok (filled, after) ↔
      (Filling.Takes name v members filling filled ∨
        (∀ m ∈ members, m.name ≠ name) ∧ filled = filling) ∧ after = rest := by
  have hColon := readColon_append hFront (back ++ (s ++ rest))
  rw [readMember_eq_ok_iff, or_and_right, ← fill_of_spells hFront hBack hValue hRest]
  constructor
  · rintro ⟨found, behind, hText, hFill | ⟨hUnknown, value, hBehind, hSkip⟩⟩
    · cases (readText_of_spells hName _).symm.trans hText
      exact .inl hFill
    · cases (readText_of_spells hName _).symm.trans hText
      cases hColon.symm.trans hBehind
      cases (skipValue_of_spells hValue hBack hRest).symm.trans hSkip
      exact .inr ⟨hUnknown, rfl⟩
  · rintro (hFill | ⟨hUnknown, rfl⟩)
    · exact ⟨name, _, readText_of_spells hName _, .inl hFill⟩
    · exact ⟨name, _, readText_of_spells hName _,
        .inr ⟨hUnknown, _, hColon, skipValue_of_spells hValue hBack hRest⟩⟩

/-- Behind a gap stands the name of a member, and not the end of the object. -/
theorem nextName_of_isGap (hGap : IsGap first gap) (rest after : Bytes) :
    skipSpace (gap ++ byte '"' :: rest) ≠ byte '\x7d' :: after ∧
      (NextName first (gap ++ byte '"' :: rest) after ↔ after = rest) := by
  cases first with
  | true =>
      have hSpace : skipSpace (gap ++ byte '"' :: rest) = byte '"' :: rest :=
        skipSpace_eq_cons_iff.mpr ⟨gap, hGap, by decide, rfl⟩
      refine ⟨fun hClose => ?_, fun hNext => ?_, fun hSame => ?_⟩
      · cases hSpace.symm.trans hClose
      · cases hSpace.symm.trans hNext
        rfl
      · subst hSame
        exact hSpace
  | false =>
      obtain ⟨front, back, hFront, hBack, rfl⟩ := hGap
      have hSpace : skipSpace (front ++ byte ',' :: back ++ byte '"' :: rest) =
          byte ',' :: (back ++ byte '"' :: rest) :=
        skipSpace_eq_cons_iff.mpr ⟨front, hFront, by decide, List.append_assoc _ _ _⟩
      have hName : skipSpace (back ++ byte '"' :: rest) = byte '"' :: rest :=
        skipSpace_eq_cons_iff.mpr ⟨back, hBack, by decide, rfl⟩
      refine ⟨fun hClose => ?_, ?_, fun hSame => ?_⟩
      · cases hSpace.symm.trans hClose
      · rintro ⟨behind, hComma, hNext⟩
        cases hSpace.symm.trans hComma
        cases hName.symm.trans hNext
        rfl
      · subst hSame
        exact ⟨_, hSpace, hName⟩

theorem not_nextName_of_close {blanks : Bytes} (hBlank : Blank blanks) (rest after : Bytes) :
    ¬ NextName first (blanks ++ byte '\x7d' :: rest) after := by
  have hSpace : skipSpace (blanks ++ byte '\x7d' :: rest) = byte '\x7d' :: rest :=
    skipSpace_eq_cons_iff.mpr ⟨blanks, hBlank, by decide, rfl⟩
  cases first with
  | true =>
      intro hNext
      cases hSpace.symm.trans hNext
  | false =>
      rintro ⟨behind, hComma, -⟩
      cases hSpace.symm.trans hComma

/-- From any member on, reading the members gives what completes the values found so far. -/
theorem readMembersWithin_of_spells (hNames : (members.map Member.name).Nodup)
    (h : SpellsMembers first pairs s) {fuel : Nat} (hFuel : pairs.length < fuel)
    {row : Row members} :
    readMembersWithin members fuel first filling (s ++ rest) = .ok (row, after) ↔
      Filling.Completes members filling pairs row ∧ after = rest := by
  induction pairs generalizing first filling fuel s with
  | nil =>
      obtain ⟨fuel, rfl⟩ : ∃ n, fuel = n + 1 := ⟨fuel - 1, by omega⟩
      cases h with
      | @close _ blanks hBlank =>
          rw [readMembersWithin_eq_ok_iff, Filling.completes_nil_iff, List.append_assoc,
            skipSpace_append hBlank, List.singleton_append, skipSpace_cons (by decide),
            List.cons.injEq, eq_comm (a := rest)]
          constructor
          · rintro (⟨hFinish, -, hAfter⟩ | ⟨-, start, hNext, -⟩)
            · exact ⟨hFinish, hAfter⟩
            · exact absurd hNext (not_nextName_of_close hBlank rest start)
          · rintro ⟨hFinish, hAfter⟩
            exact .inl ⟨hFinish, rfl, hAfter⟩
  | cons pair pairs ih =>
      obtain ⟨fuel, rfl⟩ : ∃ n, fuel = n + 1 := ⟨fuel - 1, by omega⟩
      cases h with
      | @next _ name v _ gap t front back s more hGap hName hFront hBack hValue hMore =>
          have hStop := hMore.stopsNumber rest
          have hLayout : gap ++ byte '"' :: (t ++ byte '"' :: (front ++ byte ':' ::
              (back ++ (s ++ more)))) ++ rest = gap ++ byte '"' :: (t ++ byte '"' ::
                (front ++ byte ':' :: (back ++ (s ++ (more ++ rest))))) := by simp
          have hLater {filling : Filling members} :
              readMembersWithin members fuel false filling (more ++ rest) = .ok (row, after) ↔ _ :=
            ih hMore (Nat.lt_of_succ_lt_succ hFuel)
          rw [hLayout, readMembersWithin_eq_ok_iff, Filling.completes_cons_iff hNames]
          constructor
          · rintro (⟨-, hClose⟩ | ⟨filled, start, hNext, behind, hMember, hRead⟩)
            · exact absurd hClose (nextName_of_isGap hGap _ _).1
            · obtain rfl := (nextName_of_isGap hGap _ _).2.mp hNext
              obtain ⟨hStep, rfl⟩ := (readMember_of_spells hName hFront hBack hValue hStop).mp hMember
              obtain ⟨hCompletes, hAfter⟩ := hLater.mp hRead
              exact ⟨⟨filled, hStep, hCompletes⟩, hAfter⟩
          · rintro ⟨⟨filled, hStep, hCompletes⟩, hAfter⟩
            exact .inr ⟨filled, _, (nextName_of_isGap hGap _ _).2.mpr rfl, _,
              (readMember_of_spells hName hFront hBack hValue hStop).mpr ⟨hStep, rfl⟩,
              hLater.mpr ⟨hCompletes, hAfter⟩⟩

theorem SpellsMembers.length_lt (h : SpellsMembers first pairs s) : pairs.length < s.length := by
  induction pairs generalizing first s with
  | nil =>
      cases h with
      | close hBlank => simp
  | cons pair pairs ih =>
      cases h with
      | next _ _ _ _ _ hMore =>
          have hLater := ih hMore
          simp only [List.length_cons, List.length_append]
          omega

end Objects

section Lists

variable {members : List Member} {shape : String} {read : Nat} {v : Value} {elements : List Value}
  {first : Bool} {gap s rest after : Bytes}

theorem cutOffRow?_eq_some_iff {row : Row members} :
    cutOffRow? members = some row ↔ Row.InList members row [] := by
  induction members with
  | nil => exact iff_of_true rfl rfl
  | cons m members ih =>
      obtain ⟨x, row⟩ := row
      rw [Row.InList, ← ih, cutOffRow?]
      simp only [Option.bind_eq_some_iff, Option.map_eq_some_iff, Prod.mk.injEq]
      constructor
      · rintro ⟨_, hCut, _, hMore, rfl, rfl⟩
        exact ⟨hCut, hMore⟩
      · rintro ⟨hCut, hMore⟩
        exact ⟨x, hCut, row, hMore, rfl, rfl⟩

theorem skipSpace_close {blanks : Bytes} (hBlank : Blank blanks) (rest : Bytes) :
    skipSpace (blanks ++ [byte ']'] ++ rest) = byte ']' :: rest :=
  skipSpace_eq_cons_iff.mpr ⟨blanks, hBlank, by decide, List.append_assoc _ _ _⟩

theorem SpellsElements.length_lt (h : SpellsElements first elements s) :
    elements.length < s.length := by
  induction elements generalizing first s with
  | nil =>
      cases h with
      | close hBlank => simp
  | cons v elements ih =>
      cases h with
      | next _ hValue hMore =>
          have hLater := ih hMore
          obtain ⟨b, more, rfl, -⟩ := hValue.opens
          simp only [List.length_cons, List.length_append]
          omega

/-- Behind a gap stands an element, and not the end of the list. -/
theorem elementAt_of_isGap (hGap : IsGap first gap) (hValue : Spells v s) (rest : Bytes) :
    (∀ after, skipSpace (gap ++ (s ++ rest)) ≠ byte ']' :: after) ∧
      ∃ blanks, Blank blanks ∧
        ∀ element, ElementAt first (gap ++ (s ++ rest)) element ↔ element = blanks ++ (s ++ rest) := by
  cases first with
  | true =>
      refine ⟨fun after hClose => ?_, gap, hGap, fun element => eq_comm⟩
      rw [hValue.skipSpace_eq hGap rest] at hClose
      obtain ⟨b, more, rfl, hOpens⟩ := hValue.opens
      exact hOpens.separate.2.2.1 (List.cons.inj hClose).1
  | false =>
      obtain ⟨front, back, hFront, hBack, rfl⟩ := hGap
      have hSpace : skipSpace (front ++ byte ',' :: back ++ (s ++ rest)) =
          byte ',' :: (back ++ (s ++ rest)) :=
        skipSpace_eq_cons_iff.mpr ⟨front, hFront, by decide, List.append_assoc _ _ _⟩
      refine ⟨fun after hClose => ?_, back, hBack, fun element => ⟨fun hElement => ?_, fun hSame => ?_⟩⟩
      · cases hSpace.symm.trans hClose
      · cases hSpace.symm.trans hElement
        rfl
      · subst hSame
        exact hSpace

theorem nextElement_of_isGap (hGap : IsGap first gap) (hValue : Spells v s) (rest : Bytes) :
    nextElement first (gap ++ (s ++ rest)) = .ok (some (s ++ rest)) := by
  obtain ⟨-, blanks, hBlank, hElement⟩ := elementAt_of_isGap hGap hValue rest
  have hSpace := hValue.skipSpace_eq hBlank rest
  obtain ⟨b, more, rfl, hOpens⟩ := hValue.opens
  exact nextElement_eq_some_iff.mpr ⟨_, (hElement _).mpr rfl, hSpace, b, rfl, hOpens.separate.2.2.1⟩

/-- From any element on, reading the elements gives what they stand for. -/
theorem readsElements_of_spells (h : SpellsElements first elements s) (hFirst : (read == 0) = first)
    {row : Row members} :
    ReadsElements shape members read row (s ++ rest) after ↔
      Row.InList members row elements ∧ after = rest := by
  induction members generalizing first read elements s with
  | nil =>
      have hEnd : ReadsElements shape [] read row (s ++ rest) after ↔
          skipSpace (s ++ rest) = byte ']' :: after := by
        simp [ReadsElements, readElements, readListEnd_eq_ok_iff]
      rw [hEnd]
      cases h with
      | close hBlank =>
          rw [skipSpace_close hBlank, List.cons.injEq, eq_comm (a := rest)]
          exact and_congr_left fun _ => iff_of_true rfl rfl
      | @next _ v _ gap s more hGap hValue hMore =>
          rw [List.append_assoc, List.append_assoc]
          refine iff_of_false (fun hClose => ?_) fun hMeans => List.cons_ne_nil _ _ hMeans.1
          exact (elementAt_of_isGap hGap hValue (more ++ rest)).1 _ hClose
  | cons m members ih =>
      obtain ⟨x, row⟩ := row
      rw [readsElements_cons_iff, hFirst]
      cases h with
      | close hBlank =>
          have hEnd := skipSpace_close hBlank rest
          rw [hEnd, List.cons.injEq, eq_comm (a := rest), cutOffRow?_eq_some_iff]
          constructor
          · rintro (⟨hMeans, -, hAfter⟩ | ⟨start, hNext, -⟩)
            · exact ⟨hMeans, hAfter⟩
            · cases (nextElement_eq_none_iff.mpr ⟨rest, hEnd⟩).symm.trans hNext
          · rintro ⟨hMeans, hAfter⟩
            exact .inl ⟨hMeans, rfl, hAfter⟩
      | @next _ v _ gap s more hGap hValue hMore =>
          have hStop := hMore.stopsNumber rest
          have hNext := nextElement_of_isGap hGap hValue (more ++ rest)
          have hRead {x : m.kind.Carrier} {behind : Bytes} :
              m.kind.read (s ++ (more ++ rest)) = .ok (x, behind) ↔
                m.kind.Means x v ∧ behind = more ++ rest :=
            m.kind.read_of_spells hValue (List.forall_mem_nil _) hStop
          have hLater : ReadsElements shape members (read + 1) row (more ++ rest) after ↔ _ :=
            ih hMore rfl
          rw [List.append_assoc, List.append_assoc]
          constructor
          · rintro (⟨-, hClose⟩ | ⟨start, hStart, behind, hElement, hElements⟩)
            · exact absurd hClose ((elementAt_of_isGap hGap hValue (more ++ rest)).1 _)
            · cases hNext.symm.trans hStart
              obtain ⟨hMeans, rfl⟩ := hRead.mp hElement
              obtain ⟨hMore, hAfter⟩ := hLater.mp hElements
              exact ⟨⟨hMeans, hMore⟩, hAfter⟩
          · rintro ⟨⟨hMeans, hMore⟩, hAfter⟩
            exact .inr ⟨_, hNext, _, hRead.mpr ⟨hMeans, rfl⟩, hLater.mpr ⟨hMore, hAfter⟩⟩

end Lists

section Records

variable {f : RecordFormat} {v : Value} {elements : List Value} {first : Bool}
  {front s rest after : Bytes}

/-- Reading a record gives what the value means, and stops behind it. -/
theorem RecordFormat.read_of_spells (hNames : (f.members.map Member.name).Nodup) (h : Spells v s)
    (hFront : Blank front) {row : Row f.members} :
    f.read (front ++ (s ++ rest)) = .ok (row, after) ↔ f.Means row v ∧ after = rest := by
  rw [RecordFormat.read_eq_ok_iff]
  constructor
  · rintro ⟨b, behind, hSpace, ⟨rfl, hRead⟩ | ⟨rfl, hRead⟩⟩
    · obtain ⟨more, rfl, rfl⟩ := h.first hFront hSpace
      obtain ⟨elements, rfl, hElements⟩ := h.eq_list
      exact (readsElements_of_spells hElements rfl).mp hRead
    · obtain ⟨more, rfl, rfl⟩ := h.first hFront hSpace
      obtain ⟨pairs, rfl, hMembers⟩ := h.eq_object
      have hFuel := hMembers.length_lt
      rw [readMembersWithin_of_spells hNames hMembers (by rw [List.length_append]; omega),
        Filling.completes_empty_iff] at hRead
      exact hRead
  · rintro ⟨hMeans, hAfter⟩
    have hSpace := h.skipSpace_eq hFront rest
    cases h with
    | list hElements =>
        exact ⟨_, _, hSpace, .inl ⟨rfl, (readsElements_of_spells hElements rfl).mpr ⟨hMeans, hAfter⟩⟩⟩
    | @object _ s hMembers =>
        have hFuel := hMembers.length_lt
        refine ⟨_, s ++ rest, hSpace, .inr ⟨rfl, ?_⟩⟩
        refine (readMembersWithin_of_spells hNames hMembers ?_).mpr ⟨?_, hAfter⟩
        · rw [List.length_append]
          omega
        · exact Filling.completes_empty_iff.mpr hMeans
    | _ => exact absurd hMeans id

/-- Reading the records of a list gives what the elements mean, one for one. -/
theorem readRecordsWithin_of_spells (hNames : (f.members.map Member.name).Nodup)
    (h : SpellsElements first elements s) {fuel : Nat} (hFuel : elements.length < fuel)
    {rows : List (Row f.members)} :
    readRecordsWithin f fuel first (s ++ rest) = .ok (rows, after) ↔
      List.Forall₂ (fun v row => f.Means row v) elements rows ∧ after = rest := by
  induction elements generalizing first fuel s rows with
  | nil =>
      obtain ⟨fuel, rfl⟩ : ∃ n, fuel = n + 1 := ⟨fuel - 1, by omega⟩
      cases h with
      | close hBlank =>
          have hEnd := skipSpace_close hBlank rest
          rw [readRecordsWithin_eq_ok_iff, List.forall₂_nil_left_iff, hEnd, List.cons.injEq,
            eq_comm (a := rest)]
          constructor
          · rintro (⟨hRows, -, hAfter⟩ | ⟨row, more, -, element, hPlace, behind, hRow, -⟩)
            · exact ⟨hRows, hAfter⟩
            · cases first with
              | true =>
                  obtain rfl := hPlace
                  obtain ⟨b, hFirst, hOther⟩ := RecordFormat.opens_of_read hRow
                  rw [hEnd] at hFirst
                  cases hFirst
                  exact absurd rfl hOther
              | false => cases hEnd.symm.trans hPlace
          · rintro ⟨hRows, hAfter⟩
            exact .inl ⟨hRows, rfl, hAfter⟩
  | cons v elements ih =>
      obtain ⟨fuel, rfl⟩ : ∃ n, fuel = n + 1 := ⟨fuel - 1, by omega⟩
      cases h with
      | @next _ v _ gap s more hGap hValue hMore =>
          obtain ⟨hOpen, blanks, hBlank, hElement⟩ := elementAt_of_isGap hGap hValue (more ++ rest)
          have hLater {rows : List (Row f.members)} :
              readRecordsWithin f fuel false (more ++ rest) = .ok (rows, after) ↔ _ :=
            ih hMore (Nat.lt_of_succ_lt_succ hFuel)
          have hRead {row : Row f.members} {behind : Bytes} :
              f.read (blanks ++ (s ++ (more ++ rest))) = .ok (row, behind) ↔
                f.Means row v ∧ behind = more ++ rest := f.read_of_spells hNames hValue hBlank
          rw [List.append_assoc, List.append_assoc, readRecordsWithin_eq_ok_iff,
            List.forall₂_cons_left_iff]
          constructor
          · rintro (⟨-, hClose⟩ | ⟨row, later, rfl, element, hPlace, behind, hRow, hRows⟩)
            · exact absurd hClose (hOpen _)
            · obtain rfl := (hElement element).mp hPlace
              obtain ⟨hMeans, rfl⟩ := hRead.mp hRow
              obtain ⟨hMeant, hAfter⟩ := hLater.mp hRows
              exact ⟨⟨row, later, hMeans, hMeant, rfl⟩, hAfter⟩
          · rintro ⟨⟨row, later, hMeans, hMeant, rfl⟩, hAfter⟩
            exact .inr ⟨row, later, rfl, _, (hElement _).mpr rfl, _, hRead.mpr ⟨hMeans, rfl⟩,
              hLater.mpr ⟨hMeant, hAfter⟩⟩

/-- Records are read from the lists of values that mean them, and none from `null`. -/
theorem readRecords_of_spells (hNames : (f.members.map Member.name).Nodup) (h : Spells v s)
    (hFront : Blank front) {rows : List (Row f.members)} :
    readRecords f (front ++ (s ++ rest)) = .ok (rows, after) ↔
      ((v = .null ∧ rows = []) ∨
        ∃ elements, v = .list elements ∧ List.Forall₂ (fun v row => f.Means row v) elements rows) ∧
      after = rest := by
  rw [readRecords_eq_ok_iff]
  constructor
  · rintro ⟨b, behind, hSpace, ⟨⟨rfl, hRows⟩, hWord⟩ | ⟨rfl, hRead⟩⟩
    · obtain ⟨more, rfl, rfl⟩ := h.first hFront hSpace
      obtain ⟨rfl, rfl⟩ := h.eq_null
      exact ⟨.inl ⟨rfl, hRows⟩, (List.append_cancel_left hWord).symm⟩
    · obtain ⟨more, rfl, rfl⟩ := h.first hFront hSpace
      obtain ⟨elements, rfl, hElements⟩ := h.eq_list
      have hFuel := hElements.length_lt
      rw [readRecordsWithin_of_spells hNames hElements (by rw [List.length_append]; omega)] at hRead
      exact ⟨.inr ⟨elements, rfl, hRead.1⟩, hRead.2⟩
  · rintro ⟨⟨rfl, hRows⟩ | ⟨elements, rfl, hMeans⟩, rfl⟩
    · have hSpace := h.skipSpace_eq hFront after
      cases h with
      | null => exact ⟨_, _, hSpace, .inl ⟨⟨rfl, hRows⟩, rfl⟩⟩
    · have hSpace := h.skipSpace_eq hFront after
      cases h with
      | @list _ s hElements =>
          have hFuel := hElements.length_lt
          refine ⟨_, s ++ after, hSpace, .inr ⟨rfl, ?_⟩⟩
          refine (readRecordsWithin_of_spells hNames hElements ?_).mpr ⟨hMeans, rfl⟩
          rw [List.length_append]
          omega

/-- A text of a value is read as a record just when the value means one. -/
theorem readWholeText_read_of_isText (hNames : (f.members.map Member.name).Nodup) {text : Bytes}
    (h : IsText v text) {row : Row f.members} :
    readWholeText f.read text = .ok row ↔ f.Means row v := by
  obtain ⟨front, s, back, hFront, hBack, hSpells, rfl⟩ := h
  simp only [readWholeText_eq_ok_iff, f.read_of_spells hNames hSpells hFront]
  exact ⟨fun ⟨_, hRead, _⟩ => hRead.1, fun hMeans => ⟨back, ⟨hMeans, rfl⟩, hBack⟩⟩

/-- A text of a value is read as records just when the value is `null`, for none, or a list of which the
elements mean the records, one for one. -/
theorem readWholeText_readRecords_of_isText (hNames : (f.members.map Member.name).Nodup)
    {text : Bytes} (h : IsText v text) {rows : List (Row f.members)} :
    readWholeText (readRecords f) text = .ok rows ↔
      (v = .null ∧ rows = []) ∨
        ∃ elements, v = .list elements ∧
          List.Forall₂ (fun v row => f.Means row v) elements rows := by
  obtain ⟨front, s, back, hFront, hBack, hSpells, rfl⟩ := h
  simp only [readWholeText_eq_ok_iff, readRecords_of_spells hNames hSpells hFront]
  exact ⟨fun ⟨_, hRead, _⟩ => hRead.1, fun hMeans => ⟨back, ⟨hMeans, rfl⟩, hBack⟩⟩

end Records

section Tables

variable {members : List Member} {m : Member} {name : String} {kind : Scalar} {x value : kind.Carrier}
  {pairs others : List (String × Value)} {values : List Value}

theorem Member.required_means_iff :
    (required name kind).Means x values ↔ ∃ v, values = [v] ∧ kind.Means x v := by
  rcases values with _ | ⟨v, _ | ⟨w, values⟩⟩
  · simp [required, Means]
  · simp [required, Means]
  · simp [Means]

theorem Member.withDefault_means_iff :
    (withDefault name kind value).Means x values ↔
      (∃ v, values = [v] ∧ kind.Means x v) ∨ values = [] ∧ x = value := by
  rcases values with _ | ⟨v, _ | ⟨w, values⟩⟩
  · simp [withDefault, Means, eq_comm]
  · simp [withDefault, Means]
  · simp [Means]

/-- Of several values none counts, so their order makes no difference. -/
theorem Member.means_perm {more : List Value} {y : m.kind.Carrier} (h : values.Perm more) :
    m.Means y values ↔ m.Means y more := by
  rcases values with _ | ⟨v, _ | ⟨w, values⟩⟩
  · rw [List.nil_perm.mp h]
  · rw [List.singleton_perm.mp h]
  · have hLength := h.length_eq
    rcases more with _ | ⟨v', _ | ⟨w', more⟩⟩
    · cases hLength
    · cases hLength
    · exact Iff.rfl

theorem valuesOf_perm {names : List String}
    (h : (pairs.filter (·.1 ∈ names)).Perm (others.filter (·.1 ∈ names))) (hName : name ∈ names) :
    (valuesOf name pairs).Perm (valuesOf name others) := by
  have hFilter (pairs : List (String × Value)) :
      (pairs.filter (·.1 ∈ names)).filter (·.1 = name) = pairs.filter (·.1 = name) := by
    rw [List.filter_filter]
    refine List.filter_congr fun pair _ => ?_
    by_cases hSame : pair.1 = name
    · simp [hSame, hName]
    · simp [hSame]
  rw [valuesOf, valuesOf, ← hFilter pairs, ← hFilter others]
  exact (h.filter _).map _

/-- Objects whose known members are the same but for the order stand for the same rows. -/
theorem Row.inObject_congr {row : Row members}
    (h : (pairs.filter (·.1 ∈ members.map Member.name)).Perm
      (others.filter (·.1 ∈ members.map Member.name))) :
    Row.InObject members row pairs ↔ Row.InObject members row others := by
  have hValues : ∀ m ∈ members, (valuesOf m.name pairs).Perm (valuesOf m.name others) :=
    fun m hm => valuesOf_perm h (List.mem_map_of_mem hm)
  clear h
  induction members with
  | nil => exact Iff.rfl
  | cons m members ih =>
      obtain ⟨x, row⟩ := row
      rw [List.forall_mem_cons] at hValues
      exact and_congr (Member.means_perm hValues.1) (ih hValues.2)

/-- Where nothing may be left out, every member occurs exactly once. -/
theorem Row.inObject_iff_of_required (h : ∀ m ∈ members, m.IsRequired) {row : Row members}
    {pairs : List (String × Value)} :
    Row.InObject members row pairs ↔
      ∀ entry ∈ Row.table members row, ∃ v, valuesOf entry.1 pairs = [v] ∧ entry.2 v := by
  induction members with
  | nil => exact iff_of_true trivial (List.forall_mem_nil _)
  | cons m members ih =>
      obtain ⟨x, row⟩ := row
      rw [List.forall_mem_cons] at h
      rw [Row.InObject, Row.table, List.forall_mem_cons, ih h.2]
      refine and_congr_left fun _ => ?_
      rcases valuesOf m.name pairs with _ | ⟨v, _ | ⟨w, values⟩⟩
      · simp [Member.Means, h.1.1]
      · simp [Member.Means]
      · simp [Member.Means]

/-- Where nothing may be left out, there are as many elements as members. -/
theorem Row.inList_iff_of_required (h : ∀ m ∈ members, m.IsRequired) {row : Row members}
    {elements : List Value} :
    Row.InList members row elements ↔
      List.Forall₂ (fun v entry => entry.2 v) elements (Row.table members row) := by
  induction members generalizing elements with
  | nil => exact List.forall₂_nil_right_iff.symm
  | cons m members ih =>
      obtain ⟨x, row⟩ := row
      rw [List.forall_mem_cons] at h
      cases elements with
      | nil => simp [Row.InList, Row.table, h.1.2]
      | cons v elements => simp [Row.InList, Row.table, ih h.2]

end Tables

end EquipmentBooking.Json
