import EquipmentBooking.Proofs.Json.RecordReading

/-! No text is a text of two values. Where a value ends is where it has been passed over, and where an
item begins is where readers find it, so two ways to take a text apart go along rule by rule. -/
namespace EquipmentBooking.Json

section Parts

variable {v w : Value} {form other : NumberForm} {first : Bool} {gap gap' s t rest later : Bytes}

/-- Values that begin at one place end at one place. -/
theorem Spells.same_extent (h : Spells v s) (hOther : Spells w t) (hRest : StopsNumber rest)
    (hLater : StopsNumber later) (hSame : s ++ rest = t ++ later) : s = t ∧ rest = later := by
  have hNone : Blank [] := List.forall_mem_nil _
  have hSkip := skipValue_of_spells h hNone hRest
  have hSkipOther := skipValue_of_spells hOther hNone hLater
  rw [hSame] at hSkip
  obtain rfl : rest = later := Except.ok.inj (hSkip.symm.trans hSkipOther)
  exact ⟨List.append_cancel_right hSame, rfl⟩

theorem stopsNumber_nil : StopsNumber [] := nofun

theorem SpellsNumber.unique (h : SpellsNumber form s) (hOther : SpellsNumber other s) :
    form = other := by
  have hRead : readForm .eofValue (s ++ []) = .ok (form, []) := readForm_of_spells h stopsNumber_nil
  have hReadOther : readForm .eofValue (s ++ []) = .ok (other, []) :=
    readForm_of_spells hOther stopsNumber_nil
  exact (Prod.mk.inj (Except.ok.inj (hRead.symm.trans hReadOther))).1

/-- Strings that begin at one place have the same characters and end at one place. -/
theorem SpellsChars.unique {name name' : String} (h : SpellsChars name.toList s)
    (hOther : SpellsChars name'.toList t) (hSame : s ++ byte '"' :: rest = t ++ byte '"' :: later) :
    name = name' ∧ rest = later := by
  have hRead := readText_of_spells h rest
  rw [hSame, readText_of_spells hOther later] at hRead
  cases hRead
  exact ⟨rfl, rfl⟩

theorem value_of_blanks {front front' : Bytes} (hFront : Blank front) (h : Spells v s)
    (hFront' : Blank front') (hOther : Spells w t)
    (hSame : front ++ (s ++ rest) = front' ++ (t ++ later)) : s ++ rest = t ++ later := by
  have hStart := h.skipSpace_eq hFront rest
  rw [hSame, hOther.skipSpace_eq hFront' later] at hStart
  exact hStart.symm

theorem value_of_colons {front front' : Bytes} (hFront : Blank front) (hFront' : Blank front')
    (hSame : front ++ byte ':' :: rest = front' ++ byte ':' :: later) : rest = later := by
  have hColon := readColon_append hFront rest
  rw [hSame, readColon_append hFront' later] at hColon
  exact (Except.ok.inj hColon).symm

/-- Behind a gap stands one element, whatever the gap was. -/
theorem element_of_gaps (hGap : IsGap first gap) (hValue : Spells v s) (hGap' : IsGap first gap')
    (hOther : Spells w t) (hSame : gap ++ (s ++ rest) = gap' ++ (t ++ later)) :
    s ++ rest = t ++ later := by
  have hNext := nextElement_of_isGap hGap hValue rest
  rw [hSame, nextElement_of_isGap hGap' hOther later] at hNext
  exact (Option.some.inj (Except.ok.inj hNext)).symm

theorem name_of_gaps (hGap : IsGap first gap) (hGap' : IsGap first gap')
    (hSame : gap ++ byte '"' :: rest = gap' ++ byte '"' :: later) : rest = later := by
  have hNext := (nextName_of_isGap hGap rest rest).2.mpr rfl
  rw [hSame] at hNext
  exact (nextName_of_isGap hGap' later rest).2.mp hNext

theorem SpellsElements.stops {elements : List Value} (h : SpellsElements false elements s) :
    StopsNumber s := by
  simpa using h.stopsNumber []

theorem SpellsMembers.stops {members : List (String × Value)} (h : SpellsMembers false members s) :
    StopsNumber s := by
  simpa using h.stopsNumber []

theorem listEnd_ne_element {blanks : Bytes} (hBlank : Blank blanks) (hGap : IsGap first gap)
    (hValue : Spells v s) : blanks ++ [byte ']'] ≠ gap ++ (s ++ rest) := by
  intro hSame
  have hEnd := skipSpace_close hBlank []
  rw [List.append_nil, hSame] at hEnd
  exact (elementAt_of_isGap hGap hValue rest).1 [] hEnd

theorem objectEnd_ne_name {blanks : Bytes} (hBlank : Blank blanks) (hGap : IsGap first gap) :
    blanks ++ [byte '\x7d'] ≠ gap ++ byte '"' :: rest := by
  intro hSame
  have hNext := (nextName_of_isGap hGap rest rest).2.mpr rfl
  rw [← hSame] at hNext
  exact not_nextName_of_close hBlank [] rest hNext

end Parts

-- One case for each pair of rules. The texts are told apart by an equation, as those of items are made up.
mutual

/-- The first byte tells the kind of a value, and the readers tell its content; lists and objects are
taken apart item by item. -/
theorem Spells.unique {v w : Value} {s : Bytes} : Spells v s → Spells w s → v = w
  | .null, h => h.eq_null.1.symm
  | .yes, h => h.eq_yes.1.symm
  | .no, h => h.eq_no.1.symm
  | .number hNumber, h => by
      obtain ⟨b, more, rfl, hFirst⟩ := exists_cons_of_spellsNumber hNumber
      obtain ⟨form, rfl, hOther⟩ := h.eq_number hFirst
      rw [hNumber.unique hOther]
  | .text hText, h => by
      obtain ⟨t, u, rfl, hOther, hSame⟩ := h.eq_text
      rw [(hText.unique hOther hSame).1]
  | .list hElements, h => by
      obtain ⟨others, rfl, hOthers⟩ := h.eq_list
      rw [hElements.unique hOthers rfl]
  | .object hMembers, h => by
      obtain ⟨others, rfl, hOthers⟩ := h.eq_object
      rw [hMembers.unique hOthers rfl]

theorem SpellsElements.unique {first : Bool} {elements others : List Value} {s t : Bytes} :
    SpellsElements first elements s → SpellsElements first others t → s = t → elements = others
  | .close _, .close _, _ => rfl
  | .close hBlank, .next hGap hValue _, hSame =>
      absurd hSame (listEnd_ne_element hBlank hGap hValue)
  | .next hGap hValue _, .close hBlank, hSame =>
      absurd hSame.symm (listEnd_ne_element hBlank hGap hValue)
  | .next hGap hValue hMore, .next hGap' hOther hLater, hSame => by
      have hStart := element_of_gaps hGap hValue hGap' hOther hSame
      obtain ⟨rfl, rfl⟩ := hValue.same_extent hOther hMore.stops hLater.stops hStart
      rw [hValue.unique hOther, hMore.unique hLater rfl]

theorem SpellsMembers.unique {first : Bool} {members others : List (String × Value)} {s t : Bytes} :
    SpellsMembers first members s → SpellsMembers first others t → s = t → members = others
  | .close _, .close _, _ => rfl
  | .close hBlank, .next hGap _ _ _ _ _, hSame => absurd hSame (objectEnd_ne_name hBlank hGap)
  | .next hGap _ _ _ _ _, .close hBlank, hSame => absurd hSame.symm (objectEnd_ne_name hBlank hGap)
  | .next hGap hName hFront hBack hValue hMore, .next hGap' hName' hFront' hBack' hOther hLater,
      hSame => by
      obtain ⟨rfl, hBehind⟩ := hName.unique hName' (name_of_gaps hGap hGap' hSame)
      have hStart := value_of_blanks hBack hValue hBack' hOther (value_of_colons hFront hFront' hBehind)
      obtain ⟨rfl, rfl⟩ := hValue.same_extent hOther hMore.stops hLater.stops hStart
      rw [hValue.unique hOther, hMore.unique hLater rfl]

end

/-- A text is a text of one value only. -/
theorem IsText.unique {v w : Value} {text : Bytes} (h : IsText v text) (hOther : IsText w text) :
    v = w := by
  obtain ⟨front, s, back, hFront, hBack, hSpells, rfl⟩ := h
  obtain ⟨front', t, back', hFront', hBack', hSpells', hSame⟩ := hOther
  have hEnd {blanks : Bytes} (hBlank : Blank blanks) : StopsNumber blanks := by
    simpa using stopsNumber_append hBlank stopsNumber_nil
  have hStart := value_of_blanks hFront hSpells hFront' hSpells' hSame
  obtain ⟨rfl, -⟩ := hSpells.same_extent hSpells' (hEnd hBack) (hEnd hBack') hStart
  exact hSpells.unique hSpells'

end EquipmentBooking.Json
