import EquipmentBooking.ClashQuery.Reading
import EquipmentBooking.Proofs.Form.Validation
import EquipmentBooking.Proofs.Text.Integer
import EquipmentBooking.Proofs.Time.Reading

/-! Reading a query from its named values undoes writing it. The names of the time fields and those of
quantities are told apart by the mark in front of an item's id, so no id is mistaken for a time field. -/
namespace EquipmentBooking

open Text.Numeral

def TypedTime.names : List String :=
  ["date", "week_commencing", "day", "start_time", "end_time", "manual"]

section Names

theorem RosterKind.itemId?_eq_none_of_mem_names (kind : RosterKind) :
    ∀ name ∈ TypedTime.names, kind.itemId? name = none := by
  cases kind <;> decide

/-- Whatever an item's id is, the name of its quantity is none that states no item. -/
theorem RosterKind.quantityKey_ne {kind : RosterKind} {name : String}
    (h : kind.itemId? name = none) (itemId : String) : kind.quantityKey itemId ≠ name := by
  rintro rfl
  rw [kind.itemId?_quantityKey] at h
  cases h

theorem RosterKind.quantityKey_not_mem_names (kind : RosterKind) (itemId : String) :
    kind.quantityKey itemId ∉ TypedTime.names := by
  intro hName
  exact quantityKey_ne (kind.itemId?_eq_none_of_mem_names _ hName) itemId rfl

theorem BookedTime.fst_mem_names (booked : BookedTime) :
    ∀ pair ∈ booked.toPairs, pair.1 ∈ TypedTime.names := by
  cases booked <;> simp [toPairs, TypedTime.names]

end Names

section Time

/-- Values under other names have no influence on the time fields in front of them. -/
theorem TypedTime.ofPairs_append {pairs items : Pairs}
    (hItems : ∀ pair ∈ items, pair.1 ∉ TypedTime.names) :
    ofPairs (pairs ++ items) = ofPairs pairs := by
  have hLookup (name : String) (hName : name ∈ TypedTime.names) :
      (pairs ++ items).lookup name = pairs.lookup name := by
    have hNone : items.lookup name = none := by
      rw [List.lookup_eq_none_iff]
      intro pair hPair
      rw [bne_iff_ne]
      intro hEq
      exact hItems pair hPair (hEq ▸ hName)
    rw [List.lookup_append, hNone, Option.or_none]
  rw [names] at hLookup
  simp only [List.forall_mem_cons] at hLookup
  simp [ofPairs, hLookup]

theorem BookedTime.marker_mem_toPairs {booked : BookedTime} (h : booked.isManual = true) :
    ("manual", "true") ∈ booked.toPairs := by
  cases booked with
  | window => simp [toPairs]
  | slot => cases h

theorem BookedTime.fst_ne_of_isManual {booked : BookedTime} (h : booked.isManual = true) :
    ∀ pair ∈ booked.toPairs, pair.1 ≠ "week_commencing" ∧ pair.1 ≠ "day" := by
  cases booked with
  | window => simp [toPairs]
  | slot => cases h

theorem BookedTime.fst_ne_of_not_isManual {booked : BookedTime} (h : booked.isManual = false) :
    ∀ pair ∈ booked.toPairs, pair.1 ≠ "date" ∧ pair.1 ≠ "manual" := by
  cases booked with
  | window => cases h
  | slot => simp [toPairs]

theorem BookedTime.ofPairs_toPairs (booked : BookedTime) :
    TypedTime.ofPairs booked.toPairs = booked.typed := by
  cases booked <;> rfl

end Time

section Items

def RosterKind.quantityPair (kind : RosterKind) (e : RosterEntry) : String × String :=
  (kind.quantityKey e.itemId, text e.quantity.toNat)

variable (kind : RosterKind)

theorem RosterKind.quantities_toPairs (booked : BookedTime) :
    kind.quantities booked.toPairs = [] := by
  rw [RosterKind.quantities, List.filterMap_eq_nil_iff]
  intro pair hPair
  have hNone := kind.itemId?_eq_none_of_mem_names _ (booked.fst_mem_names pair hPair)
  simp only [hNone]

theorem RosterKind.quantities_quantityPairs (entries : List RosterEntry) :
    kind.quantities (entries.map kind.quantityPair) =
      entries.map fun e => (e.itemId, e.quantity) := by
  rw [RosterKind.quantities, List.filterMap_map, ← List.filterMap_eq_map']
  apply List.filterMap_congr
  intro e _
  have hFits : e.quantity.toNat ≤ UInt32.size - 1 := Nat.le_pred_of_lt e.quantity.toNat_lt
  simp only [Function.comp_apply, RosterKind.quantityPair, kind.itemId?_quantityKey, text,
    String.toList_ofList, readNatural_digits hFits, UInt32.ofNat_toNat]

/-- The lines made for quantities ask for just these. -/
theorem Roster.map_ofEntry_entriesOf (quantities : List (String × UInt32)) :
    (Roster.entriesOf quantities).map (QuantityParam.ofEntry kind) =
      quantities.map fun (itemId, quantity) => ⟨kind.quantityKey itemId, itemId, quantity⟩ := by
  apply List.ext_getElem?
  intro i
  simp only [Roster.entriesOf, List.getElem?_map, List.getElem?_mapIdx, Option.map_map]
  rfl

end Items

namespace ClashQuery

section Built

variable {time : TypedTime} {kind : RosterKind} {entries : List RosterEntry} {query : ClashQuery}

/-- The time comes first, then each line states its quantity. -/
theorem toPairs_of_build (h : build time kind entries = .ok (.ok query)) :
    query.toPairs = query.time.toPairs ++ entries.map kind.quantityPair := by
  obtain ⟨-, hItems⟩ := build_eq_ok_iff.mp h
  rw [toPairs, hItems, List.map_map]
  rfl

theorem typedTime_ofPairs_toPairs (h : build time kind entries = .ok (.ok query)) :
    TypedTime.ofPairs query.toPairs = query.time.typed := by
  rw [toPairs_of_build h, TypedTime.ofPairs_append, query.time.ofPairs_toPairs]
  intro pair hPair
  obtain ⟨e, -, rfl⟩ := List.mem_map.mp hPair
  exact kind.quantityKey_not_mem_names e.itemId

theorem quantities_toPairs_of_build (h : build time kind entries = .ok (.ok query)) :
    kind.quantities query.toPairs = entries.map fun e => (e.itemId, e.quantity) := by
  have hTime := kind.quantities_toPairs query.time
  have hItems := kind.quantities_quantityPairs entries
  rw [RosterKind.quantities] at hTime hItems ⊢
  rw [toPairs_of_build h, List.filterMap_append, hTime, hItems, List.nil_append]

/-- Reading the named values of a query builds the same query. -/
theorem ofPairs_toPairs_of_build (h : build time kind entries = .ok (.ok query)) :
    ofPairs kind query.toPairs = .ok (.ok query) := by
  obtain ⟨hResolve, hItems⟩ := build_eq_ok_iff.mp h
  rw [ofPairs, typedTime_ofPairs_toPairs h, quantities_toPairs_of_build h, build_eq_ok_iff]
  constructor
  · exact BookedTime.resolve_typed (BookedTime.isResolved_of_resolve hResolve)
  · rw [hItems, Roster.map_ofEntry_entriesOf, List.map_map]
    rfl

/-- A time field that the time does not state is not among the named values at all. -/
theorem fst_ne_of_mem_toPairs (h : build time kind entries = .ok (.ok query)) {name : String}
    (hName : name ∈ TypedTime.names) (hTime : ∀ pair ∈ query.time.toPairs, pair.1 ≠ name) :
    ∀ pair ∈ query.toPairs, pair.1 ≠ name := by
  intro pair hPair
  rw [toPairs_of_build h, List.mem_append] at hPair
  rcases hPair with hPair | hPair
  · exact hTime pair hPair
  · obtain ⟨e, -, rfl⟩ := List.mem_map.mp hPair
    rintro rfl
    exact kind.quantityKey_not_mem_names e.itemId hName

/-- The named values of a query determine it, whatever was typed and whatever the items are called:
read again, they build the same query, and no other query of the kind has them. A window carries the
marker and no field of a slot, a slot carries neither the marker nor a date. -/
theorem build_determined_by_toPairs {booked : BookedTime} (h : time.resolve = .ok (.ok booked))
    (kind : RosterKind) (entries : List RosterEntry) :
    ∃ query, build time kind entries = .ok (.ok query) ∧ query.time = booked ∧
      ofPairs kind query.toPairs = .ok (.ok query) ∧
      (∀ typed lines other, build typed kind lines = .ok (.ok other) →
        other.toPairs = query.toPairs → other = query) ∧
      (∀ itemId, kind.quantityKey itemId ∉ TypedTime.names) ∧
      (booked.isManual = true → ("manual", "true") ∈ query.toPairs ∧
        ∀ pair ∈ query.toPairs, pair.1 ≠ "week_commencing" ∧ pair.1 ≠ "day") ∧
      (booked.isManual = false → ∀ pair ∈ query.toPairs, pair.1 ≠ "date" ∧ pair.1 ≠ "manual") := by
  let query : ClashQuery := ⟨booked, entries.map (QuantityParam.ofEntry kind)⟩
  have hBuild : build time kind entries = .ok (.ok query) := build_eq_ok_iff.mpr ⟨h, rfl⟩
  have hRead := ofPairs_toPairs_of_build hBuild
  refine ⟨query, hBuild, rfl, hRead, ?_, kind.quantityKey_not_mem_names, ?_, ?_⟩
  · intro typed lines other hOther hPairs
    have hSame := ofPairs_toPairs_of_build hOther
    rw [hPairs, hRead] at hSame
    cases hSame
    rfl
  · intro hManual
    have hNames := booked.fst_ne_of_isManual hManual
    have hWeek := fst_ne_of_mem_toPairs hBuild (by decide) fun pair hPair => (hNames pair hPair).1
    have hDay := fst_ne_of_mem_toPairs hBuild (by decide) fun pair hPair => (hNames pair hPair).2
    exact ⟨List.mem_append_left _ (booked.marker_mem_toPairs hManual),
      fun pair hPair => ⟨hWeek pair hPair, hDay pair hPair⟩⟩
  · intro hSlot
    have hNames := booked.fst_ne_of_not_isManual hSlot
    have hDate := fst_ne_of_mem_toPairs hBuild (by decide) fun pair hPair => (hNames pair hPair).1
    have hMarker := fst_ne_of_mem_toPairs hBuild (by decide) fun pair hPair => (hNames pair hPair).2
    exact fun pair hPair => ⟨hDate pair hPair, hMarker pair hPair⟩

def wednesday : Date where
  year := 2024
  month := 3
  day := 13
  firstYear_le := by decide
  le_lastYear := by decide
  month_pos := by decide
  month_le := by decide
  day_pos := by decide
  day_le := by decide

def monday : Date :=
  { wednesday with day := 11, day_pos := by decide, day_le := by decide }

/-- A slot of the week that a Wednesday names, typed with blanks. -/
def wednesdaySlot : TypedTime :=
  .ofSlot " 2024-03-13" "Friday" "13:30" "14:25 "

/-- Lines with items that are called like time fields, one of them twice, and a line that asks
for nothing. -/
def awkwardLines : List RosterEntry :=
  [⟨1, "manual", "", 1, 1⟩, ⟨2, "date", "", 0, 4⟩, ⟨3, "manual", "", 2, 3⟩, ⟨4, "", "", 4, 4⟩]

theorem weekCommencing?_wednesday : wednesday.weekCommencing? = some monday := by
  have hIndex : wednesday.weekday.index = 2 := by
    have hNumber : wednesday.dayNumber = 738958 := by decide
    have hWeekday := wednesday.index_weekday
    omega
  rw [Date.weekCommencing?, hIndex]
  rfl

theorem build_determined_by_toPairs_of_awkward_lines :
    ∃ booked query, wednesdaySlot.resolve = .ok (.ok booked) ∧
      build wednesdaySlot .extra awkwardLines = .ok (.ok query) ∧
      query.toPairs = [("week_commencing", "2024-03-11"), ("day", "friday"),
        ("start_time", "13:30"), ("end_time", "14:25"), ("eqty_manual", "1"), ("eqty_date", "0"),
        ("eqty_manual", "2"), ("eqty_", "4")] ∧
      ofPairs .extra query.toPairs = .ok (.ok query) := by
  have hChosen :
      wednesdaySlot.readChosen = .ok (.slot wednesday .friday ⟨13, 30⟩ ⟨14, 25⟩) := rfl
  have hResolve :
      wednesdaySlot.resolve = .ok (.ok (.slot monday .friday ⟨13, 30⟩ ⟨14, 25⟩)) := by
    simp only [TypedTime.resolve, hChosen, weekCommencing?_wednesday]
  obtain ⟨query, hBuild, hTime, hRead, -⟩ :=
    build_determined_by_toPairs hResolve .extra awkwardLines
  refine ⟨_, query, hResolve, hBuild, ?_, hRead⟩
  rw [toPairs_of_build hBuild, hTime]
  decide

end Built

end ClashQuery

end EquipmentBooking
