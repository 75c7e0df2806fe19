namespace EquipmentBooking.Text

/-- Membership in a list of closed ranges that rise from left to right. -/
def inRanges (n : Nat) : List (Nat × Nat) → Bool
  | [] => false
  | (low, high) :: rest =>
    if n < low then false else if n ≤ high then true else inRanges n rest

def lookupRange {α : Type} (n : Nat) : List (Nat × Nat × α) → Option α
  | [] => none
  | (low, high, value) :: rest =>
    if n < low then none else if n ≤ high then some value else lookupRange n rest

end EquipmentBooking.Text
