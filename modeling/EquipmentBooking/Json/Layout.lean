import EquipmentBooking.Json.Bytes

namespace EquipmentBooking.Json

def Blank (s : Bytes) : Prop :=
  ∀ b ∈ s, isSpace b = true

def IsNull (s : Bytes) : Prop :=
  ∃ front back, Blank front ∧ Blank back ∧
    s = front ++ ([byte 'n', byte 'u', byte 'l', byte 'l'] ++ back)

/-- What stands between the brackets of a list with the given elements, the blanks around them being
part of the elements. Without elements there are only blanks. -/
def IsInside (inside : Bytes) : List Bytes → Prop
  | [] => Blank inside
  | elements => inside = List.intercalate [byte ','] elements

/-- A text that is a list with the given elements. -/
def IsList (s : Bytes) (elements : List Bytes) : Prop :=
  ∃ front inside back, Blank front ∧ Blank back ∧ IsInside inside elements ∧
    s = front ++ byte '[' :: (inside ++ byte ']' :: back)

end EquipmentBooking.Json
