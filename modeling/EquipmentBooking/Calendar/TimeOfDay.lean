import EquipmentBooking.Text.Numeral

namespace EquipmentBooking

structure TimeOfDay where
  hour : Fin 24
  minute : Fin 60
  deriving DecidableEq, Repr

namespace TimeOfDay

/-- The time of day of an hour and a minute, each taken into its range. -/
def ofNumbers (hour minute : Nat) : TimeOfDay :=
  ⟨Fin.ofNat 24 hour, Fin.ofNat 60 minute⟩

/-- Minutes since midnight. -/
def minutes (t : TimeOfDay) : Nat :=
  t.hour.val * 60 + t.minute.val

def chars (t : TimeOfDay) : List Char :=
  Text.Numeral.padded 2 t.hour.val ++ ':' :: Text.Numeral.padded 2 t.minute.val

def text (t : TimeOfDay) : String :=
  String.ofList t.chars

end TimeOfDay

end EquipmentBooking
