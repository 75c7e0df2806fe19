import EquipmentBooking.Text.Utf8
import EquipmentBooking.Url.Domain.Label

namespace EquipmentBooking.Url.Domain

def readLabels? (name : List Char) : Option (List (List Char)) :=
  (mapText? name).bind fun plain =>
    ((splitOn '.' plain).mapM readLabel?).bind fun labels =>
      if directionsFit labels then some labels else none

def ofBytes? (bytes : List UInt8) : Option (List Char) :=
  (Text.Utf8.decode? bytes).bind fun name =>
    (readLabels? name).map fun labels => List.intercalate ['.'] (labels.map writeLabel)

end EquipmentBooking.Url.Domain
