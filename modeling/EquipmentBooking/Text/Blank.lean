/-! White space at the edges of typed text. The class is Unicode's `White_Space` property, which is
wider than the ASCII blanks: a no-break space and an ideographic space count, a zero-width space and a
byte order mark do not. -/
namespace EquipmentBooking.Text

/-- The characters with the Unicode property `White_Space`. -/
def isBlank (c : Char) : Bool :=
  let n := c.toNat
  (0x09 ≤ n && n ≤ 0x0D) || n == 0x20 || n == 0x85 || n == 0xA0 || n == 0x1680 ||
    (0x2000 ≤ n && n ≤ 0x200A) || n == 0x2028 || n == 0x2029 || n == 0x202F || n == 0x205F ||
    n == 0x3000

/-- Drop the longest tail all of whose elements satisfy `p`. -/
def dropTail {α : Type} (p : α → Bool) : List α → List α
  | [] => []
  | a :: rest =>
    match dropTail p rest with
    | [] => if p a then [] else [a]
    | kept => a :: kept

def trimStart (s : List Char) : List Char :=
  s.dropWhile isBlank

def trimEnd (s : List Char) : List Char :=
  dropTail isBlank s

def trimChars (s : List Char) : List Char :=
  trimEnd (trimStart s)

def trim (s : String) : String :=
  String.ofList (trimChars s.toList)

def IsBlankText (s : String) : Prop :=
  ∀ c ∈ s.toList, isBlank c = true

instance (s : String) : Decidable (IsBlankText s) :=
  List.decidableBAll (fun c => isBlank c = true) s.toList

end EquipmentBooking.Text
