/-! Punycode: names of any characters written with ASCII letters, digits and hyphens. The ASCII
characters come first; the others follow as the distances between their insertions. -/
namespace EquipmentBooking.Url.Punycode

def digitChar (d : Nat) : Char :=
  Char.ofNat (if d < 26 then 0x61 + d else 0x16 + d)

def digitValue? (c : Char) : Option Nat :=
  let n := c.toNat
  if 0x61 ≤ n ∧ n ≤ 0x7A then some (n - 0x61)
  else if 0x41 ≤ n ∧ n ≤ 0x5A then some (n - 0x41)
  else if 0x30 ≤ n ∧ n ≤ 0x39 then some (n - 0x16)
  else none

/-- The threshold at a position: digits below it end a number. -/
def threshold (position bias : Nat) : Nat :=
  min 26 (max 1 (position - bias))

/-- Reduce a distance until it fits the range in which the bias is linear. -/
def adaptSteps : Nat → Nat → Nat → Nat × Nat
  | 0, distance, steps => (distance, steps)
  | fuel + 1, distance, steps =>
    if 455 < distance then adaptSteps fuel (distance / 35) (steps + 36) else (distance, steps)

/-- The bias after a distance. `inserted` counts the characters of the name so far. -/
def adapt (distance inserted : Nat) (first : Bool) : Nat :=
  let halved := if first then distance / 700 else distance / 2
  let scaled := halved + halved / inserted
  let (rest, steps) := adaptSteps scaled scaled 0
  steps + 36 * rest / (rest + 38)

/-- The digits of a distance. Each step divides by at least ten, so the distance bounds the steps. -/
def writeDistance (bias : Nat) : Nat → Nat → Nat → List Char
  | 0, _, _ => []
  | fuel + 1, position, distance =>
    let t := threshold position bias
    if distance < t then [digitChar distance]
    else
      digitChar (t + (distance - t) % (36 - t)) ::
        writeDistance bias fuel (position + 36) ((distance - t) / (36 - t))

/-- The state of the writer: what is written, the distance since the last insertion, the bias, and how
many characters of the name are done. -/
structure Writer where
  written : List Char
  distance : Nat
  bias : Nat
  done : Nat

/-- Pass one character of the name while the characters with number `current` are inserted. -/
def Writer.pass (basic current : Nat) (w : Writer) (c : Char) : Writer :=
  if c.toNat < current then { w with distance := w.distance + 1 }
  else if c.toNat = current then
    { written := w.written ++ writeDistance w.bias (w.distance + 1) 36 w.distance
      distance := 0
      bias := adapt w.distance (w.done + 1) (w.done == basic)
      done := w.done + 1 }
  else w

def Writer.insertAll (name : List Char) (basic : Nat) : Nat → List Nat → Writer → Writer
  | _, [], w => w
  | previous, current :: rest, w =>
    let reached := { w with distance := w.distance + (current - previous) * (w.done + 1) }
    let passed := name.foldl (Writer.pass basic current) reached
    Writer.insertAll name basic (current + 1) rest { passed with distance := passed.distance + 1 }

def encode (name : List Char) : List Char :=
  let basic := name.filter fun c => c.toNat < 0x80
  let others := ((name.filter fun c => 0x80 ≤ c.toNat).map Char.toNat).mergeSort.eraseDups
  let prelude := if basic.isEmpty then [] else basic ++ ['-']
  let start : Writer := ⟨prelude, 0, 72, basic.length⟩
  (Writer.insertAll name basic.length 0x80 others start).written

/-- Read one distance: the digits from a position on, with the weight of the next digit. -/
def readDistance (bias : Nat) : Nat → Nat → Nat → List Char → Option (Nat × List Char)
  | _, _, _, [] => none
  | position, weight, value, c :: rest =>
    (digitValue? c).bind fun d =>
      let t := threshold position bias
      if d < t then some (value + d * weight, rest)
      else readDistance bias (position + 36) (weight * (36 - t)) (value + d * weight) rest

def readAll : Nat → (current place bias : Nat) → (first : Bool) → List Char → List Char →
    Option (List Char)
  | _, _, _, _, _, name, [] => some name
  | 0, _, _, _, _, _, _ => none
  | fuel + 1, current, place, bias, first, name, c :: rest =>
    (readDistance bias 36 1 0 (c :: rest)).bind fun (distance, after) =>
      let total := place + distance
      let length := name.length + 1
      let number := current + total / length
      if 0x10FFFF < number ∨ (0xD800 ≤ number ∧ number ≤ 0xDFFF) then none
      else
        let spot := total % length
        readAll fuel number (spot + 1) (adapt distance length first) false
          (name.take spot ++ Char.ofNat number :: name.drop spot) after

/-- The name that a written form stands for. The ASCII characters, if there are any, stand in front of the
last hyphen. -/
def decode? (s : List Char) : Option (List Char) :=
  let tail := (s.reverse.takeWhile (· != '-')).reverse
  let basic := s.take (s.length - tail.length - 1)
  if s.head? = some '-' ∧ basic.isEmpty then none
  else readAll (tail.length + 1) 0x80 0 72 true basic tail

end EquipmentBooking.Url.Punycode
