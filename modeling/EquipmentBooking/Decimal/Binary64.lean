/-! Non-negative double-precision numbers as exact values. Every operation computes the exact ratio and
rounds once, to the nearest number, a tie going to the even significand. -/
namespace EquipmentBooking.Decimal

/-- The number `significand * 2 ^ exponent`. -/
structure Binary64 where
  significand : Nat
  exponent : Int
  deriving DecidableEq, Repr

/-- The quotient rounded to the nearest whole number, a tie to the even one. -/
def roundHalfEven (num den : Nat) : Nat :=
  let q := num / den
  let twice := 2 * (num % den)
  if twice < den then q
  else if den < twice then q + 1
  else if q % 2 = 0 then q else q + 1

/-- The largest `e` with `2 ^ e ≤ num / den`, for positive arguments. -/
def floorLog2 (num den : Nat) : Int :=
  let guess : Int := (Nat.log2 num : Int) - (Nat.log2 den : Int)
  if den * Nat.pow 2 guess.toNat ≤ num * Nat.pow 2 (-guess).toNat then guess else guess - 1

namespace Binary64

/-- The nearest number to a ratio, `none` if that lies beyond the largest one. -/
def ofRatio? (num den : Nat) : Option Binary64 :=
  if num = 0 then some ⟨0, -1074⟩
  else
    let q := max (floorLog2 num den - 52) (-1074)
    let m := roundHalfEven (num * Nat.pow 2 (-q).toNat) (den * Nat.pow 2 q.toNat)
    let rounded : Binary64 := if m = Nat.pow 2 53 then ⟨Nat.pow 2 52, q + 1⟩ else ⟨m, q⟩
    if 971 < rounded.exponent then none else some rounded

def num (x : Binary64) : Nat :=
  x.significand * Nat.pow 2 x.exponent.toNat

def den (x : Binary64) : Nat :=
  Nat.pow 2 (-x.exponent).toNat

def mul? (x y : Binary64) : Option Binary64 :=
  ofRatio? (x.num * y.num) (x.den * y.den)

def div? (x y : Binary64) : Option Binary64 :=
  ofRatio? (x.num * y.den) (x.den * y.num)

/-- The nearest number to `significand * 10 ^ power`, reached in rounded steps: the significand is
rounded first, and so is each power of ten it is multiplied with or divided by, of which none
exceeds `10 ^ 308`. The steps round again, so the last digit may differ from the nearest one. -/
def scale? (significand : Nat) (power : Int) : Option Binary64 :=
  (ofRatio? significand 1).bind fun x =>
    if 0 ≤ power then
      if x.significand = 0 then some x
      else if 308 < power then none
      else (ofRatio? (Nat.pow 10 power.toNat) 1).bind x.mul?
    else
      divideByTens (-power).toNat x ((-power).toNat / 308 + 1)
where
  /-- Divide by `10 ^ power` in steps of at most `10 ^ 308`. -/
  divideByTens (power : Nat) (x : Binary64) : Nat → Option Binary64
    | 0 => some x
    | steps + 1 =>
      if power ≤ 308 then (ofRatio? (Nat.pow 10 power) 1).bind x.div?
      else if x.significand = 0 then some x
      else ((ofRatio? (Nat.pow 10 308) 1).bind x.div?).bind fun y =>
        divideByTens (power - 308) y steps

end Binary64

end EquipmentBooking.Decimal
