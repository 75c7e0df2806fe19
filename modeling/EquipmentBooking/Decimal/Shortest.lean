import EquipmentBooking.Decimal.Binary64

/-! The shortest decimal text that reads back as a given double-precision number. On the grid of `n`
significant digits only the two neighbours of the number can be nearest to it. -/
namespace EquipmentBooking.Decimal

/-- A positive decimal number: the digits and the power of ten of the last one. -/
structure Digits where
  digits : Nat
  power : Int
  deriving DecidableEq, Repr

def floorLog10 (num den : Nat) : Int :=
  if den ≤ num then ((Nat.toDigits 10 (num / den)).length : Int) - 1
  else -((Nat.toDigits 10 ((den + num - 1) / num - 1)).length : Int)

namespace Binary64

/-- Four times the distance from zero to the number and to the two ends of its rounding interval,
in units of its last binary place: lower end, number, upper end. -/
def quarters (x : Binary64) : Nat × Nat × Nat :=
  let mid := 4 * x.significand
  let low := if x.significand = Nat.pow 2 52 ∧ -1074 < x.exponent then mid - 1 else mid - 2
  (low, mid, mid + 2)

/-- Whether `d * 10 ^ power` rounds to the number. The ends of the interval belong to it when the
significand is even. -/
def admits (x : Binary64) (d : Nat) (power : Int) : Bool :=
  let (low, _, high) := x.quarters
  let unit := Nat.pow 2 x.exponent.toNat * Nat.pow 10 (-power).toNat
  let point := 4 * d * Nat.pow 10 power.toNat * Nat.pow 2 (-x.exponent).toNat
  if x.significand % 2 = 0 then low * unit ≤ point && point ≤ high * unit
  else low * unit < point && point < high * unit

/-- The grid neighbour that stands for the number at a power of ten, if one does. Of two the nearer
is taken, and of two equally near ones the even one. -/
def neighbour? (x : Binary64) (power : Int) : Option Nat :=
  let num := x.num * Nat.pow 10 (-power).toNat
  let den := x.den * Nat.pow 10 power.toNat
  let below := num / den
  let nearest := roundHalfEven num den
  let other := if nearest = below then below + 1 else below
  if x.admits nearest power then some nearest
  else if x.admits other power then some other
  else none

/-- Try the grids of `tried + 1`, `tried + 2`, … digits. Seventeen digits always suffice. -/
def shortestFrom (x : Binary64) (tried : Nat) : Nat → Digits
  | 0 => ⟨0, 0⟩
  | fuel + 1 =>
    let power := floorLog10 x.num x.den - (tried : Int)
    match x.neighbour? power with
    | some d => ⟨d, power⟩
    | none => shortestFrom x (tried + 1) fuel

/-- The shortest decimal that reads back as a positive number. -/
def shortest (x : Binary64) : Digits :=
  x.shortestFrom 0 17

end Binary64

structure TextForm where
  leastPositional : Int
  mostPositional : Int

/-- Numbers are written positionally from five places behind the point to sixteen in front of it. -/
def plainForm : TextForm := ⟨-5, 15⟩

/-- The text of a decimal: positional with at least one place behind the point, or a significand and
a signed exponent. -/
def TextForm.write (form : TextForm) (x : Digits) : List Char :=
  let ds := Nat.toDigits 10 x.digits
  let ds := match (ds.reverse.dropWhile (· == '0')).reverse with
    | [] => ['0']
    | kept => kept
  let lead : Int := x.power + ((Nat.toDigits 10 x.digits).length : Int) - 1
  if form.leastPositional ≤ lead && lead ≤ form.mostPositional then
    if lead < 0 then
      ['0', '.'] ++ List.replicate (-lead - 1).toNat '0' ++ ds
    else
      let whole := lead.toNat + 1
      let behind := ds.drop whole
      ds.take whole ++ List.replicate (whole - ds.length) '0' ++ ['.'] ++
        (if behind.isEmpty then ['0'] else behind)
  else
    let behind := ds.drop 1
    ds.take 1 ++ (if behind.isEmpty then [] else '.' :: behind) ++ ['e'] ++
      (if lead < 0 then ['-'] else ['+']) ++ Nat.toDigits 10 lead.natAbs

/-- The text of a number with its sign. Zero keeps its sign too. -/
def Binary64.text (negative : Bool) (x : Binary64) : String :=
  let body := if x.significand = 0 then ['0', '.', '0'] else plainForm.write x.shortest
  String.ofList (if negative then '-' :: body else body)

end EquipmentBooking.Decimal
