import VmSupport.Decimal.Binary64

/-!
# The shortest decimal that reads back

A finite number stands for every real number that rounds to it, an interval around it. The shortest
decimal is a point of that interval with as few digits as possible, and of those the nearest to the
number; of two equally near ones the larger.

**How it is found.** Decimals with a given number of digits form a grid. If any grid point lies in
the interval, then so does one of the number's two neighbours on the grid, so it is enough to try
those two for one digit, two digits, and so on. Seventeen digits always suffice.
-/

namespace VmSupport.Decimal

/-- The interval of a number in quarters of its last place: the lower end, the number itself and the
upper end. Below a power of two the numbers lie twice as dense. -/
def interval (significand : Nat) (exponent : Int) : Nat × Nat × Nat :=
  let m := 4 * significand
  let isPower := significand = Nat.pow 2 (Binary64.significandBits - 1) ∧
    Binary64.minExponent < exponent
  (if isPower then m - 1 else m - 2, m, m + 2)

/-- The number of times that a ratio below one has to be multiplied by ten to reach one. -/
def timesTen (num den : Nat) : Nat → Nat
  | 0 => 0
  | fuel + 1 => if den ≤ num then 0 else timesTen (num * 10) den fuel + 1

/-- The exponent of the largest power of ten that does not exceed a positive ratio; the ratio must
not be smaller than the smallest positive number of the format. -/
def floorLog10 (num den : Nat) : Int :=
  if den ≤ num then ((digits (num / den)).length : Int) - 1 else -(timesTen num den 400 : Int)

/-- The better of the two neighbours of a number on the grid of the multiples of `10 ^ power`, if one
of them lies in the interval. -/
def nearestOnGrid (significand : Nat) (exponent power : Int) : Option Nat :=
  let (low, mid, high) := interval significand exponent
  let quarter := exponent - 2
  let step := Nat.pow 10 power.toNat * Nat.pow 2 (-quarter).toNat
  let unit := Nat.pow 2 quarter.toNat * Nat.pow 10 (-power).toNat
  let inside (c : Nat) : Bool :=
    if significand % 2 = 0 then
      decide (low * unit ≤ c * step ∧ c * step ≤ high * unit)
    else
      decide (low * unit < c * step ∧ c * step < high * unit)
  let below := mid * unit / step
  let above := below + 1
  match inside below, inside above with
  | true, true =>
    if above * step - mid * unit ≤ mid * unit - below * step then some above else some below
  | true, false => some below
  | false, true => some above
  | false, false => none

/-- Tries the grids one after another, from `count` digits on. -/
def shortestFrom (significand : Nat) (exponent top : Int) (count : Nat) : Nat → Nat × Int
  | 0 => (significand, 0)
  | fuel + 1 =>
    let power := top - count + 1
    match nearestOnGrid significand exponent power with
    | some c => (c, power)
    | none => shortestFrom significand exponent top (count + 1) fuel

/-- The shortest decimal of a positive number, as a coefficient and a power of ten. -/
def shortest (significand : Nat) (exponent : Int) : Nat × Int :=
  let (num, den) := scaleRatio 2 exponent significand 1
  shortestFrom significand exponent (floorLog10 num den) 1 17

/-- Writes `coefficient * 10 ^ power` without an exponent and with at least one digit on either side
of the point. -/
def positional (coefficient : Nat) (power : Int) : List Char :=
  let all := digits coefficient
  let bare := (all.reverse.dropWhile (· == '0')).reverse
  let ds := if bare.isEmpty then ['0'] else bare
  let power := if bare.isEmpty then 0 else power + (all.length - bare.length : Nat)
  if 0 ≤ power then
    ds ++ List.replicate power.toNat '0' ++ ['.', '0']
  else
    let places := (-power).toNat
    let padded := List.replicate (places + 1 - ds.length) '0' ++ ds
    padded.take (padded.length - places) ++ '.' :: padded.drop (padded.length - places)

/-- The text of a number: its shortest decimal in positional notation. -/
def Binary64.render : Binary64 → String
  | .nan => "NaN"
  | .infinite negative => if negative then "-inf" else "inf"
  | .finite negative significand exponent =>
    let shown :=
      if significand = 0 then
        positional 0 0
      else
        let (c, p) := shortest significand exponent
        positional c p
    String.ofList (if negative then '-' :: shown else shown)

end VmSupport.Decimal
