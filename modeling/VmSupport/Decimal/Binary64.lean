import VmSupport.Decimal.Natural

/-!
# Binary floating point of 64 bits

A finite number of this format is a natural number of at most 53 bits times a power of two, with a
sign. Reading a decimal gives the number nearest to it; of two that are equally near, the one with
the even significand. Past the largest finite number reading gives an infinity, and below half of
the smallest positive one it gives a zero. Everything here is exact arithmetic on natural numbers.
-/

namespace VmSupport.Decimal

/-- A number of the format: `significand * 2 ^ exponent` with a sign, or one of the others. -/
inductive Binary64 where
  | nan
  | infinite (negative : Bool)
  | finite (negative : Bool) (significand : Nat) (exponent : Int)
  deriving DecidableEq, Repr

/-- The ratio `num / den` times a power of a base, as a ratio. -/
def scaleRatio (base : Nat) (power : Int) (num den : Nat) : Nat × Nat :=
  if 0 ≤ power then (num * base.pow power.toNat, den) else (num, den * base.pow (-power).toNat)

/-- The quotient rounded to the nearest natural number, a tie going to the even one. -/
def roundHalfEven (num den : Nat) : Nat :=
  let q := num / den
  let twice := 2 * (num % den)
  if den < twice ∨ (twice = den ∧ q % 2 = 1) then q + 1 else q

/-- The exponent of the largest power of two that does not exceed a positive ratio. -/
def floorLog2 (num den : Nat) : Int :=
  let k : Int := (Nat.log2 num : Int) - Nat.log2 den
  let (n, d) := scaleRatio 2 (-k) num den
  if n < d then k - 1 else k

namespace Binary64

/-- The number of bits of a significand. -/
def significandBits : Nat := 53

/-- The exponent of the smallest positive number. -/
def minExponent : Int := -1074

/-- The exponent of the largest finite number, its significand being a whole one. -/
def maxExponent : Int := 971

/-- The zero of a sign. -/
def zero (negative : Bool) : Binary64 := .finite negative 0 minExponent

/-- The number nearest to a ratio. -/
def ofRatio (negative : Bool) (num den : Nat) : Binary64 :=
  if num = 0 then
    zero negative
  else
    let exponent := max (floorLog2 num den - (significandBits - 1 : Nat)) minExponent
    let (n, d) := scaleRatio 2 (-exponent) num den
    let rounded := roundHalfEven n d
    let carries := rounded = Nat.pow 2 significandBits
    let significand := if carries then Nat.pow 2 (significandBits - 1) else rounded
    let exponent := if carries then exponent + 1 else exponent
    if maxExponent < exponent then .infinite negative else .finite negative significand exponent

/-- The number nearest to `coefficient * 10 ^ power`. A decimal far outside the range of the format
is decided by its magnitude alone. -/
def ofDecimal (negative : Bool) (coefficient : Nat) (power : Int) : Binary64 :=
  let magnitude := power + (digits coefficient).length
  if coefficient = 0 ∨ magnitude < -330 then
    zero negative
  else if 310 < magnitude then
    .infinite negative
  else
    let (num, den) := scaleRatio 10 power coefficient 1
    ofRatio negative num den

end Binary64

end VmSupport.Decimal
