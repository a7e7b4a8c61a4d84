import VmSupport.Fault

/-!
# Natural numbers in decimal

Writing gives the digits without leading zeros. Reading a machine word is more liberal: a plus sign
may stand in front, and zeros may lead, in any number. A word that does not fit into 64 bits is
refused.
-/

namespace VmSupport.Decimal

/-- The decimal digits of a number, without leading zeros. -/
def digits (n : Nat) : List Char :=
  Nat.toDigits 10 n

/-- The number that decimal digits stand for. -/
def value (cs : List Char) : Nat :=
  Nat.ofDigitChars 10 cs 0

/-- Drops one plus sign at the front. -/
def dropPlus : List Char → List Char
  | '+' :: cs => cs
  | cs => cs

/-- Reads a machine word: digits, at least one, after an optional plus sign. -/
def readWord? (cs : List Char) : Option Nat :=
  let ds := dropPlus cs
  if ds ≠ [] ∧ ds.all Char.isDigit ∧ value ds < Fault.wordLimit then some (value ds) else none

/-- Reading back what was written gives the number. -/
@[simp] theorem value_digits (n : Nat) : value (digits n) = n :=
  Nat.ofDigitChars_ten_toDigits

end VmSupport.Decimal
