import VmSupport.Decimal.Natural
import VmSupport.Text.Blank
import VmSupport.Text.LowerCase

/-!
# Byte sizes with a unit

A byte size is a number with an optional unit letter behind it: `k`, `m` or `g` for 2^10, 2^20 and
2^30 bytes. Blanks are allowed around the whole and between the number and its unit. The text is
put into lower case first, so a capital letter is a unit as well, and so is the Kelvin sign. The
size is exact: one that does not fit into a machine word, before or after the unit is applied, is
refused.
-/

namespace VmSupport.Settings

/-- The units of a byte size. -/
inductive SizeUnit where
  | kibi
  | mebi
  | gibi
  deriving DecidableEq, Repr

namespace SizeUnit

/-- The number of bytes in one unit. -/
def bytes : SizeUnit → Nat
  | kibi => Nat.pow 2 10
  | mebi => Nat.pow 2 20
  | gibi => Nat.pow 2 30

/-- The unit that a letter stands for. -/
def ofChar? : Char → Option SizeUnit
  | 'k' => some kibi
  | 'm' => some mebi
  | 'g' => some gibi
  | _ => none

end SizeUnit

/-- Splits a text into what stands before its unit letter and the number of bytes in the unit;
without a unit letter the whole text counts single bytes. -/
def splitUnit (cs : List Char) : List Char × Nat :=
  match cs.getLast?.bind SizeUnit.ofChar? with
  | some u => (cs.dropLast, u.bytes)
  | none => (cs, 1)

/-- The product of a count and a unit, unless it is no machine word. -/
def scale? (count unit : Nat) : Option Nat :=
  if count * unit < Fault.wordLimit then some (count * unit) else none

/-- Reads a byte size. -/
def readSizeChars? (cs : List Char) : Option Nat :=
  let (count, unit) := splitUnit (Text.lowerChars (Text.trimChars cs))
  (Decimal.readWord? (Text.trimChars count)).bind (scale? · unit)

/-- Reads a byte size. -/
def readSize? (s : String) : Option Nat :=
  readSizeChars? s.toList

end VmSupport.Settings
