import VmSupport.Fault

/-!
# Long arithmetic

The operations on 64-bit two's-complement integers that generated code calls. Sums, differences,
products and negations wrap. Quotients are cut toward zero and remainders take the sign of the
dividend; the smallest integer divided by minus one wraps to itself, and its remainder is zero. A
zero divisor is a fault, or an error value in the checked variants. Of a shift count only the low
six bits matter, so that a negative count shifts too.
-/

namespace VmSupport.Long

/-- The operations on two longs whose result is a long. -/
inductive Binary where
  | add
  | sub
  | mul
  | div
  | rem
  deriving DecidableEq, Repr

/-- The shifts: to the left, to the right with the sign, and to the right with zeros. -/
inductive Shift where
  | left
  | right
  | unsignedRight
  deriving DecidableEq, Repr

/-- The error of the checked division and the checked remainder. -/
inductive CheckedError where
  | divisionByZero
  deriving DecidableEq, Repr

/-- The text of a checked error. -/
def CheckedError.message : CheckedError → String
  | .divisionByZero => "division by zero"

/-- The name of a checked error. -/
def CheckedError.name : CheckedError → String
  | .divisionByZero => "DivisionByZero"

/-- The wrapping sum. -/
def add (l r : Int64) : Int64 := l + r

/-- The wrapping difference. -/
def sub (l r : Int64) : Int64 := l - r

/-- The wrapping product. -/
def mul (l r : Int64) : Int64 := l * r

/-- The wrapping negation. -/
def neg (l : Int64) : Int64 := -l

/-- The quotient cut toward zero. -/
def div (l r : Int64) : Except Fault Int64 :=
  if r = 0 then .error .divideByZero else .ok (l / r)

/-- The remainder of the quotient cut toward zero. -/
def rem (l r : Int64) : Except Fault Int64 :=
  if r = 0 then .error .remainderByZero else .ok (l % r)

/-- The quotient cut toward zero, with an error value for a zero divisor. -/
def checkedDiv (l r : Int64) : Except CheckedError Int64 :=
  if r = 0 then .error .divisionByZero else .ok (l / r)

/-- The remainder of that quotient, with an error value for a zero divisor. -/
def checkedRem (l r : Int64) : Except CheckedError Int64 :=
  if r = 0 then .error .divisionByZero else .ok (l % r)

/-- The low six bits of a shift count. -/
def shiftCount (s : Int32) : Nat :=
  s.toBitVec.toNat % 64

/-- The shift to the left. -/
def shl (l : Int64) (s : Int32) : Int64 :=
  Int64.ofBitVec (l.toBitVec <<< shiftCount s)

/-- The shift to the right that repeats the sign bit. -/
def shr (l : Int64) (s : Int32) : Int64 :=
  Int64.ofBitVec (l.toBitVec.sshiftRight (shiftCount s))

/-- The shift to the right that brings in zeros. -/
def ushr (l : Int64) (s : Int32) : Int64 :=
  Int64.ofBitVec (l.toBitVec >>> shiftCount s)

/-- The order of two longs. -/
def cmp (l r : Int64) : Ordering :=
  if l < r then .lt else if r < l then .gt else .eq

/-- An order as a number: `-1`, `0` or `1`. -/
def sign : Ordering → Int32
  | .lt => -1
  | .eq => 0
  | .gt => 1

/-- The result of a binary operation. -/
def Binary.eval : Binary → Int64 → Int64 → Except Fault Int64
  | .add, l, r => .ok (Long.add l r)
  | .sub, l, r => .ok (Long.sub l r)
  | .mul, l, r => .ok (Long.mul l r)
  | .div, l, r => Long.div l r
  | .rem, l, r => Long.rem l r

/-- The result of a shift. -/
def Shift.eval : Shift → Int64 → Int32 → Int64
  | .left, l, s => Long.shl l s
  | .right, l, s => Long.shr l s
  | .unsignedRight, l, s => Long.ushr l s

theorem shiftCount_lt (s : Int32) : shiftCount s < 64 :=
  Nat.mod_lt _ (by decide)

/-- The checked division is the faulting one with the fault turned into an error value. -/
theorem checkedDiv_eq (l r : Int64) :
    checkedDiv l r = (div l r).mapError fun _ => .divisionByZero := by
  unfold checkedDiv div
  split <;> rfl

/-- The checked remainder is the faulting one with the fault turned into an error value. -/
theorem checkedRem_eq (l r : Int64) :
    checkedRem l r = (rem l r).mapError fun _ => .divisionByZero := by
  unfold checkedRem rem
  split <;> rfl

end VmSupport.Long
