import Mathlib.Data.Int.ModEq
import VmSupport.Long.Basic

/-!
# Wrapping arithmetic is exact arithmetic, reduced once

The operations that wrap can be carried out over the integers instead, and the outcome reduced to a
long at the very end: it makes no difference how often the words overflow in between. A shift to the
left is such an operation too, the product with a power of two (`shl_eq_mul`), and its count is taken
modulo 64, also if it is negative (`shiftCount_eq`).

**The law** (`Expression.value_reduces`): the value of an expression is the one long that is
congruent to its exact value. So two expressions with the same exact value have the same value,
whatever they look like: an expression may be rearranged by any law of the integers.

Quotients, remainders and shifts to the right are not among the operations. They do not respect
congruence.
-/

namespace VmSupport.Long

/-! ## Reducing an integer to a long -/

/-- An integer is congruent to one long, the reduced integer. -/
theorem congruent_iff (v : Int64) (n : Int) :
    v.toInt ≡ n [ZMOD 2 ^ 64] ↔ v = Int64.ofInt n := by
  constructor
  · intro h
    have hmod : v.toInt % (2 ^ 64 : Nat) = n % (2 ^ 64 : Nat) := h
    rw [← Int64.ofInt_toInt v, Int64.ofInt_eq_iff_bmod_eq_toInt, Int64.toInt_ofInt,
      ← Int.emod_bmod, hmod, Int.emod_bmod]
    rfl
  · rintro rfl
    rw [Int64.toInt_ofInt]
    exact Int.bmod_emod

/-! ## Shifts to the left -/

/-- The count of a shift is taken modulo 64. -/
theorem shiftCount_eq (count : Int32) : (shiftCount count : Int) = count.toInt % 64 := by
  have hword : count.toInt % (2 ^ 32 : Nat) = count.toBitVec.toNat % (2 ^ 32 : Nat) := by
    rw [← Int32.toInt_toBitVec, BitVec.toInt_eq_toNat_bmod, Int.bmod_emod]
  calc (shiftCount count : Int)
      = (count.toBitVec.toNat : Int) % (2 ^ 32 : Nat) % 64 := by
        rw [shiftCount, Int.emod_emod_of_dvd _ (by decide)]
        rfl
    _ = count.toInt % 64 := by
        rw [← hword, Int.emod_emod_of_dvd _ (by decide)]

/-- A shift to the left is a product. -/
theorem shl_eq_mul (l : Int64) (count : Int32) :
    shl l count = mul l (Int64.ofInt (2 ^ shiftCount count)) := by
  have hpow : BitVec.ofInt 64 (2 ^ shiftCount count) = BitVec.twoPow 64 (shiftCount count) := by
    apply BitVec.eq_of_toNat_eq
    rw [BitVec.toNat_twoPow, ← BitVec.toNat_ofNat, ← BitVec.ofInt_natCast]
    rfl
  rw [← Int64.toBitVec_inj, shl, mul, Int64.toBitVec_mul, Int64.toBitVec_ofInt, hpow,
    ← BitVec.shiftLeft_eq_mul_twoPow, Int64.toBitVec_ofBitVec]

/-! ## Expressions -/

/-- Expressions over longs, built with the operations that wrap. -/
inductive Expression where
  | long (value : Int64)
  | add (l r : Expression)
  | sub (l r : Expression)
  | mul (l r : Expression)
  | neg (e : Expression)
  | shl (e : Expression) (count : Int32)
  deriving DecidableEq, Repr

namespace Expression

/-- What the wrapping operations make of an expression. -/
def value : Expression → Int64
  | long v => v
  | add l r => Long.add l.value r.value
  | sub l r => Long.sub l.value r.value
  | mul l r => Long.mul l.value r.value
  | neg e => Long.neg e.value
  | shl e count => Long.shl e.value count

/-- What the integers make of it. -/
def exact : Expression → Int
  | long v => v.toInt
  | add l r => l.exact + r.exact
  | sub l r => l.exact - r.exact
  | mul l r => l.exact * r.exact
  | neg e => -e.exact
  | shl e count => e.exact * 2 ^ (count.toInt % 64).toNat

/-- **One reduction at the end** replaces all that happens on the way. -/
theorem value_eq_ofInt (e : Expression) : e.value = Int64.ofInt e.exact := by
  induction e with
  | long v => exact (Int64.ofInt_toInt v).symm
  | add l r hl hr => rw [value, exact, Long.add, hl, hr, Int64.ofInt_add]
  | sub l r hl hr => rw [value, exact, Long.sub, hl, hr, Int64.ofInt_sub]
  | mul l r hl hr => rw [value, exact, Long.mul, hl, hr, Int64.ofInt_mul]
  | neg e he => rw [value, exact, Long.neg, he, Int64.ofInt_neg]
  | shl e count he =>
    have hcount : (count.toInt % 64).toNat = shiftCount count := by
      rw [← shiftCount_eq, Int.toNat_natCast]
    rw [value, exact, shl_eq_mul, Long.mul, he, hcount, Int64.ofInt_mul]

/-- A count of minus one shifts by 63. -/
example : (shl (long 3) (-1)).value = Int64.minValue := by decide

/-- **Wrapping arithmetic is exact arithmetic, reduced once**: the value of an expression is the one
long congruent to its exact value, and another expression has that value exactly if its exact value
is congruent to this one. In particular it has it if the two exact values are equal. -/
theorem value_reduces (e : Expression) :
    (∀ v : Int64, v.toInt ≡ e.exact [ZMOD 2 ^ 64] ↔ v = e.value) ∧
    ∀ e' : Expression, e'.exact ≡ e.exact [ZMOD 2 ^ 64] ↔ e'.value = e.value := by
  have hvalue (f : Expression) (v : Int64) : v.toInt ≡ f.exact [ZMOD 2 ^ 64] ↔ v = f.value := by
    rw [congruent_iff, value_eq_ofInt]
  refine ⟨hvalue e, fun e' => ?_⟩
  have hself : e'.value.toInt ≡ e'.exact [ZMOD 2 ^ 64] := (hvalue e' _).mpr rfl
  rw [← hvalue e]
  exact ⟨hself.trans, hself.symm.trans⟩

end Expression

end VmSupport.Long
