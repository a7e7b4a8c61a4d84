import Mathlib.Algebra.GroupWithZero.Nat
import Mathlib.Order.Bounds.Defs
import VmSupport.Heap.Align

/-!
# What rounding a request comes to

The heap rounds by clearing bits of a machine word. Here the rounding is a number: `roundUp` is the
least multiple of the granule that is no smaller than the request (`roundUp_isLeast`).

**The law** (`roundedSize_eq`): a request that is not negative takes up `roundUp` bytes, and a
negative one is refused. That the word addition does not wrap is where a request is a signed word of
32 bits.
-/

namespace VmSupport.Heap

/-! ## Clearing the low bits of a word -/

/-- Clearing the bits below the `k`-th leaves the multiple of `2 ^ k` below the word. -/
theorem and_not_lowMask_toNat {x mask : UInt64} {k : Nat} (hmask : mask.toNat = 2 ^ k - 1) :
    (x &&& ~~~mask).toNat = x.toNat / 2 ^ k * 2 ^ k := by
  have hnot : (~~~mask).toNat = 2 ^ 64 - (mask.toNat + 1) := by
    rw [UInt64.toNat_not, UInt64.size]
    omega
  apply Nat.eq_of_testBit_eq
  intro i
  rw [UInt64.toNat_and, Nat.testBit_and, hnot, Nat.testBit_two_pow_sub_succ mask.toNat_lt, hmask,
    Nat.testBit_two_pow_sub_one, Nat.testBit_mul_two_pow, Nat.testBit_div_two_pow]
  by_cases hlow : i < k
  · simp only [hlow, decide_true, Bool.not_true, Bool.and_false, Nat.not_le.mpr hlow, decide_false,
      Bool.false_and]
  · have hki : k ≤ i := Nat.le_of_not_lt hlow
    rw [Nat.sub_add_cancel hki]
    by_cases hi : i < 64
    · simp only [hlow, hi, hki, decide_true, decide_false, Bool.not_false, Bool.and_true,
        Bool.true_and]
    · -- past the last bit of the word there is nothing to clear
      have hbit : x.toNat.testBit i = false := Nat.testBit_lt_two_pow
        (Nat.lt_of_lt_of_le x.toNat_lt (Nat.pow_le_pow_right (by decide) (Nat.le_of_not_lt hi)))
      simp only [hbit, Bool.false_and, Bool.and_false]

/-- **Rounding a word**: for a power of two, and where the addition stays among the words, the masks
compute the quotient rounded up, times the power. -/
theorem alignUp_toNat {v align : UInt64} {k : Nat} (halign : align.toNat = 2 ^ k)
    (hfits : v.toNat + align.toNat ≤ 2 ^ 64) :
    (alignUp v align).toNat = (v.toNat + 2 ^ k - 1) / 2 ^ k * 2 ^ k := by
  have hpos : 0 < 2 ^ k := Nat.two_pow_pos k
  have hone : (1 : UInt64).toNat = 1 := rfl
  have hmask : (align - 1).toNat = 2 ^ k - 1 := by
    rw [UInt64.toNat_sub, hone]
    omega
  have hsum : (v + align - 1).toNat = v.toNat + 2 ^ k - 1 := by
    rw [UInt64.toNat_sub, UInt64.toNat_add, hone]
    omega
  show ((v + align - 1) &&& ~~~(align - 1)).toNat = _
  rw [and_not_lowMask_toNat hmask, hsum]

/-! ## Requests -/

/-- The granule of a block, as a number of bytes. -/
def granuleBytes : Nat := granule.toNat

/-- The number of bytes that a request takes up: the size rounded up to granules, and nothing for a
negative size. -/
def roundUp (size : Int32) : Nat :=
  (size.toInt.toNat + granuleBytes - 1) / granuleBytes * granuleBytes

theorem granuleBytes_eq : granuleBytes = 4 := rfl

theorem granuleBytes_dvd_roundUp (size : Int32) : granuleBytes ∣ roundUp size :=
  Nat.dvd_mul_left _ _

/-- **What is taken up is the least multiple of the granule that holds the request.** -/
theorem roundUp_isLeast (size : Int32) :
    IsLeast {bytes : Nat | granuleBytes ∣ bytes ∧ size.toInt ≤ bytes} (roundUp size) := by
  refine ⟨⟨granuleBytes_dvd_roundUp size, ?_⟩, ?_⟩
  · simp only [roundUp, granuleBytes_eq]
    omega
  · rintro bytes ⟨⟨q, rfl⟩, hle⟩
    simp only [roundUp, granuleBytes_eq] at hle ⊢
    omega

/-- **Rounding a request**: a negative size is refused, and any other takes up `roundUp` bytes. -/
theorem roundedSize_eq (size : Int32) :
    roundedSize size = if size < 0 then .error (.invalidSize size) else .ok (roundUp size) := by
  unfold roundedSize
  split
  · rfl
  · have hlt := size.toInt_lt
    have hword : (UInt64.ofNat size.toInt.toNat).toNat = size.toInt.toNat :=
      UInt64.toNat_ofNat_of_lt' (Nat.lt_of_lt_of_le (by omega : _ < 2 ^ 31) (by decide))
    have hgranule : granule.toNat = 2 ^ 2 := rfl
    rw [alignUp_toNat hgranule (by omega), hword]
    rfl

end VmSupport.Heap
