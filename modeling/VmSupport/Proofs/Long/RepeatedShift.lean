import VmSupport.Proofs.Long.RightShift

/-!
# Shifts one after another

A shift moves bits to other places. Bit `i` of the result is one of the bits that are shifted, or a
zero, and which one it is takes an addition or a subtraction to say (`bit_shl`, `bit_ushr`,
`bit_shr`). The shift with the sign brings in no bits of its own: where the places run out, it goes
on with the sign bit. So what several shifts do is read off the places, without a look at the longs.

**The law** (`shifts_twice`) has two parts. Two shifts of one kind add up, also beyond the range of a
count. There a shift by the sum of the counts would be wrong, because a count is taken modulo 64:
nothing is left of the bits, or the sign bit alone. And a shift is taken back by a shift the other
way, up to the bits that it moved out of the long. What stands in their places depends on the second
shift: zeros, or copies of the bit that had become the sign bit.
-/

namespace VmSupport.Long

/-! ## Counts -/

/-- The low six bits of a count, as a number. -/
def lowBits (s : Int32) : Nat :=
  (s.toBitVec.setWidth 6).toNat

/-- What matters of a count are its low six bits. -/
theorem lowBits_eq (s : Int32) : lowBits s = shiftCount s :=
  BitVec.toNat_setWidth 6 s.toBitVec

/-- A number below 64 is taken as it is. -/
theorem shiftCount_ofNat {k : Nat} (h : k < 64) : shiftCount (.ofNat k) = k := by
  have hword : (Int32.ofNat k).toBitVec.toNat = k := Nat.mod_eq_of_lt (by omega)
  rw [shiftCount, hword, Nat.mod_eq_of_lt h]

/-! ## The places of the bits -/

/-- The bit at a place, counted from the lowest one. Past the sign bit there are zeros. -/
def bit (l : Int64) (i : Nat) : Bool :=
  l.toBitVec.getLsbD i

theorem bit_of_le {l : Int64} {i : Nat} (h : 64 ≤ i) : bit l i = false :=
  BitVec.getLsbD_of_ge _ i h

theorem bit_zero (i : Nat) : bit 0 i = false :=
  BitVec.getLsbD_zero

/-- Longs with the same bits are the same. -/
theorem ext_bit {l r : Int64} (h : ∀ i < 64, bit l i = bit r i) : l = r :=
  Int64.toBitVec_inj.mp (BitVec.eq_of_getLsbD_eq h)

section

variable {l : Int64} {s : Int32} {i : Nat}

theorem bit_shl (h : i < 64) :
    bit (shl l s) i = if shiftCount s ≤ i then bit l (i - shiftCount s) else false := by
  rw [bit, shl, Int64.toBitVec_ofBitVec, BitVec.getLsbD_shiftLeft, decide_eq_true h, Bool.true_and]
  split
  · next hle => rw [decide_eq_false (Nat.not_lt.mpr hle), Bool.not_false, Bool.true_and, bit]
  · next hlt => rw [decide_eq_true (Nat.not_le.mp hlt), Bool.not_true, Bool.false_and]

theorem bit_ushr (l : Int64) (s : Int32) (i : Nat) : bit (ushr l s) i = bit l (shiftCount s + i) :=
  BitVec.getLsbD_ushiftRight ..

/-- Where the places run out, the shift goes on with the sign bit. -/
theorem bit_shr (h : i < 64) : bit (shr l s) i = bit l (min (shiftCount s + i) 63) := by
  rw [bit, shr, Int64.toBitVec_ofBitVec, BitVec.getLsbD_sshiftRight, BitVec.msb_eq_getLsbD_last,
    decide_eq_false (Nat.not_le.mpr h), Bool.not_false, Bool.true_and, bit]
  split
  · next hlt => rw [Nat.min_eq_left (by omega)]
  · next hge => rw [Nat.min_eq_right (by omega)]

end

/-! ## Two shifts of one kind -/

section

variable (l : Int64) (a b : Int32)

/-- Shifts to the left add up, until nothing is left. -/
theorem shl_shl :
    shl (shl l a) b = if shiftCount a + shiftCount b < 64
      then shl l (.ofNat (shiftCount a + shiftCount b)) else 0 := by
  apply ext_bit
  intro i hi
  rw [bit_shl hi, bit_shl (by omega)]
  by_cases hsum : shiftCount a + shiftCount b < 64
  · rw [if_pos hsum, bit_shl hi, shiftCount_ofNat hsum]
    by_cases hi' : shiftCount a + shiftCount b ≤ i
    · rw [if_pos (by omega), if_pos (by omega), if_pos hi', Nat.sub_sub, Nat.add_comm]
    · rw [if_neg hi']
      split
      · rw [if_neg (by omega)]
      · rfl
  · rw [if_neg hsum, bit_zero]
    split
    · rw [if_neg (by omega)]
    · rfl

/-- Shifts to the right with zeros add up, until nothing is left. -/
theorem ushr_ushr :
    ushr (ushr l a) b = if shiftCount a + shiftCount b < 64
      then ushr l (.ofNat (shiftCount a + shiftCount b)) else 0 := by
  apply ext_bit
  intro i _
  rw [bit_ushr, bit_ushr, ← Nat.add_assoc]
  by_cases hsum : shiftCount a + shiftCount b < 64
  · rw [if_pos hsum, bit_ushr, shiftCount_ofNat hsum]
  · rw [if_neg hsum, bit_zero, bit_of_le (by omega)]

/-- Shifts to the right with the sign add up, until the sign bit alone is left. -/
theorem shr_shr :
    shr (shr l a) b = shr l (.ofNat (min 63 (shiftCount a + shiftCount b))) := by
  apply ext_bit
  intro i hi
  rw [bit_shr hi, bit_shr (by omega), bit_shr hi, shiftCount_ofNat (by omega)]
  congr 1
  omega

end

/-! ## There and back -/

section

variable (l : Int64) (a : Int32)

/-- To the left and back with zeros: the bits that stayed in the long, with zeros in front. -/
theorem ushr_shl :
    (ushr (shl l a) a).toBitVec = (l.toBitVec.setWidth (64 - shiftCount a)).setWidth 64 := by
  apply BitVec.eq_of_getLsbD_eq
  intro i hi
  rw [← bit, bit_ushr, BitVec.getLsbD_setWidth, BitVec.getLsbD_setWidth, ← bit,
    decide_eq_true hi, Bool.true_and]
  by_cases hstays : i < 64 - shiftCount a
  · rw [bit_shl (by omega), if_pos (by omega), Nat.add_sub_cancel_left, decide_eq_true hstays,
      Bool.true_and]
  · rw [bit_of_le (by omega), decide_eq_false hstays, Bool.false_and]

/-- To the left and back with the sign: the bits that stayed in the long, with copies of the highest
of them in front. -/
theorem shr_shl :
    (shr (shl l a) a).toBitVec = (l.toBitVec.setWidth (64 - shiftCount a)).signExtend 64 := by
  have hlt := shiftCount_lt a
  apply BitVec.eq_of_getLsbD_eq
  intro i hi
  rw [← bit, bit_shr hi, bit_shl (by omega), if_pos (by omega), BitVec.getLsbD_signExtend,
    decide_eq_true hi, Bool.true_and]
  split
  · next hstays =>
    rw [BitVec.getLsbD_setWidth, decide_eq_true hstays, Bool.true_and, ← bit,
      Nat.min_eq_left (by omega), Nat.add_sub_cancel_left]
  · next hgone =>
    rw [BitVec.msb_setWidth, decide_eq_true (by omega), Bool.true_and, ← bit,
      Nat.min_eq_right (by omega), Nat.sub_right_comm]

/-- To the left and back with the sign reduces a long to a signed number of the bits that stayed. -/
theorem toInt_shr_shl : (shr (shl l a) a).toInt = l.toInt.bmod (2 ^ (64 - shiftCount a)) := by
  have hle : 64 - shiftCount a ≤ 64 := Nat.sub_le _ _
  rw [← Int64.toInt_toBitVec, shr_shl, BitVec.toInt_signExtend_of_le hle, BitVec.toInt_setWidth,
    ← Int64.toInt_toBitVec, BitVec.toInt_eq_toNat_bmod,
    Int.bmod_bmod_of_dvd (Nat.pow_dvd_pow 2 hle)]

/-- It gives the long back exactly if this is such a number already. -/
theorem shr_shl_eq_self_iff :
    shr (shl l a) a = l ↔
      -2 ^ (63 - shiftCount a) ≤ l.toInt ∧ l.toInt < 2 ^ (63 - shiftCount a) := by
  have hlt := shiftCount_lt a
  have hhalf : 2 ^ (64 - shiftCount a) = 2 * 2 ^ (63 - shiftCount a) := by
    rw [← Nat.pow_succ', Nat.succ_eq_add_one]
    congr 1
    omega
  rw [← Int64.toInt_inj, toInt_shr_shl, Int.bmod_eq_iff (Nat.two_pow_pos _), hhalf, Int.sub_self]
  push_cast
  constructor
  · rintro ⟨hlow, hhigh, -⟩
    omega
  · rintro ⟨hlow, hhigh⟩
    exact ⟨by omega, by omega, Int.dvd_zero _⟩

/-- To the right with zeros and back clears the bits that were moved out. -/
theorem bit_shl_ushr {i : Nat} (hi : i < 64) :
    bit (shl (ushr l a) a) i = if shiftCount a ≤ i then bit l i else false := by
  rw [bit_shl hi]
  split
  · next hle => rw [bit_ushr, Nat.add_sub_cancel' hle]
  · rfl

/-- To the right with the sign and back clears the same bits: what was brought in is moved out
again. -/
theorem shl_shr : shl (shr l a) a = shl (ushr l a) a := by
  apply ext_bit
  intro i hi
  rw [bit_shl_ushr l a hi, bit_shl hi]
  split
  · next hle => rw [bit_shr (by omega), Nat.add_sub_cancel' hle, Nat.min_eq_left (by omega)]
  · rfl

end

/-! ## The law -/

/-- **What two shifts of one kind owe**, for counts that come to `m` and `n`. -/
structure ShiftsAddUp (l : Int64) (a b : Int32) (m n : Nat) : Prop where
  left : shl (shl l a) b = if m + n < 64 then shl l (.ofNat (m + n)) else 0
  unsignedRight : ushr (ushr l a) b = if m + n < 64 then ushr l (.ofNat (m + n)) else 0
  right : shr (shr l a) b = shr l (.ofNat (min 63 (m + n)))

/-- **What a shift and the shift back owe**, for a count that comes to `m`. -/
structure ShiftsBack (l : Int64) (a : Int32) (m : Nat) : Prop where
  zeroExtended : (ushr (shl l a) a).toBitVec = (l.toBitVec.setWidth (64 - m)).setWidth 64
  signExtended : (shr (shl l a) a).toBitVec = (l.toBitVec.setWidth (64 - m)).signExtend 64
  same_iff : shr (shl l a) a = l ↔ -2 ^ (63 - m) ≤ l.toInt ∧ l.toInt < 2 ^ (63 - m)
  cleared : ∀ i < 64, bit (shl (ushr l a) a) i = if m ≤ i then bit l i else false
  cleared_eq : shl (shr l a) a = shl (ushr l a) a

/-- **Shifts of one kind add up, and a shift is taken back by the shift the other way.** What matters
of a count are its low six bits, also if it is negative. -/
theorem shifts_twice (l : Int64) (a b : Int32) :
    ShiftsAddUp l a b (lowBits a) (lowBits b) ∧ ShiftsBack l a (lowBits a) := by
  rw [lowBits_eq, lowBits_eq]
  exact ⟨⟨shl_shl l a b, ushr_ushr l a b, shr_shr l a b⟩,
    ⟨ushr_shl l a, shr_shl l a, shr_shl_eq_self_iff l a, fun _ => bit_shl_ushr l a, shl_shr l a⟩⟩

/-- Two shifts by 32 leave nothing, and one by 64 leaves all. -/
example : shl (shl 5 32) 32 = 0 ∧ shl 5 64 = 5 := by decide

end VmSupport.Long
