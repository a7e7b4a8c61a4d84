import Mathlib.Tactic.Positivity
import VmSupport.Proofs.Long.Division
import VmSupport.Proofs.Long.Reduction

/-!
# Shifts to the right are divisions by powers of two

A shift to the right divides by a power of two and rounds down. The shift with the sign does this
to the long as a signed number (`toInt_shr`), the shift with zeros to its bits as an unsigned
number (`toNat_ushr`). The two differ only in what the sign bit is worth: they agree where it is
not set, and where nothing is shifted (`ushr_eq_shr`), and elsewhere they are a power of two apart
(`toInt_ushr_of_neg`).

**The law** (`shifts_right`) joins this to the division that cuts toward zero. It gives what the
shift gives, but for a dividend below zero that leaves something over, where it gives one more. The
power of two has to be a long for that, and up to 2^62 it is one. A count of 63 shifts as well, but
a one that is shifted to the left by 63 is the smallest long, and to divide by that is another
thing.
-/

namespace VmSupport.Long

/-! ## Signed and unsigned -/

/-- What the bits of a long are worth if the sign bit counts as a bit like the others. -/
theorem toNat_toUInt64 (l : Int64) :
    (l.toUInt64.toNat : Int) = if 0 ≤ l then l.toInt else l.toInt + 2 ^ 64 := by
  have hbits : l.toInt = if 2 * l.toBitVec.toNat < 2 ^ 64 then (l.toBitVec.toNat : Int)
      else l.toBitVec.toNat - (2 ^ 64 : Nat) := BitVec.toInt_eq_toNat_cond l.toBitVec
  have hlt : l.toBitVec.toNat < 2 ^ 64 := l.toBitVec.isLt
  have hsign : 0 ≤ l ↔ 0 ≤ l.toInt := Int64.le_iff_toInt_le
  change (l.toBitVec.toNat : Int) = _
  rw [hbits]
  simp only [hsign]
  omega

/-- Bits that leave the sign bit free are worth the same either way. -/
theorem toInt_of_toNat_lt {l : Int64} (h : l.toUInt64.toNat < 2 ^ 63) :
    l.toInt = l.toUInt64.toNat := by
  have hbits := toNat_toUInt64 l
  have hleast := Int64.le_toInt l
  split at hbits
  · exact hbits.symm
  · omega

/-! ## Rounding down -/

/-- The shift with the sign rounds the signed quotient down. -/
theorem toInt_shr (l : Int64) (s : Int32) : (shr l s).toInt = l.toInt / 2 ^ shiftCount s := by
  rw [shr, ← Int64.toInt_toBitVec, Int64.toBitVec_ofBitVec, BitVec.toInt_sshiftRight,
    Int.shiftRight_eq_div_pow, Int64.toInt_toBitVec]
  norm_cast

/-- The shift with zeros rounds the unsigned quotient down. -/
theorem toNat_ushr (l : Int64) (s : Int32) :
    (ushr l s).toUInt64.toNat = l.toUInt64.toNat / 2 ^ shiftCount s := by
  change (l.toBitVec >>> shiftCount s).toNat = l.toBitVec.toNat / 2 ^ shiftCount s
  rw [BitVec.toNat_ushiftRight, Nat.shiftRight_eq_div_pow]

/-- A shift that brings in a zero leaves the sign bit free. -/
theorem toInt_ushr {l : Int64} {s : Int32} (h : 0 ≤ l ∨ shiftCount s ≠ 0) :
    (ushr l s).toInt = l.toUInt64.toNat / 2 ^ shiftCount s := by
  have hfree : (ushr l s).toUInt64.toNat < 2 ^ 63 := by
    rw [toNat_ushr]
    obtain hl | hs := h
    · have hbits := toNat_toUInt64 l
      rw [if_pos hl] at hbits
      have hlt := Int64.toInt_lt l
      exact (Nat.div_le_self _ _).trans_lt (by omega)
    · have hlt : l.toUInt64.toNat < 2 ^ 64 := l.toUInt64.toBitVec.isLt
      have hpow : 2 ≤ 2 ^ shiftCount s := Nat.le_self_pow hs 2
      exact Nat.div_lt_of_lt_mul (hlt.trans_le (Nat.mul_le_mul_right (2 ^ 63) hpow))
  rw [toInt_of_toNat_lt hfree, toNat_ushr]
  norm_cast

/-- The two shifts agree where the sign bit is not set, and where nothing is shifted. -/
theorem ushr_eq_shr {l : Int64} {s : Int32} (h : 0 ≤ l ∨ shiftCount s = 0) :
    ushr l s = shr l s := by
  by_cases hl : 0 ≤ l
  · rw [← Int64.toInt_inj, toInt_ushr (.inl hl), toInt_shr, toNat_toUInt64, if_pos hl]
  · have hs := h.resolve_left hl
    rw [ushr, shr, hs, BitVec.ushiftRight_zero, BitVec.sshiftRight_zero]

/-- Elsewhere the sign bit makes a difference of a power of two. -/
theorem toInt_ushr_of_neg {l : Int64} {s : Int32} (hl : ¬ 0 ≤ l) (hs : shiftCount s ≠ 0) :
    (ushr l s).toInt = (shr l s).toInt + 2 ^ (64 - shiftCount s) := by
  have hpow : (2 ^ 64 : Int) = 2 ^ (64 - shiftCount s) * 2 ^ shiftCount s := by
    rw [← Int.pow_add, Nat.sub_add_cancel (shiftCount_lt s).le]
  rw [toInt_ushr (.inr hs), toInt_shr, toNat_toUInt64, if_neg hl, hpow,
    Int.add_mul_ediv_right _ _ (by positivity)]

/-! ## Cutting toward zero -/

/-- A one that is shifted to the left stays a power of two, up to the sign bit. -/
theorem toInt_shl_one {s : Int32} (h : shiftCount s ≤ 62) : (shl 1 s).toInt = 2 ^ shiftCount s := by
  have hmul : shl 1 s = Int64.ofInt (2 ^ shiftCount s) := by
    rw [shl_eq_mul, mul, Int64.one_mul]
  have hle : (2 : Int) ^ shiftCount s ≤ 2 ^ 62 := pow_le_pow_right₀ (by decide) h
  have hpos : (0 : Int) < 2 ^ shiftCount s := by positivity
  rw [hmul, Int64.toInt_ofInt_of_le (by omega) (by omega)]

/-- Rounding down and cutting toward zero differ below zero, where the division leaves something
over. -/
theorem shr_eq_div {l : Int64} {s : Int32} (h : shiftCount s ≤ 62) :
    ∃ q m, div l (shl 1 s) = .ok q ∧ rem l (shl 1 s) = .ok m ∧
      (shr l s).toInt = q.toInt - if l < 0 ∧ m ≠ 0 then 1 else 0 := by
  have hdivisor := toInt_shl_one h
  have hpos : (0 : Int) < 2 ^ shiftCount s := by positivity
  have hne : shl 1 s ≠ 0 := by
    intro hzero
    rw [hzero, Int64.toInt_zero] at hdivisor
    omega
  have hfits : ¬ Overflows l (shl 1 s) := by
    rintro ⟨-, hminus⟩
    have hone : (-1 : Int64).toInt = -1 := by decide
    rw [hminus, hone] at hdivisor
    omega
  have hover : l % shl 1 s = 0 ↔ 2 ^ shiftCount s ∣ l.toInt := by
    rw [← Int64.toInt_inj, Int64.toInt_mod, hdivisor, Int64.toInt_zero, Int.dvd_iff_tmod_eq_zero]
  have hneg : l < 0 ↔ ¬ 0 ≤ l.toInt := by
    rw [Int64.lt_iff_toInt_lt, Int64.toInt_zero, not_le]
  refine ⟨l / shl 1 s, l % shl 1 s, if_neg hne, if_neg hne, ?_⟩
  rw [toInt_shr, toInt_div_of_not_overflows hfits, hdivisor,
    ← Int.fdiv_eq_ediv_of_nonneg _ hpos.le, Int.fdiv_eq_tdiv, if_pos hpos.le, if_pos hpos.le,
    Int.sign_eq_one_of_pos hpos]
  simp only [hneg, ne_eq, hover]
  by_cases hdvd : (2 : Int) ^ shiftCount s ∣ l.toInt
  · simp only [hdvd, not_true, and_false, if_true, if_false]
  · by_cases hl : 0 ≤ l.toInt
    · simp only [hdvd, hl, not_true, false_and, if_true, if_false]
    · simp only [hdvd, hl, not_false_eq_true, and_self, if_true, if_false]

/-- **What the shifts to the right by a count of `k` owe** to the long that is shifted. -/
structure RightShifts (l : Int64) (s : Int32) (k : Nat) : Prop where
  small : k < 64
  /-- The shift with the sign rounds the signed quotient down. -/
  floor : (shr l s).toInt = l.toInt.fdiv (2 ^ k)
  /-- The shift with zeros rounds the unsigned quotient down. -/
  pattern : (ushr l s).toUInt64.toNat = l.toUInt64.toNat / 2 ^ k
  /-- The two agree, or they are a power of two apart; nothing has to be reduced. -/
  apart : if 0 ≤ l ∨ k = 0 then ushr l s = shr l s
    else (ushr l s).toInt = (shr l s).toInt + 2 ^ (64 - k)
  /-- The division by the power of two is one more, where it does not come out even below zero. -/
  cut : k ≤ 62 → ∃ q m, div l (shl 1 s) = .ok q ∧ rem l (shl 1 s) = .ok m ∧
    (shr l s).toInt = q.toInt - if l < 0 ∧ m ≠ 0 then 1 else 0

/-- **Shifts to the right are divisions by powers of two.** The count is taken modulo 64, also if it
is negative. -/
theorem shifts_right (l : Int64) (s : Int32) : RightShifts l s (s.toInt % 64).toNat := by
  rw [← shiftCount_eq, Int.toNat_natCast]
  refine {
    small := shiftCount_lt s
    floor := ?_
    pattern := toNat_ushr l s
    apart := ?_
    cut := shr_eq_div }
  · rw [toInt_shr, Int.fdiv_eq_ediv_of_nonneg _ (by positivity)]
  · split
    · next h => exact ushr_eq_shr h
    · next h =>
      obtain ⟨hl, hs⟩ := not_or.mp h
      exact toInt_ushr_of_neg hl hs

/-- At a count of 63 the shift still rounds down, but the division is by the smallest long. -/
example : shr Int64.minValue 63 = -1 ∧ div Int64.minValue (shl 1 63) = .ok 1 := by
  decide

end VmSupport.Long
