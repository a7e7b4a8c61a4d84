import Mathlib.Tactic.LinearCombination
import VmSupport.Long.Basic

/-!
# Quotients and remainders

Which quotient and which remainder are meant can be said without dividing (`IsDivision`): together
they give the dividend back, the remainder is smaller than the divisor, and it is zero or has the
sign of the dividend. Over the integers exactly one pair is like that (`isDivision_iff`): the
quotient cut toward zero, and what it leaves over.

**The law** (`division_decided`): a zero divisor is a fault, and nothing else is. For every other
divisor the remainder is exact, and so is the quotient unless it overflows, which it does for one
pair: the smallest long divided by minus one wraps to itself. The dividend comes back from quotient
and remainder even there, because the product wraps as well. That pair apart, quotient and
remainder are the only longs of the kind that is asked for; for that pair no longs are.
-/

namespace VmSupport.Long

/-! ## Over the integers -/

/-- **A quotient and its remainder**, told by what they owe to the dividend and to the divisor. -/
structure IsDivision (l r q m : Int) : Prop where
  restores : q * r + m = l
  smaller : m.natAbs < r.natAbs
  sign : m = 0 ∨ m.sign = l.sign

namespace IsDivision

variable {l r q m : Int}

/-- The quotient cut toward zero, and what it leaves over. -/
theorem of_ne_zero (l : Int) (h : r ≠ 0) : IsDivision l r (l.tdiv r) (l.tmod r) where
  restores := Int.tdiv_mul_add_tmod l r
  smaller := by
    rw [Int.natAbs_tmod]
    exact Nat.mod_lt _ (Int.natAbs_pos.mpr h)
  sign := by
    by_cases hdvd : r ∣ l
    · exact .inl (Int.tmod_eq_zero_of_dvd hdvd)
    · refine .inr ?_
      rw [Int.sign_tmod, if_neg hdvd]

theorem nonneg (h : IsDivision l r q m) (hl : 0 ≤ l) : 0 ≤ m := by
  obtain hm | hm := h.sign
  · exact hm.ge
  · rwa [← Int.sign_nonneg_iff, hm, Int.sign_nonneg_iff]

theorem nonpos (h : IsDivision l r q m) (hl : l ≤ 0) : m ≤ 0 := by
  obtain hm | hm := h.sign
  · exact hm.le
  · rwa [← Int.sign_nonpos_iff, hm, Int.sign_nonpos_iff]

/-- Two remainders of one dividend lie on one side of zero, so that they differ by less than the
divisor; and they differ by a multiple of it. -/
theorem unique {q' m' : Int} (h : IsDivision l r q m) (h' : IsDivision l r q' m') :
    q = q' ∧ m = m' := by
  have hsmall := h.smaller
  have hsmall' := h'.smaller
  have hmultiple : r ∣ m - m' := ⟨q' - q, by linear_combination h.restores - h'.restores⟩
  have hnear : (m - m').natAbs < r.natAbs := by
    obtain hl | hl := Int.le_total 0 l
    · have hm := h.nonneg hl
      have hm' := h'.nonneg hl
      omega
    · have hm := h.nonpos hl
      have hm' := h'.nonpos hl
      omega
  have hm : m - m' = 0 := Int.eq_zero_of_dvd_of_natAbs_lt_natAbs hmultiple hnear
  have hr : r ≠ 0 := by omega
  refine ⟨Int.eq_of_mul_eq_mul_right hr ?_, Int.sub_eq_zero.mp hm⟩
  linear_combination h.restores - h'.restores - hm

end IsDivision

/-- **There is one quotient with one remainder.** -/
theorem isDivision_iff {l r q m : Int} :
    IsDivision l r q m ↔ r ≠ 0 ∧ q = l.tdiv r ∧ m = l.tmod r := by
  constructor
  · intro h
    have hr : r ≠ 0 := by
      have hsmall := h.smaller
      omega
    exact ⟨hr, h.unique (.of_ne_zero l hr)⟩
  · rintro ⟨hr, rfl, rfl⟩
    exact .of_ne_zero l hr

/-! ## Over the longs -/

/-- The one pair whose quotient is no long. -/
def Overflows (l r : Int64) : Prop :=
  l = Int64.minValue ∧ r = -1

instance (l r : Int64) : Decidable (Overflows l r) :=
  inferInstanceAs (Decidable (_ ∧ _))

theorem toInt_div_of_not_overflows {l r : Int64} (h : ¬ Overflows l r) :
    (l / r).toInt = l.toInt.tdiv r.toInt := by
  by_cases hl : l = Int64.minValue
  · exact Int64.toInt_div_of_ne_right l r fun hr => h ⟨hl, hr⟩
  · exact Int64.toInt_div_of_ne_left l r hl

/-- The longs that are the quotient and the remainder of two longs. -/
theorem isDivision_toInt_iff {l r q m : Int64} (hr : r ≠ 0) :
    IsDivision l.toInt r.toInt q.toInt m.toInt ↔ ¬ Overflows l r ∧ q = l / r ∧ m = l % r := by
  have hr' : r.toInt ≠ 0 := fun h => hr (Int64.toInt_inj.mp h)
  rw [isDivision_iff, ← Int64.toInt_mod, Int64.toInt_inj]
  by_cases h : Overflows l r
  · -- The exact quotient of this pair lies beyond the longs.
    have hq : q.toInt ≠ l.toInt.tdiv r.toInt := by
      obtain ⟨rfl, rfl⟩ := h
      have hlt := Int64.toInt_lt q
      have hbeyond : Int64.minValue.toInt.tdiv (-1 : Int64).toInt = 2 ^ 63 := by decide
      omega
    simp only [hq, h, not_true, false_and, and_false]
  · rw [← toInt_div_of_not_overflows h, Int64.toInt_inj]
    simp only [hr', h, ne_eq, not_false_eq_true, true_and]

/-- A quotient is the exact one, reduced to a long. -/
theorem div_eq_ofInt (l r : Int64) : l / r = Int64.ofInt (l.toInt.tdiv r.toInt) := by
  rw [Int64.ofInt_tdiv (Int64.minValue_le_toInt l) (Int64.toInt_le l) (Int64.minValue_le_toInt r)
    (Int64.toInt_le r), Int64.ofInt_toInt, Int64.ofInt_toInt]

/-- The quotient and the remainder give the dividend back. An overflow makes no difference, because
the product needs the quotient only up to congruence. -/
theorem add_mul_div_mod (l r : Int64) : add (mul (l / r) r) (l % r) = l := by
  have hmod : l % r = Int64.ofInt (l.toInt.tmod r.toInt) := by
    rw [← Int64.toInt_mod, Int64.ofInt_toInt]
  calc add (mul (l / r) r) (l % r)
      = Int64.ofInt (l.toInt.tdiv r.toInt * r.toInt + l.toInt.tmod r.toInt) := by
        rw [add, mul, div_eq_ofInt, hmod, Int64.ofInt_add, Int64.ofInt_mul, Int64.ofInt_toInt]
    _ = l := by rw [Int.tdiv_mul_add_tmod, Int64.ofInt_toInt]

/-- **What a quotient and a remainder owe** to the longs they come from. -/
structure Divided (l r q m : Int64) : Prop where
  /-- The quotient is the exact one, cut toward zero and then reduced to a long. -/
  reduced : q = Int64.ofInt (l.toInt.tdiv r.toInt)
  /-- The reduction changes one quotient only. -/
  quotient : if Overflows l r then q = Int64.minValue ∧ m = 0 else q.toInt = l.toInt.tdiv r.toInt
  /-- The remainder is the exact one. -/
  remainder : m.toInt = l.toInt.tmod r.toInt
  smaller : m.toInt.natAbs < r.toInt.natAbs
  sign : m = 0 ∨ m.toInt.sign = l.toInt.sign
  /-- The dividend comes back without exception. -/
  restores : add (mul q r) m = l
  /-- No other longs are a quotient and its remainder, and for the pair that overflows no longs. -/
  only : ∀ q' m' : Int64,
    IsDivision l.toInt r.toInt q'.toInt m'.toInt ↔ ¬ Overflows l r ∧ q' = q ∧ m' = m

theorem divided {l r : Int64} (hr : r ≠ 0) : Divided l r (l / r) (l % r) := by
  have hdivision : IsDivision l.toInt r.toInt (l.toInt.tdiv r.toInt) (l % r).toInt := by
    rw [Int64.toInt_mod]
    exact .of_ne_zero l.toInt fun h => hr (Int64.toInt_inj.mp h)
  refine {
    reduced := div_eq_ofInt l r
    quotient := ?_
    remainder := Int64.toInt_mod l r
    smaller := hdivision.smaller
    sign := hdivision.sign.imp_left fun h => Int64.toInt_inj.mp h
    restores := add_mul_div_mod l r
    only := fun q' m' => isDivision_toInt_iff hr }
  split
  · next h =>
    obtain ⟨rfl, rfl⟩ := h
    exact ⟨by decide, by decide⟩
  · next h => exact toInt_div_of_not_overflows h

/-- **Division is decided for all longs**: it faults at a zero divisor and nowhere else, the checked
operations say the same, and every other divisor gives what is owed. -/
theorem division_decided (l r : Int64) :
    if r = 0 then
      div l r = .error .divideByZero ∧ rem l r = .error .remainderByZero ∧
        checkedDiv l r = .error .divisionByZero ∧ checkedRem l r = .error .divisionByZero
    else
      ∃ q m, div l r = .ok q ∧ rem l r = .ok m ∧ checkedDiv l r = .ok q ∧ checkedRem l r = .ok m ∧
        Divided l r q m := by
  split
  · next h => exact ⟨if_pos h, if_pos h, if_pos h, if_pos h⟩
  · next h => exact ⟨l / r, l % r, if_neg h, if_neg h, if_neg h, if_neg h, divided h⟩

/-- The dividend comes back although its quotient has overflowed. -/
example : div Int64.minValue (-1) = .ok Int64.minValue ∧
    add (mul Int64.minValue (-1)) 0 = Int64.minValue := by
  decide

end VmSupport.Long
