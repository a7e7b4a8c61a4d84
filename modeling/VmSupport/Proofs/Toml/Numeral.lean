import Mathlib.Algebra.GroupWithZero.Nat
import VmSupport.Toml.Number

/-!
# Written integers read back

**The law** (`numeric_digits`): the decimal digits of a number, at the end of a line, read as that
number if it is a signed word. They are not taken for a date, a time or a floating-point number,
because none of their marks stands before the end of the line; and they do not begin with a zero
that the reader would take for the whole number.
-/

namespace VmSupport.Decimal

/-! ## Digits -/

theorem isDigit_of_mem_digits {n : Nat} {c : Char} (h : c ∈ digits n) : c.isDigit = true :=
  Nat.isDigit_of_mem_toDigits (by decide) (by decide) h

theorem digits_ne_nil (n : Nat) : digits n ≠ [] :=
  Nat.toDigits_ne_nil

/-- Only zero is written with a zero in front. -/
theorem head?_digits_ne_zero {n : Nat} (h : 0 < n) : (digits n).head? ≠ some '0' := by
  induction n using Nat.strongRecOn with
  | ind n ih =>
    by_cases hsmall : n < 10
    · rw [digits, Nat.toDigits_of_lt_base hsmall]
      have hdigit : ∀ d < 10, 0 < d → [d.digitChar].head? ≠ some '0' := by decide
      exact hdigit n hsmall h
    · have hbase : 10 ≤ n := Nat.not_lt.mp hsmall
      have hstep : digits n = digits (n / 10) ++ [(n % 10).digitChar] :=
        Nat.toDigits_of_base_le (by decide) hbase
      rw [hstep, List.head?_append,
        Option.or_of_isSome (List.isSome_head?.mpr (digits_ne_nil (n / 10)))]
      exact ih (n / 10) (Nat.div_lt_self h (by decide)) (Nat.div_pos hbase (by decide))

end VmSupport.Decimal

namespace VmSupport.Toml

/-! ## Digits up to the end of a line -/

/-- Digits come first, and the line ends behind them. -/
def DigitLine (s : List Char) : Prop :=
  ∃ r, s.dropWhile Char.isDigit = '\n' :: r

theorem digitLine_digits (n : Nat) (r : List Char) : DigitLine (Decimal.digits n ++ '\n' :: r) := by
  refine ⟨r, ?_⟩
  rw [List.dropWhile_append_of_pos fun _ h => Decimal.isDigit_of_mem_digits h,
    List.dropWhile_cons_of_neg (by decide)]

namespace DigitLine

variable {c : Char} {s : List Char}

theorem tail (h : DigitLine (c :: s)) (hc : c.isDigit = true) : DigitLine s := by
  obtain ⟨r, hr⟩ := h
  exact ⟨r, by rwa [List.dropWhile_cons_of_pos hc] at hr⟩

theorem head_eq (h : DigitLine (c :: s)) (hc : c.isDigit = false) : c = '\n' := by
  obtain ⟨r, hr⟩ := h
  rw [List.dropWhile_cons_of_neg (by rw [hc]; exact Bool.false_ne_true)] at hr
  exact (List.cons.inj hr).1

/-- No mark of a number or a date stands at the front. -/
theorem not_cons (hc : c.isDigit = false) (hne : c ≠ '\n') : ¬ DigitLine (c :: s) :=
  fun h => hne (h.head_eq hc)

end DigitLine

/-! ## What digits are not -/

theorem twoDigits_eq_some {low high n : Nat} {s r : List Char}
    (h : twoDigits low high s = some (n, r)) :
    ∃ a b, s = a :: b :: r ∧ a.isDigit = true ∧ b.isDigit = true := by
  unfold twoDigits at h
  split at h
  · next a b r' =>
    split at h
    · next hdigits =>
      dsimp only at h
      split at h
      · cases h
        exact ⟨a, b, rfl, hdigits⟩
      · cases h
    · cases h
  · cases h

theorem calendarDate_eq_none {s : List Char} (h : DigitLine s) : calendarDate s = none := by
  unfold calendarDate
  split
  · next a b c d r =>
    split
    · next hall =>
      simp only [List.all_cons, List.all_nil, Bool.and_true, Bool.and_eq_true] at hall
      obtain ⟨ha, hb, hc, hd⟩ := hall
      exact absurd ((((h.tail ha).tail hb).tail hc).tail hd) (DigitLine.not_cons rfl (by decide))
    · rfl
  · rfl

theorem timeOfDay_eq_none {s : List Char} (h : DigitLine s) : timeOfDay s = none := by
  unfold timeOfDay
  split
  · next hour =>
    obtain ⟨a, b, rfl, ha, hb⟩ := twoDigits_eq_some hour
    exact absurd ((h.tail ha).tail hb) (DigitLine.not_cons rfl (by decide))
  · rfl

theorem date_eq_none {s : List Char} (h : DigitLine s) : date s = none := by
  rw [date, calendarDate_eq_none h]
  show (timeOfDay s).map _ = none
  rw [timeOfDay_eq_none h, Option.map_none]

/-! ## What digits are -/

theorem moreDigits_append {ds : List Char} (h : ∀ c ∈ ds, c.isDigit = true) (r : List Char) :
    moreDigits Char.isDigit (ds ++ '\n' :: r) = (ds, '\n' :: r) := by
  induction ds with
  | nil =>
    rw [List.nil_append, moreDigits, if_neg (by decide)]
    exact fun _ _ h => absurd h (by decide)
  | cons c ds ih =>
    have hc : c.isDigit = true := h c List.mem_cons_self
    rw [List.cons_append, moreDigits, if_pos hc, ih fun d hd => h d (List.mem_cons_of_mem c hd)]
    rintro _ _ rfl
    exact absurd hc (by decide)

theorem someDigits_append {ds : List Char} (h : ∀ c ∈ ds, c.isDigit = true) (hne : ds ≠ [])
    (r : List Char) : someDigits Char.isDigit (ds ++ '\n' :: r) = some (ds, '\n' :: r) := by
  cases ds with
  | nil => exact absurd rfl hne
  | cons c ds =>
    rw [List.cons_append, someDigits, if_pos (h c List.mem_cons_self),
      moreDigits_append fun d hd => h d (List.mem_cons_of_mem c hd)]

/-- Digits have no sign in front. -/
theorem dropSign_of_isDigit {c : Char} (hc : c.isDigit = true) (s : List Char) :
    dropSign (c :: s) = (false, c :: s) := by
  rw [dropSign]
  · rintro _ h
    rw [(List.cons.inj h).1] at hc
    exact absurd hc (by decide)
  · rintro _ h
    rw [(List.cons.inj h).1] at hc
    exact absurd hc (by decide)

theorem plainInteger_digits (n : Nat) (r : List Char) :
    plainInteger (Decimal.digits n ++ '\n' :: r) = some ((false, Decimal.digits n), '\n' :: r) := by
  by_cases hzero : n = 0
  · subst hzero
    rfl
  have hhead := Decimal.head?_digits_ne_zero (Nat.pos_of_ne_zero hzero)
  have hdigits := fun c => @Decimal.isDigit_of_mem_digits n c
  have hne := Decimal.digits_ne_nil n
  generalize Decimal.digits n = ds at hhead hdigits hne ⊢
  cases ds with
  | nil => exact absurd rfl hne
  | cons c ds =>
    have hmore := someDigits_append hdigits hne r
    rw [plainInteger, List.cons_append, dropSign_of_isDigit (hdigits c List.mem_cons_self)]
    dsimp only
    split
    · next heq => exact absurd (congrArg some (List.cons.inj heq).1) hhead
    · rw [← List.cons_append, hmore, Option.map_some]

theorem decimalFloat_digits (n : Nat) (r : List Char) :
    decimalFloat (Decimal.digits n ++ '\n' :: r) = none := by
  rw [decimalFloat, plainInteger_digits]
  rfl

theorem namedFloat_of_isDigit {c : Char} (hc : c.isDigit = true) (s : List Char) :
    namedFloat (c :: s) = none := by
  rw [namedFloat, dropSign_of_isDigit hc]
  dsimp only
  split
  · next heq =>
    rw [(List.cons.inj heq).1] at hc
    exact absurd hc (by decide)
  · next heq =>
    rw [(List.cons.inj heq).1] at hc
    exact absurd hc (by decide)
  · rfl

theorem integer_digits {n : Nat} (h : n < 2 ^ 63) (r : List Char) :
    integer (Decimal.digits n ++ '\n' :: r) = some (.integer n, '\n' :: r) := by
  have hplain := plainInteger_digits n r
  have hline := digitLine_digits n r
  generalize Decimal.digits n ++ '\n' :: r = s at hplain hline ⊢
  -- no marker of another base stands behind a zero
  have hmark : ∀ c r', c.isDigit = false → c ≠ '\n' → s = '0' :: c :: r' → False := by
    rintro c r' hc hne rfl
    exact DigitLine.not_cons hc hne (hline.tail (by decide))
  have hlimit : integerLimit = 2 ^ 63 := rfl
  have hbound : -integerLimit ≤ (n : Int) ∧ (n : Int) < integerLimit := by
    rw [hlimit]
    omega
  rw [integer, hplain]
  · dsimp only
    rw [if_neg Bool.false_ne_true, Decimal.value_digits, boundedInteger, if_pos hbound,
      Option.map_some]
  · exact fun _ => hmark 'x' _ rfl (by decide)
  · exact fun _ => hmark 'o' _ rfl (by decide)
  · exact fun _ => hmark 'b' _ rfl (by decide)

/-- **Written integers read back**, if they are signed words. -/
theorem numeric_digits {n : Nat} (h : n < 2 ^ 63) (r : List Char) :
    numeric (Decimal.digits n ++ '\n' :: r) = some (.integer n, '\n' :: r) := by
  have hnamed : namedFloat (Decimal.digits n ++ '\n' :: r) = none := by
    obtain ⟨c, ds, heq⟩ := List.exists_cons_of_ne_nil (Decimal.digits_ne_nil n)
    have hc : c.isDigit = true :=
      Decimal.isDigit_of_mem_digits (by rw [heq]; exact List.mem_cons_self)
    rw [heq, List.cons_append]
    exact namedFloat_of_isDigit hc _
  rw [numeric, date_eq_none (digitLine_digits n r), decimalFloat_digits, hnamed, integer_digits h]
  rfl

end VmSupport.Toml
