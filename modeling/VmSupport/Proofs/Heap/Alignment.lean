import Mathlib.Algebra.Order.Floor.Div
import VmSupport.Heap.Region
import VmSupport.Proofs.Heap.Rounding

/-!
# What the masks of a power of two compute

Alignment is computed by masks: an addition and a cleared row of bits round a word up, and the low
bits of a distance tell whether it is aligned. Here both are said without masks.

**The law** (`masks_align`): rounding a word up gives the least multiple of the power of two that is
no smaller. So it keeps the order of the words, and to round twice is to round once. A distance
passes the test for the low bits exactly if the power of two divides it.

**Where it stops.** One less than the power of two is added to the word, and there has to be room
for the sum (`LeavesRoom`). Where there is none the addition wraps, and the result is zero
(`alignUp_eq_zero`). The words that come from requests are far from there: the size of a request has
31 bits, and it is rounded to no more than 2^31.
-/

namespace VmSupport.Heap

/-! ## Rounding a word -/

/-- The quotient rounded up, times the divisor, is the least multiple from a number on. -/
theorem isLeast_ceil (n : Nat) {d : Nat} (hd : 0 < d) :
    IsLeast {m : Nat | d ∣ m ∧ n ≤ m} ((n + d - 1) / d * d) := by
  rw [← Nat.ceilDiv_eq_add_pred_div, Nat.mul_comm]
  refine ⟨⟨Nat.dvd_mul_right d _, le_smul_ceilDiv hd⟩, ?_⟩
  rintro m ⟨⟨q, rfl⟩, hle⟩
  exact Nat.mul_le_mul_left d ((ceilDiv_le_iff_le_smul hd).mpr hle)

/-- The word leaves room among the words for what rounding adds to it. -/
def LeavesRoom (align v : UInt64) : Prop :=
  v.toNat + (align.toNat - 1) < 2 ^ 64

section

variable {align v w : UInt64} {k : Nat}

/-- **Rounding a word up** gives the least multiple that is no smaller. -/
theorem alignUp_isLeast (halign : align.toNat = 2 ^ k) (hv : LeavesRoom align v) :
    IsLeast {m : Nat | align.toNat ∣ m ∧ v.toNat ≤ m} (alignUp v align).toNat := by
  have hpos : 0 < 2 ^ k := Nat.two_pow_pos k
  have hfits : v.toNat + align.toNat ≤ 2 ^ 64 := by
    unfold LeavesRoom at hv
    omega
  rw [alignUp_toNat halign hfits, halign]
  exact isLeast_ceil v.toNat hpos

/-- A smaller word leaves room where a larger one does. -/
theorem LeavesRoom.mono (hw : LeavesRoom align w) (hvw : v ≤ w) : LeavesRoom align v :=
  (Nat.add_le_add_right (UInt64.le_iff_toNat_le.mp hvw) _).trans_lt hw

/-- Fewer multiples hold the larger word, so the least of them is no smaller. -/
theorem alignUp_le_alignUp (halign : align.toNat = 2 ^ k) (hvw : v ≤ w) (hw : LeavesRoom align w) :
    alignUp v align ≤ alignUp w align := by
  have hle : v.toNat ≤ w.toNat := UInt64.le_iff_toNat_le.mp hvw
  rw [UInt64.le_iff_toNat_le]
  exact (alignUp_isLeast halign hw).mono (alignUp_isLeast halign (hw.mono hvw))
    fun m hm => ⟨hm.1, hle.trans hm.2⟩

/-- The words are cut into whole multiples, so a multiple leaves room. -/
theorem leavesRoom_of_dvd (halign : align.toNat = 2 ^ k) (hdvd : align.toNat ∣ v.toNat) :
    LeavesRoom align v := by
  have hpos : 0 < 2 ^ k := Nat.two_pow_pos k
  have halign_lt : align.toNat < 2 ^ 64 := align.toNat_lt
  have hk : k ≤ 64 := by
    rw [halign] at halign_lt
    exact ((Nat.pow_lt_pow_iff_right (by decide)).mp halign_lt).le
  have hwords : align.toNat ∣ 2 ^ 64 := halign ▸ Nat.pow_dvd_pow 2 hk
  have hnext : align.toNat ≤ 2 ^ 64 - v.toNat :=
    Nat.le_of_dvd (Nat.sub_pos_of_lt v.toNat_lt) (Nat.dvd_sub hwords hdvd)
  have hv := v.toNat_lt
  unfold LeavesRoom
  omega

/-- A multiple is rounded to itself. -/
theorem alignUp_of_dvd (halign : align.toNat = 2 ^ k) (hdvd : align.toNat ∣ v.toNat) :
    alignUp v align = v := by
  have hself : IsLeast {m : Nat | align.toNat ∣ m ∧ v.toNat ≤ m} v.toNat :=
    ⟨⟨hdvd, Nat.le_refl _⟩, fun m hm => hm.2⟩
  have hleast := alignUp_isLeast halign (leavesRoom_of_dvd halign hdvd)
  exact UInt64.toNat_inj.mp (hleast.unique hself)

/-- **Past the boundary the addition wraps**, and nothing is left but low bits, which are cleared. -/
theorem alignUp_eq_zero (halign : align.toNat = 2 ^ k) (hv : ¬ LeavesRoom align v) :
    alignUp v align = 0 := by
  have hone : (1 : UInt64).toNat = 1 := rfl
  have hpos : 0 < 2 ^ k := Nat.two_pow_pos k
  have hv_lt := v.toNat_lt
  have halign_lt := align.toNat_lt
  have hmask : (align - 1).toNat = 2 ^ k - 1 := by
    rw [UInt64.toNat_sub, hone]
    omega
  have hlow : (v + align - 1).toNat < 2 ^ k := by
    unfold LeavesRoom at hv
    rw [UInt64.toNat_sub, UInt64.toNat_add, hone]
    omega
  rw [← UInt64.toNat_inj, alignUp, and_not_lowMask_toNat hmask, Nat.div_eq_of_lt hlow,
    Nat.zero_mul]
  rfl

end

/-! ## Testing a distance -/

/-- The low bits of a distance are the remainder of the division by the power of two. -/
theorem Handle.isAlignedTo_iff (h : Handle) {align k : Nat} (halign : align = 2 ^ k) :
    h.isAlignedTo align = true ↔ align ∣ h.offset := by
  rw [isAlignedTo, beq_iff_eq, halign, Nat.and_two_pow_sub_one_eq_mod, Nat.dvd_iff_mod_eq_zero]

/-! ## The law -/

/-- **What the masks of an alignment owe** to the words and distances that they are used on. -/
structure MasksAlign (align : UInt64) : Prop where
  least : ∀ v, LeavesRoom align v →
    IsLeast {m : Nat | align.toNat ∣ m ∧ v.toNat ≤ m} (alignUp v align).toNat
  monotone : ∀ v w, v ≤ w → LeavesRoom align w → alignUp v align ≤ alignUp w align
  idempotent : ∀ v, LeavesRoom align v → alignUp (alignUp v align) align = alignUp v align
  /-- A word that leaves no room is rounded to zero. -/
  beyond : ∀ v, ¬ LeavesRoom align v → alignUp v align = 0
  aligned_iff : ∀ h : Handle, h.isAlignedTo align.toNat = true ↔ align.toNat ∣ h.offset

/-- **What a request of this size is rounded to.** -/
structure RequestRounds (size : Int32) : Prop where
  negative : size < 0 → roundedSize size = .error (.invalidSize size)
  rounded : 0 ≤ size → ∃ bytes, roundedSize size = .ok bytes ∧
    IsLeast {m : Nat | 4 ∣ m ∧ size.toInt ≤ m} bytes ∧ bytes ≤ 2 ^ 31
  /-- The word that is rounded has the value of the size, and adding the granule does not wrap. -/
  unwrapped : 0 ≤ size → ∃ v, (v.toNat : Int) = size.toInt ∧
    roundedSize size = .ok (alignUp v granule).toNat ∧ LeavesRoom granule v ∧
    (v + granule).toNat = v.toNat + granule.toNat

theorem masksAlign_of_two_pow {align : UInt64} {k : Nat} (halign : align.toNat = 2 ^ k) :
    MasksAlign align where
  least _ hv := alignUp_isLeast halign hv
  monotone _ _ hvw hw := alignUp_le_alignUp halign hvw hw
  -- the first rounding gives a multiple, and that is all that the second one looks at
  idempotent _ hv := alignUp_of_dvd halign (alignUp_isLeast halign hv).1.1
  beyond _ hv := alignUp_eq_zero halign hv
  aligned_iff h := h.isAlignedTo_iff halign

theorem requestRounds (size : Int32) : RequestRounds size where
  negative hneg := by rw [roundedSize_eq, if_pos hneg]
  rounded hpos := by
    have hlt := size.toInt_lt
    have hleast := roundUp_isLeast size
    refine ⟨roundUp size, ?_, hleast, ?_⟩
    · rw [roundedSize_eq, if_neg (Int32.not_lt.mpr hpos)]
    · -- 2^31 is a multiple that holds any size
      exact hleast.2 ⟨by decide, by omega⟩
  unwrapped hpos := by
    have hlt := size.toInt_lt
    have hnonneg : 0 ≤ size.toInt := Int32.le_iff_toInt_le.mp hpos
    have hgranule : granule.toNat = 4 := rfl
    have hword : (UInt64.ofNat size.toInt.toNat).toNat = size.toInt.toNat :=
      UInt64.toNat_ofNat_of_lt' (Nat.lt_of_lt_of_le (by omega : _ < 2 ^ 31) (by decide))
    refine ⟨UInt64.ofNat size.toInt.toNat, ?_, if_neg (Int32.not_lt.mpr hpos), ?_, ?_⟩
    · rw [hword, Int.toNat_of_nonneg hnonneg]
    · rw [LeavesRoom, hword, hgranule]
      omega
    · rw [UInt64.toNat_add, hword, hgranule]
      omega

/-- **Masks align**: for every power of two among the words, and for every size of a request. -/
theorem masks_align :
    (∀ align : UInt64, align.toNat.isPowerOfTwo → MasksAlign align) ∧
      ∀ size : Int32, RequestRounds size := by
  refine ⟨?_, requestRounds⟩
  rintro align ⟨k, halign⟩
  exact masksAlign_of_two_pow halign

/-- The largest multiple of eight is rounded to itself though the first addition wraps, and the word
behind it leaves no room. -/
example : alignUp 0xFFFFFFFFFFFFFFF8 8 = 0xFFFFFFFFFFFFFFF8 ∧ alignUp 0xFFFFFFFFFFFFFFF9 8 = 0 := by
  decide

end VmSupport.Heap
