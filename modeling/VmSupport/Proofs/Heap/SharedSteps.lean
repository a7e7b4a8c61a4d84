import VmSupport.Heap.Shared
import VmSupport.Proofs.Heap.Rounding

/-!
# One step of a request on the shared heap

A request on the shared heap works on a cursor value that may be stale. What keeps its arithmetic
right is that the cursor only grows: a value that was read is never past the cursor, so it is never
past the end of the region either. `Stage.Sound` says this of a stage, and what else a request
knows.

**The steps** (`Stage.step_moves`): from a sound stage, a step is one of the `Stage.Moves`, which
list all that a request can do to itself and to the heap. No move faults. The later developments
argue by cases on the moves and never open the step function again.

Every move keeps its own stage sound (`Moves.sound`), and since it never turns the cursor back
(`Moves.cursor_le`) it keeps the stages of all other requests sound too (`Sound.mono`).
-/

namespace VmSupport.Heap

/-- What is invariably true of the shared cells. -/
def Shared.Sound (h : Shared) : Prop :=
  granuleBytes ∣ h.cursor ∧ h.cursor ≤ h.region.size

theorem Shared.sound_ofRegion (r : Region) : (Shared.ofRegion r).Sound :=
  ⟨Nat.dvd_zero _, Nat.zero_le _⟩

namespace Stage

/-- What a request of this size knows at its stage: a cursor value that it read is not past the
cursor, and a block that it claimed lies before it. A fault is nothing that can be known. -/
def Sound (h : Shared) (size : Int32) : Stage → Prop
  | .start s => s = size
  | .load s rounded => s = size ∧ 0 ≤ size ∧ rounded = roundUp size
  | .check s rounded current => s = size ∧ 0 ≤ size ∧ rounded = roundUp size ∧ current ≤ h.cursor
  | .exchange s rounded current next =>
    s = size ∧ 0 ≤ size ∧ rounded = roundUp size ∧ current ≤ h.cursor ∧ next = current + rounded ∧
      next ≤ h.region.size
  | .countRefusal rounded _ => 0 ≤ size ∧ rounded = roundUp size
  | .countGrant s current => s = size ∧ 0 ≤ size ∧ current + roundUp size ≤ h.cursor
  | .returned answer =>
    ∀ handle, answer = .ok handle → 0 ≤ size ∧ handle.offset + roundUp size ≤ h.cursor
  | .faulted _ => False

/-- What a request knows stays true while the cursor only grows. -/
theorem Sound.mono {h h' : Shared} {size : Int32} {stage : Stage} (hs : stage.Sound h size)
    (hcursor : h.cursor ≤ h'.cursor) (hregion : h'.region = h.region) : stage.Sound h' size := by
  cases stage with
  | start s => exact hs
  | load s rounded => exact hs
  | check s rounded current =>
    obtain ⟨hsize, hpos, hround, hle⟩ := hs
    exact ⟨hsize, hpos, hround, Nat.le_trans hle hcursor⟩
  | exchange s rounded current next =>
    obtain ⟨hsize, hpos, hround, hle, hnext, hfits⟩ := hs
    exact ⟨hsize, hpos, hround, Nat.le_trans hle hcursor, hnext, hregion.symm ▸ hfits⟩
  | countRefusal rounded remaining => exact hs
  | countGrant s current =>
    obtain ⟨hsize, hpos, hle⟩ := hs
    exact ⟨hsize, hpos, Nat.le_trans hle hcursor⟩
  | returned answer =>
    intro handle heq
    obtain ⟨hpos, hle⟩ := hs handle heq
    exact ⟨hpos, Nat.le_trans hle hcursor⟩
  | faulted f => exact hs

/-- What one step of a request of this size can do: the stage before, the stage after and the heap
after. -/
inductive Moves (h : Shared) (size : Int32) (spurious : Bool) : Stage → Stage → Shared → Prop
  /-- A negative size is refused at once. -/
  | refuse (hneg : size < 0) :
    Moves h size spurious (.start size) (.returned (.error (.invalidSize size))) h
  | round (hpos : 0 ≤ size) : Moves h size spurious (.start size) (.load size (roundUp size)) h
  | load (hpos : 0 ≤ size) :
    Moves h size spurious (.load size (roundUp size)) (.check size (roundUp size) h.cursor) h
  /-- The value that was read leaves enough. -/
  | fits {current : Nat} (hpos : 0 ≤ size) (hle : current ≤ h.cursor)
    (hfits : current + roundUp size ≤ h.region.size) :
    Moves h size spurious (.check size (roundUp size) current)
      (.exchange size (roundUp size) current (current + roundUp size)) h
  /-- The value that was read leaves too little, so it is all over whatever the cursor is by now. -/
  | full {current : Nat} (hpos : 0 ≤ size) (hle : current ≤ h.cursor)
    (hfull : h.region.size - current < roundUp size) :
    Moves h size spurious (.check size (roundUp size) current)
      (.countRefusal (roundUp size) (h.region.size - current)) h
  /-- The cursor still has the value that was read, and moves. -/
  | claim (hpos : 0 ≤ size) (hfits : h.cursor + roundUp size ≤ h.region.size) :
    Moves h size spurious (.exchange size (roundUp size) h.cursor (h.cursor + roundUp size))
      (.countGrant size h.cursor) { h with cursor := h.cursor + roundUp size }
  /-- The cursor has moved, or the exchange fails without cause. -/
  | retry {current : Nat} (hpos : 0 ≤ size) (hle : current ≤ h.cursor)
    (hcause : h.cursor ≠ current ∨ spurious = true) :
    Moves h size spurious (.exchange size (roundUp size) current (current + roundUp size))
      (.check size (roundUp size) h.cursor) h
  | countRefusal {remaining : Nat} (hpos : 0 ≤ size) :
    Moves h size spurious (.countRefusal (roundUp size) remaining)
      (.returned (.error (.outOfMemory (roundUp size) remaining)))
      { h with failedAllocations := h.failedAllocations + 1 }
  | countGrant {current : Nat} (hpos : 0 ≤ size) (hle : current + roundUp size ≤ h.cursor) :
    Moves h size spurious (.countGrant size current) (.returned (.ok ⟨current⟩))
      { h with allocations := h.allocations + 1 }
  /-- A request that has returned stays where it is. -/
  | rest (answer : Except HeapError Handle) :
    Moves h size spurious (.returned answer) (.returned answer) h

section

variable {h : Shared} {size : Int32} {spurious : Bool}

/-- **A step of a sound request is one of the moves.** In particular it does not fault. -/
theorem step_moves {stage : Stage} (hh : h.Sound) (hs : stage.Sound h size) (spurious : Bool) :
    Moves h size spurious stage (stage.step h spurious).stage (stage.step h spurious).heap := by
  have hregion := h.region.fits
  have hcursor := hh.2
  cases stage with
  | start s =>
    cases hs
    simp only [step, roundedSize_eq]
    by_cases hneg : size < 0
    · rw [if_pos hneg]
      exact .refuse hneg
    · rw [if_neg hneg]
      exact .round (Int32.not_lt.mp hneg)
  | load s rounded =>
    obtain ⟨rfl, hpos, rfl⟩ := hs
    exact .load hpos
  | check s rounded current =>
    obtain ⟨rfl, hpos, rfl, hle⟩ := hs
    simp only [step, fit, Fault.subtractWords_of_le (Nat.le_trans hle hcursor)]
    by_cases hfull : h.region.size - current < roundUp s
    · rw [if_pos hfull]
      exact .full hpos hle hfull
    · have hfits : current + roundUp s ≤ h.region.size := by omega
      rw [if_neg hfull, Fault.addWords_of_lt (by omega)]
      exact .fits hpos hle hfits
  | exchange s rounded current next =>
    obtain ⟨rfl, hpos, rfl, hle, rfl, hfits⟩ := hs
    simp only [step]
    by_cases hsame : h.cursor = current ∧ spurious = false
    · rw [if_pos hsame]
      obtain ⟨rfl, -⟩ := hsame
      exact .claim hpos hfits
    · rw [if_neg hsame]
      refine .retry hpos hle ?_
      by_cases hc : h.cursor = current
      · exact .inr (by simpa [hc] using hsame)
      · exact .inl hc
  | countRefusal rounded remaining =>
    obtain ⟨hpos, rfl⟩ := hs
    exact .countRefusal hpos
  | countGrant s current =>
    obtain ⟨rfl, hpos, hle⟩ := hs
    exact .countGrant hpos hle
  | returned answer => exact .rest answer
  | faulted f => exact hs.elim

namespace Moves

variable {h' : Shared} {stage stage' : Stage}

/-- The region neither moves nor grows. -/
theorem region_eq (hm : Moves h size spurious stage stage' h') : h'.region = h.region := by
  cases hm <;> rfl

/-- The cursor never moves back. -/
theorem cursor_le (hm : Moves h size spurious stage stage' h') : h.cursor ≤ h'.cursor := by
  cases hm with
  | claim hpos hfits => exact Nat.le_add_right _ _
  | _ => exact Nat.le_refl _

/-- The cells stay as they should be. -/
theorem heap_sound (hm : Moves h size spurious stage stage' h') (hh : h.Sound) : h'.Sound := by
  cases hm with
  | claim hpos hfits => exact ⟨Nat.dvd_add hh.1 (granuleBytes_dvd_roundUp size), hfits⟩
  | _ => exact hh

/-- The request knows at its new stage what it should. -/
theorem sound (hm : Moves h size spurious stage stage' h') (hs : stage.Sound h size) :
    stage'.Sound h' size := by
  cases hm with
  | refuse hneg =>
    intro handle heq
    cases heq
  | round hpos => exact ⟨rfl, hpos, rfl⟩
  | load hpos => exact ⟨rfl, hpos, rfl, Nat.le_refl _⟩
  | fits hpos hle hfits => exact ⟨rfl, hpos, rfl, hle, rfl, hfits⟩
  | full hpos hle hfull => exact ⟨hpos, rfl⟩
  | claim hpos hfits => exact ⟨rfl, hpos, Nat.le_refl _⟩
  | retry hpos hle hcause => exact ⟨rfl, hpos, rfl, Nat.le_refl _⟩
  | countRefusal hpos =>
    intro handle heq
    cases heq
  | countGrant hpos hle =>
    intro handle heq
    cases heq
    exact ⟨hpos, hle⟩
  | rest answer => exact hs

end Moves

end

end Stage

end VmSupport.Heap
