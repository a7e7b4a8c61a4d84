import VmSupport.Proofs.Heap.BumpRun
import VmSupport.Proofs.Heap.SharedSteps

/-!
# The shared heap in the hands of one thread

While only one thread uses it, the shared heap is a bump heap: `Bump.shared` holds the numbers of a
bump heap in shared cells, and serving a request there (`Bump.shared_allocate`) or asking for the
statistics (`Bump.shared_stats`) gives what the bump heap gives. No word operation faults, because
the cursor never passes the end of the region (`Bump.Sound`).
-/

namespace VmSupport.Heap

namespace Bump

/-- The shared heap with the same numbers. -/
def shared (b : Bump) : Shared :=
  { region := b.region, cursor := b.cursor, allocations := b.allocations
    failedAllocations := b.failedAllocations }

/-- What is invariably true of a bump heap. -/
def Sound (b : Bump) : Prop :=
  granuleBytes ∣ b.cursor ∧ b.cursor ≤ b.region.size

theorem sound_ofRegion (r : Region) : (ofRegion r).Sound :=
  ⟨Nat.dvd_zero _, Nat.zero_le _⟩

/-- A reservation makes the same heap of either kind. -/
theorem shared_withCapacity (host : Host) (capacity : Nat) :
    Shared.withCapacity host capacity = (withCapacity host capacity).map shared := by
  unfold Shared.withCapacity withCapacity
  cases Region.reserve host capacity <;> rfl

section

variable {b : Bump}

/-- A request keeps the cursor at a granule and inside the region. -/
theorem Sound.allocate (hb : b.Sound) (size : Int32) : (b.allocate size).heap.Sound := by
  obtain ⟨-, hr⟩ | ⟨-, -, hr⟩ | ⟨-, hfits, hr⟩ := b.allocate_cases size
  · rw [hr]
    exact hb
  · rw [hr]
    exact hb
  · have hlimit : b.cursor + roundUp size ≤ b.region.size := by
      have hcursor := hb.2
      simp only [remaining] at hfits
      omega
    rw [hr]
    exact ⟨Nat.dvd_add hb.1 (granuleBytes_dvd_roundUp size), hlimit⟩

/-- What is granted begins at the cursor. -/
theorem handle_eq {size : Int32} {handle : Handle} (h : (b.allocate size).answer = .ok handle) :
    handle = ⟨b.cursor⟩ := by
  obtain ⟨-, hr⟩ | ⟨-, -, hr⟩ | ⟨-, -, hr⟩ := b.allocate_cases size <;> rw [hr] at h
  · cases h
  · cases h
  · cases h
    rfl

/-- **A request of a lone thread** is served as the bump heap serves it. -/
theorem shared_allocate (hb : b.Sound) (size : Int32) :
    b.shared.allocate size = .ok
      { answer := (b.allocate size).answer, heap := (b.allocate size).heap.shared
        events := (b.allocate size).events } := by
  have hremaining : b.shared.remaining = .ok b.remaining := Fault.subtractWords_of_le hb.2
  rw [Shared.allocate, roundedSize_eq]
  obtain ⟨hneg, hr⟩ | ⟨hpos, hfull, hr⟩ | ⟨hpos, hfits, hr⟩ := b.allocate_cases size
  · rw [if_pos hneg, hr]
  · rw [if_neg (Int32.not_lt.mpr hpos), hr]
    simp only [hremaining, if_pos hfull]
    rfl
  · have hnext : Fault.addWords b.shared.cursor (roundUp size) =
        .ok (b.cursor + roundUp size) := by
      have hregion := b.region.fits
      have hcursor := hb.2
      simp only [remaining] at hfits
      exact Fault.addWords_of_lt (show b.cursor + roundUp size < _ by omega)
    rw [if_neg (Int32.not_lt.mpr hpos), hr]
    simp only [hremaining, if_neg (Nat.not_lt.mpr hfits), hnext]
    rfl

/-- **The statistics** are those of the bump heap. -/
theorem shared_stats (hb : b.Sound) : b.shared.stats = .ok b.stats := by
  have hremaining : b.shared.remaining = .ok b.remaining := Fault.subtractWords_of_le hb.2
  rw [Shared.stats, hremaining]
  rfl

end

end Bump

end VmSupport.Heap
