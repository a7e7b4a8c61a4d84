import Mathlib.Algebra.GroupWithZero.Nat
import VmSupport.Heap.Shared

/-!
# What a reservation gives

A capacity is accepted or it is not. If it is, the region has just that size, and a heap with that
capacity is the fresh heap over such a region.
-/

namespace VmSupport.Heap

/-- A host that has a block of any size below `2 ^ 62`, and places it at the address 4096. -/
def Host.ample : Host :=
  Host.below 4096 (2 ^ 62) (by decide) (by decide) (by decide)

variable {host : Host} {capacity : Nat}

/-- A reserved region is as large as was asked for. -/
theorem Region.reserve_size {r : Region} (h : Region.reserve host capacity = .ok r) :
    r.size = capacity := by
  unfold Region.reserve at h
  split at h
  · cases h
  · split at h
    · cases h
    · cases h
      rfl

/-- A heap with a capacity is a fresh one over a region of that size. -/
theorem Bump.withCapacity_eq_ok {b : Bump} (h : Bump.withCapacity host capacity = .ok b) :
    ∃ r : Region, r.size = capacity ∧ b = Bump.ofRegion r := by
  unfold Bump.withCapacity at h
  cases hr : Region.reserve host capacity with
  | error cause =>
    rw [hr] at h
    cases h
  | ok r =>
    rw [hr] at h
    cases h
    exact ⟨r, Region.reserve_size hr, rfl⟩

/-- A shared heap with a capacity is a fresh one over a region of that size. -/
theorem Shared.withCapacity_eq_ok {h : Shared} (hh : Shared.withCapacity host capacity = .ok h) :
    ∃ r : Region, r.size = capacity ∧ h = Shared.ofRegion r := by
  unfold Shared.withCapacity at hh
  cases hr : Region.reserve host capacity with
  | error cause =>
    rw [hr] at hh
    cases hh
  | ok r =>
    rw [hr] at hh
    cases hh
    exact ⟨r, Region.reserve_size hr, rfl⟩

end VmSupport.Heap
