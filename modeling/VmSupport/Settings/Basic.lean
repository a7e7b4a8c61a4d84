import VmSupport.Heap.Error
import VmSupport.Log.Level

/-!
# Settings

The capacity of the heap and how to log. Settings are **usable** when the capacity is positive and a
multiple of the granule; values that were put together by hand need not be.
-/

namespace VmSupport

/-- How to log. -/
structure LogSettings where
  /-- The mildest level that the library's own events are shown at. -/
  level : Log.Level := .info
  layout : Log.Layout := .compact
  /-- Whether entering and leaving a span is shown. -/
  spanEvents : Bool := false
  /-- Further directives, separated by commas. -/
  filter : Option String := none
  deriving DecidableEq, Repr

/-- The capacity of a heap for which nothing else was said: 16 MiB. -/
def Settings.defaultCapacity : Nat := 16 * 1024 * 1024

/-- The settings of the library. -/
structure Settings where
  /-- The number of bytes to reserve. -/
  capacity : Nat := Settings.defaultCapacity
  log : LogSettings := {}
  deriving DecidableEq, Repr

namespace Settings

/-- Capacities of usable settings are multiples of this number of bytes. -/
def capacityGranule : Nat := 4

/-- The name under which the capacity is reported. -/
def capacityField : String := "heap.capacity_bytes"

/-- A setting that cannot be used, and why. -/
structure Rejection where
  field : String
  reason : String
  deriving DecidableEq, Repr

/-- The sentence that reports a rejection. -/
def Rejection.message (r : Rejection) : String :=
  s!"invalid config value for '{r.field}': {r.reason}"

/-- Why settings cannot be used, or nothing if they can. -/
def rejection? (s : Settings) : Option Rejection :=
  if s.capacity = 0 then
    some ⟨capacityField, "must be greater than zero"⟩
  else if s.capacity % capacityGranule ≠ 0 then
    some ⟨capacityField, s!"{s.capacity} is not a multiple of {capacityGranule}"⟩
  else
    none

theorem rejection?_eq_none_iff (s : Settings) :
    s.rejection? = none ↔ 0 < s.capacity ∧ s.capacity % capacityGranule = 0 := by
  unfold rejection?
  split
  · simp_all
  · split
    · simp_all
    · simp_all
      omega

end Settings

end VmSupport
