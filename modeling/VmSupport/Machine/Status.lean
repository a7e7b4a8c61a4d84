import VmSupport.Settings.Source

/-!
# Statuses

What a call from outside answers in one number: zero if all went well, and a negative number for each
cause of failure. Every cause for which the heap refuses has a status of its own; whatever is wrong
with settings shares one.
-/

namespace VmSupport

/-- How a call from outside went. -/
inductive Status where
  | ok
  | notInitialized
  | alreadyInitialized
  | reservationFailed
  | invalidCapacity
  | invalidSize
  | outOfMemory
  | invalidArgument
  | configError
  deriving DecidableEq, Repr

namespace Status

/-- The number of a status. -/
def code : Status → Int
  | ok => 0
  | notInitialized => -1
  | alreadyInitialized => -2
  | reservationFailed => -3
  | invalidCapacity => -4
  | invalidSize => -5
  | outOfMemory => -6
  | invalidArgument => -7
  | configError => -8

/-- The name of a status. -/
def name : Status → String
  | ok => "Ok"
  | notInitialized => "NotInitialized"
  | alreadyInitialized => "AlreadyInitialized"
  | reservationFailed => "ReservationFailed"
  | invalidCapacity => "InvalidCapacity"
  | invalidSize => "InvalidSize"
  | outOfMemory => "OutOfMemory"
  | invalidArgument => "InvalidArgument"
  | configError => "ConfigError"

/-- The status for a refusal of the heap. -/
def ofHeapError : Heap.HeapError → Status
  | .reservationFailed _ => reservationFailed
  | .invalidCapacity _ => invalidCapacity
  | .invalidSize _ => invalidSize
  | .outOfMemory .. => outOfMemory
  | .alreadyInitialized => alreadyInitialized
  | .notInitialized => notInitialized

/-- The status for settings that cannot be had. -/
def ofSettingsError (_ : Settings.SettingsError) : Status :=
  configError

end Status

end VmSupport
