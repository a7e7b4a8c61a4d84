import VmSupport.Settings.Size
import VmSupport.Settings.Source

/-!
# Overrides

Three variables override the capacity, the level and the layout, whichever of them are present. They
are taken together: if one cannot be read, or if the settings that come out cannot be used, then none
of them counts. The first complaint in the order capacity, level, layout, use is the one reported.
-/

namespace VmSupport.Settings

/-- The texts of variables; a variable that is absent has none. -/
abbrev Lookup := String → Option String

/-- The variable for the capacity. -/
def sizeVariable : String := "VM_NATIVE_HEAP_SIZE"

/-- The variable for the level. -/
def levelVariable : String := "VM_NATIVE_LOG_LEVEL"

/-- The variable for the layout. -/
def layoutVariable : String := "VM_NATIVE_LOG_FORMAT"

/-- The value of a variable, or the present value if the variable is absent. -/
def overridden {α : Type} (lookup : Lookup) (key : String) (read : String → Except String α)
    (present : α) : Except Rejection α :=
  match lookup key with
  | none => .ok present
  | some raw => (read raw).mapError (Rejection.mk key)

/-- Reads a capacity. -/
def readCapacity (raw : String) : Except String Nat :=
  match readSize? raw with
  | some n => .ok n
  | none => .error s!"'{raw}' is not a byte size"

/-- The settings with the variables that are present in place of what they override. -/
def override (lookup : Lookup) (s : Settings) : Except Rejection Settings := do
  let capacity ← overridden lookup sizeVariable readCapacity s.capacity
  let level ← overridden lookup levelVariable Log.Level.read s.log.level
  let layout ← overridden lookup layoutVariable Log.Layout.read s.log.layout
  checked { capacity, log := { s.log with level, layout } }

/-- The settings after an attempt to override them, and the complaint if it failed. -/
def tryOverride (lookup : Lookup) (s : Settings) : Settings × Option Rejection :=
  match s.override lookup with
  | .ok next => (next, none)
  | .error r => (s, some r)

end VmSupport.Settings
