import VmSupport.Settings.Basic
import VmSupport.Toml.Quote

/-!
# Writing settings

Settings are written as a document with every value in it, but for an absent filter. Integers of a
document are signed, so a capacity past the largest signed word cannot be written.
-/

namespace VmSupport.Settings

/-- Why settings cannot be written. -/
inductive RenderError where
  | capacityOutOfRange
  deriving DecidableEq, Repr

/-- The sentence that reports the error. -/
def RenderError.message : RenderError → String
  | .capacityOutOfRange => "out-of-range value for u64 type"

/-- One more than the largest capacity that can be written. -/
def writableLimit : Nat := Nat.pow 2 63

/-- A line that assigns a value to a name. -/
def assignLine (name : String) (value : List Char) : List Char :=
  name.toList ++ [' ', '=', ' '] ++ value ++ ['\n']

/-- The lines of a document, without a check of the capacity. -/
def renderChars (s : Settings) : List Char :=
  "[heap]\n".toList ++ assignLine "capacity_bytes" (Nat.toDigits 10 s.capacity) ++
    "\n[log]\n".toList ++
    assignLine "level" ('"' :: s.log.level.name.toList ++ ['"']) ++
    assignLine "format" ('"' :: s.log.layout.name.toList ++ ['"']) ++
    assignLine "span_events" (if s.log.spanEvents then "true".toList else "false".toList) ++
    match s.log.filter with
    | none => []
    | some filter => assignLine "filter" (Toml.writeText filter.toList)

/-- Writes settings as a document. -/
def render (s : Settings) : Except RenderError String :=
  if s.capacity < writableLimit then
    .ok (String.ofList (renderChars s))
  else
    .error .capacityOutOfRange

end VmSupport.Settings
