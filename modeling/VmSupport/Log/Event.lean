import VmSupport.Heap.Error
import VmSupport.Log.Level
import VmSupport.Text.Quoted

/-!
# Events

What the library reports about itself. An event knows how grave it is, which part of the library it
comes from (its target, a path), what it says, and which values it carries. Text that a caller
handed in is shown quoted in the layouts for people; sentences that the library made are shown as
they are.
-/

namespace VmSupport.Log

/-- A value that an event carries. -/
inductive FieldValue where
  /-- A number. -/
  | number (n : Int)
  /-- An address, shown in hexadecimal. -/
  | address (a : Nat)
  /-- A sentence, shown as it is. -/
  | sentence (s : String)
  /-- Text from a caller, shown quoted in the layouts for people. -/
  | text (s : String)
  deriving DecidableEq, Repr

/-- What the library reports. -/
inductive Event where
  /-- A heap got its region. -/
  | heapReserved (base capacity : Nat)
  /-- A request was granted. -/
  | allocated (size : Int32) (offset : Nat)
  /-- A request did not fit. -/
  | allocationFailed (cause : Heap.HeapError)
  /-- A division by zero is about to end the process. -/
  | arithmeticFault (function reason : String)
  /-- A call from outside was rejected. -/
  | callRejected (function cause : String)
  /-- The heap of the process is in place. -/
  | initialized (base capacity : Nat)
  /-- The process is done with its heap. -/
  | shuttingDown (used allocations : Nat)
  /-- A settings file could not be used. -/
  | fileIgnored (path cause : String)
  /-- The overrides in the environment could not be used. -/
  | overridesIgnored (cause : String)
  /-- A piece of the configured filter is no directive. -/
  | directiveIgnored (piece : String)
  deriving DecidableEq, Repr

namespace Event

/-- How grave the event is. -/
def level : Event → Level
  | heapReserved .. => .debug
  | allocated .. => .trace
  | allocationFailed _ => .warn
  | arithmeticFault .. => .error
  | callRejected .. => .error
  | initialized .. => .info
  | shuttingDown .. => .info
  | fileIgnored .. => .warn
  | overridesIgnored _ => .warn
  | directiveIgnored _ => .warn

/-- The part of the library that the event comes from. -/
def target : Event → String
  | heapReserved .. => "vm_native::allocator"
  | allocated .. => "vm_native::allocator"
  | allocationFailed _ => "vm_native::allocator"
  | arithmeticFault .. => "vm_native::arith"
  | callRejected .. => "vm_native::ffi"
  | initialized .. => "vm_native::runtime"
  | shuttingDown .. => "vm_native::runtime"
  | fileIgnored .. => "vm_native::config"
  | overridesIgnored _ => "vm_native::config"
  | directiveIgnored _ => "vm_native::logging"

/-- What the event says. -/
def message : Event → String
  | heapReserved .. => "heap region reserved"
  | allocated .. => "allocated"
  | allocationFailed _ => "allocation failed"
  | arithmeticFault .. => "fatal arithmetic fault"
  | callRejected .. => "FFI call rejected"
  | initialized .. => "runtime initialized"
  | shuttingDown .. => "runtime shutting down"
  | fileIgnored .. => "ignoring config file"
  | overridesIgnored _ => "ignoring environment overrides"
  | directiveIgnored _ => "ignoring invalid filter directive"

/-- The values that the event carries, each under its name, in the order in which they are shown. -/
def fields : Event → List (String × FieldValue)
  | heapReserved base capacity =>
    [("base", .address base), ("capacity_bytes", .number capacity)]
  | allocated size offset => [("size_bytes", .number size.toInt), ("offset", .number offset)]
  | allocationFailed cause => [("error", .sentence cause.message)]
  | arithmeticFault function reason => [("function", .text function), ("reason", .text reason)]
  | callRejected function cause => [("function", .text function), ("error", .text cause)]
  | initialized base capacity =>
    [("base", .address base), ("capacity_bytes", .number capacity)]
  | shuttingDown used allocations =>
    [("used_bytes", .number used), ("allocations", .number allocations)]
  | fileIgnored path cause => [("path", .sentence path), ("error", .sentence cause)]
  | overridesIgnored cause => [("error", .sentence cause)]
  | directiveIgnored piece => [("directive", .text piece)]

/-- The names of the fields that the event has. What it says is one of them. -/
def names (e : Event) : List String :=
  "message" :: e.fields.map (·.1)

end Event

/-- The value as the layouts for people show it. -/
def FieldValue.render : FieldValue → String
  | number n => toString n
  | address a => "0x" ++ String.ofList (Nat.toDigits 16 a)
  | sentence s => s
  | text s => Text.quoted s

/-- An event on one line: level, target and message, then each value behind its name. -/
def Event.renderCompact (e : Event) : String :=
  let shown := e.fields.map fun f => s!" {f.1}={f.2.render}"
  s!"{e.level.capitals} {e.target}: {e.message}" ++ String.join shown

/-- An event in the wide layout, where a comma stands before each value. -/
def Event.renderPretty (e : Event) : String :=
  let shown := e.fields.map fun f => s!", {f.1}: {f.2.render}"
  s!"{e.level.capitals} {e.target}: {e.message}" ++ String.join shown

end VmSupport.Log
