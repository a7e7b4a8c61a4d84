import VmSupport.Text.LowerCase

/-!
# Levels and layouts, and their names

A level says how grave an event is, a layout how the log shows it. Both have small-letter names. A
settings file must spell them exactly; where a name comes from outside a file its case does not
matter, because the text is put into lower case over all of Unicode before it is compared. A name
that is not known is reported in that lower-case form.
-/

namespace VmSupport.Log

/-- How grave an event is, the gravest last. -/
inductive Level where
  | trace
  | debug
  | info
  | warn
  | error
  deriving DecidableEq, Repr

namespace Level

/-- The levels from the mildest to the gravest. -/
def all : List Level := [trace, debug, info, warn, error]

/-- The name of a level in settings. -/
def name : Level → String
  | trace => "trace"
  | debug => "debug"
  | info => "info"
  | warn => "warn"
  | error => "error"

/-- The name of a level in the log. -/
def capitals : Level → String
  | trace => "TRACE"
  | debug => "DEBUG"
  | info => "INFO"
  | warn => "WARN"
  | error => "ERROR"

/-- The rank of a level: the graver, the higher. -/
def rank : Level → Nat
  | trace => 0
  | debug => 1
  | info => 2
  | warn => 3
  | error => 4

/-- The level with exactly this name. -/
def ofName? (s : String) : Option Level :=
  all.find? (·.name == s)

/-- The level with this name in any case, or the text that says it is not known. -/
def read (s : String) : Except String Level :=
  let small := Text.lower s
  match ofName? small with
  | some l => .ok l
  | none => .error s!"unknown log level '{small}'"

theorem mem_all (l : Level) : l ∈ all := by cases l <;> decide

end Level

/-- How the log shows an event. -/
inductive Layout where
  | pretty
  | compact
  | json
  deriving DecidableEq, Repr

namespace Layout

/-- The layouts in the order in which a settings error names them. -/
def all : List Layout := [pretty, compact, json]

/-- The name of a layout. -/
def name : Layout → String
  | pretty => "pretty"
  | compact => "compact"
  | json => "json"

/-- The layout with exactly this name. -/
def ofName? (s : String) : Option Layout :=
  all.find? (·.name == s)

/-- The layout with this name in any case, or the text that says it is not known. -/
def read (s : String) : Except String Layout :=
  let small := Text.lower s
  match ofName? small with
  | some l => .ok l
  | none => .error s!"unknown log format '{small}'"

theorem mem_all (l : Layout) : l ∈ all := by cases l <;> decide

end Layout

end VmSupport.Log
