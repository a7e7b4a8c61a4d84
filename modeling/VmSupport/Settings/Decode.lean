import VmSupport.Decimal.Shortest
import VmSupport.Settings.Basic
import VmSupport.Text.Quoted
import VmSupport.Toml.Survey

/-!
# Settings from a document

A settings document has a table `heap` with `capacity_bytes`, and a table `log` with `level`,
`format`, `span_events` and `filter`. Each may be missing, and then has its default; other names,
there or at the top, say nothing. A table may also be written as an array of its values in that
order, and a name such as a level as a table whose only key is the name. A date in place of a table
is a table that has no known names.

**The order of the complaints.** Entries are looked at in the order of the document, and the first
one that is not as it should be is reported. Only when every entry is as it should be are the
settings checked for use.

**What a complaint points at.** A complaint names the spots that it can point at, the best one first.
As it goes up through the tables the spots are seen from further and further out, and at the top they
are paths of the document.
-/

namespace VmSupport.Settings

open Toml (Value Entries Step Spot)

/-! ## What can be wrong with a value -/

/-- What a value should have been. -/
inductive Expected where
  | word
  | truth
  | text
  | heapTable
  | logTable
  deriving DecidableEq, Repr

/-- The words for what a value should have been. -/
def Expected.words : Expected → String
  | word => "usize"
  | truth => "a boolean"
  | text => "a string"
  | heapTable => "struct HeapConfig"
  | logTable => "struct LogConfig"

/-- What is wrong with a value. -/
inductive Mismatch where
  /-- The value is of another kind. -/
  | wrongKind (found : Value) (expected : Expected)
  /-- The value is an integer that is no word. -/
  | wrongInteger (found : Int) (expected : Expected)
  /-- The name is not among the known ones. -/
  | unknownName (name : String) (known : List String)
  /-- In place of a name there is neither a text nor a table. -/
  | noName
  /-- A table in place of a name has not just one key. -/
  | notOneName (count : Nat)
  /-- The value of a name that is written as a table holds something. -/
  | filledName (content : Value)

/-- The words for the kind of a value, and for the value itself where it is short. -/
def describe : Value → String
  | .string s => "string " ++ Text.quoted s
  | .integer n => s!"integer \x60{n}\x60"
  | .float x => s!"floating point \x60{x.render}\x60"
  | .boolean b => s!"boolean \x60{b}\x60"
  | .date => "map"
  | .array _ => "sequence"
  | .rows _ => "sequence"
  | .table _ => "map"

/-- The word for the kind of a value. -/
def kindWord : Value → String
  | .string _ => "string"
  | .integer _ => "integer"
  | .float _ => "float"
  | .boolean _ => "boolean"
  | .date => "datetime"
  | .array _ => "array"
  | .rows _ => "array of tables"
  | .table _ => "table"

/-- What should have been the value of a name that is written as a table. -/
def hollowWords : Value → String
  | .rows _ => "expected empty array"
  | .array _ => "expected empty table"
  | .table _ => "expected empty table"
  | v => "expected table, found " ++ kindWord v

/-- The sentence that says what is wrong. -/
def Mismatch.message : Mismatch → String
  | wrongKind found expected => s!"invalid type: {describe found}, expected {expected.words}"
  | wrongInteger found expected =>
    s!"invalid value: integer \x60{found}\x60, expected {expected.words}"
  | unknownName name known =>
    let names := ", ".intercalate (known.map fun k => s!"\x60{k}\x60")
    s!"unknown variant \x60{name}\x60, expected one of {names}"
  | noName => "wanted string or table"
  | notOneName 0 => "wanted exactly 1 element, found 0 elements"
  | notOneName (_ + 1) => "wanted exactly 1 element, more than 1 element"
  | filledName content => hollowWords content

/-- Why a document does not decode, and what can be pointed at, the best spot first. -/
structure DecodeError where
  mismatch : Mismatch
  spots : List Spot

namespace DecodeError

/-- A complaint about a value as a whole: it points at the value, or else at the key of the value. -/
def here (m : Mismatch) : DecodeError := ⟨m, [.value [], .key []]⟩

/-- The same complaint, seen from one step further out. -/
def under (s : Step) (e : DecodeError) : DecodeError :=
  { e with spots := e.spots.map (·.under s) }

end DecodeError

/-- What is made of a value, with a complaint seen from one step further out. -/
def under {α : Type} (s : Step) (r : Except DecodeError α) : Except DecodeError α :=
  r.mapError (·.under s)

/-! ## Values -/

/-- A value as a word. -/
def decodeWord : Value → Except DecodeError Nat
  | .integer n => if n < 0 then .error (.here (.wrongInteger n .word)) else .ok n.toNat
  | v => .error (.here (.wrongKind v .word))

/-- A value as a truth value. -/
def decodeTruth : Value → Except DecodeError Bool
  | .boolean b => .ok b
  | v => .error (.here (.wrongKind v .truth))

/-- A value as a text. -/
def decodeText : Value → Except DecodeError String
  | .string s => .ok s
  | v => .error (.here (.wrongKind v .text))

/-- Whether a value holds nothing, as the value of a name written as a table has to. -/
def isHollow : Value → Bool
  | .array [] => true
  | .rows [] => true
  | .table [] => true
  | _ => false

/-- A value as one of the known names. If the name is written as a table, a complaint about the name
points at the key, and one about what the key holds points at that, or else at the table. -/
def decodeChoice {α : Type} (ofName? : String → Option α) (known : List String) :
    Value → Except DecodeError α
  | .string name =>
    match ofName? name with
    | some a => .ok a
    | none => .error (.here (.unknownName name known))
  | .table [(name, v)] =>
    match ofName? name with
    | some a =>
      if isHollow v then .ok a
      else .error ⟨.filledName v, [.value [.entry name], .value [], .key []]⟩
    | none => .error ⟨.unknownName name known, [.key [.entry name]]⟩
  | .table entries => .error (.here (.notOneName entries.length))
  | _ => .error (.here .noName)

/-- A value as a level. -/
def decodeLevel : Value → Except DecodeError Log.Level :=
  decodeChoice Log.Level.ofName? (Log.Level.all.map Log.Level.name)

/-- A value as a layout. -/
def decodeLayout : Value → Except DecodeError Log.Layout :=
  decodeChoice Log.Layout.ofName? (Log.Layout.all.map Log.Layout.name)

/-! ## Tables -/

/-- Takes an entry of the table `heap` into account. -/
def heapEntry (capacity : Nat) : String × Value → Except DecodeError Nat
  | ("capacity_bytes", v) => decodeWord v
  | _ => .ok capacity

/-- Takes an entry of the table `log` into account. -/
def logEntry (log : LogSettings) : String × Value → Except DecodeError LogSettings
  | ("level", v) => (decodeLevel v).map fun level => { log with level }
  | ("format", v) => (decodeLayout v).map fun layout => { log with layout }
  | ("span_events", v) => (decodeTruth v).map fun spanEvents => { log with spanEvents }
  | ("filter", v) => (decodeText v).map fun filter => { log with filter := some filter }
  | _ => .ok log

/-- The names of the table `heap` in their order. -/
def heapNames : List String := ["capacity_bytes"]

/-- The names of the table `log` in their order. -/
def logNames : List String := ["level", "format", "span_events", "filter"]

/-- The values of an array under the names that belong to them, each with the step to it. -/
def positional (names : List String) (items : List Value) : List (Step × String × Value) :=
  (names.zip items).zipIdx.map fun (entry, i) => (.element i, entry)

/-- The entries of a value that stands for a table, each with the step to it: those of a table, or of
an array with the names in their order. -/
def tableEntries? (names : List String) : Value → Option (List (Step × String × Value))
  | .table entries => some (entries.map fun entry => (.entry entry.1, entry))
  | .array items => some (positional names items)
  | .rows tables => some (positional names (tables.map .table))
  | .date => some []
  | _ => none

/-- The value of `heap` as a capacity. -/
def decodeHeap (v : Value) : Except DecodeError Nat :=
  match tableEntries? heapNames v with
  | some entries =>
    entries.foldlM (fun capacity (s, entry) => under s (heapEntry capacity entry)) defaultCapacity
  | none => .error (.here (.wrongKind v .heapTable))

/-- The value of `log` as log settings. -/
def decodeLog (v : Value) : Except DecodeError LogSettings :=
  match tableEntries? logNames v with
  | some entries => entries.foldlM (fun log (s, entry) => under s (logEntry log entry)) {}
  | none => .error (.here (.wrongKind v .logTable))

/-- Takes an entry of a document into account. -/
def documentEntry (s : Settings) : String × Value → Except DecodeError Settings
  | ("heap", v) => (decodeHeap v).map fun capacity => { s with capacity }
  | ("log", v) => (decodeLog v).map fun log => { s with log }
  | _ => .ok s

/-- The settings that a document holds. -/
def decode (entries : Entries) : Except DecodeError Settings :=
  entries.foldlM (fun s entry => under (.entry entry.1) (documentEntry s entry)) {}

end VmSupport.Settings
