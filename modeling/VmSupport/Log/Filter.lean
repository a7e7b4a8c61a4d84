import VmSupport.Log.Directive

/-!
# Filters

A filter holds directives. Of those that say something about an event the most specific one decides:
the one with the longest target, and of these the one that asks for the most fields. An event about
which none says anything is not shown. A directive that is added replaces an earlier one with the
same target and the same fields, so a filter holds at most one for each.

**Spans.** Events are only ever reported outside of spans: nothing in the library opens one. So the
directives that hold inside spans only are read, and left out (`Directive.isPlain`).

**From text.** A filter that is given as one text is cut at its commas and nowhere else, and every
piece has to be a directive. The pieces of a text of further directives are trimmed, and those that
are no directives are passed over. As blanks in front of a piece are what makes reading it fault, the
first may fault and the second never does (`Filter.addPieces_eq`).
-/

namespace VmSupport.Log

/-- Directives, one for each target and fields. -/
structure Filter where
  directives : List Directive
  deriving DecidableEq, Repr

namespace Filter

/-- The filter that shows nothing. -/
def empty : Filter := ⟨[]⟩

/-- Adds a directive, in place of one with the same target and fields if there is one. -/
def add (f : Filter) (d : Directive) : Filter :=
  if d.isPlain then
    ⟨f.directives.filter (fun e => e.target ≠ d.target ∨ e.names ≠ d.names) ++ [d]⟩
  else
    f

/-- The filter of some directives. -/
def ofDirectives (ds : List Directive) : Filter :=
  ds.foldl add empty

/-- The more specific of two directives. -/
def moreSpecific (best : Option Directive) (d : Directive) : Option Directive :=
  match best with
  | none => some d
  | some b => if b.yieldsTo d then some d else some b

/-- The directive that decides about events of a target that have these fields. -/
def deciding? (f : Filter) (target : String) (fields : List String) : Option Directive :=
  (f.directives.filter (·.covers target fields)).foldl moreSpecific none

/-- Whether an event of a target and a level that has these fields is shown. -/
def passes (f : Filter) (target : String) (fields : List String) (l : Level) : Bool :=
  match f.deciding? target fields with
  | some d => d.threshold.allows l
  | none => false

/-- The pieces of a text, without the empty ones. -/
def pieces (s : String) : List (List Char) :=
  ((s.splitOn ",").map String.toList).filter (!·.isEmpty)

/-- Reads pieces up to the first that is no directive; all of them have to be. -/
def readAll (patterns : Patterns) : List (List Char) → Except Fault (Option (List Directive))
  | [] => .ok (some [])
  | cs :: rest =>
    match Directive.read patterns cs with
    | .error (.fault f) => .error f
    | .error .malformed => .ok none
    | .ok d =>
      match readAll patterns rest with
      | .error f => .error f
      | .ok ds => .ok (ds.map (d :: ·))

/-- Reads a filter every piece of which has to be a directive. -/
def read (patterns : Patterns) (s : String) : Except Fault (Option Filter) :=
  (readAll patterns (pieces s)).map fun ds => ds.map ofDirectives

/-- The text that all targets of the library begin with. -/
def libraryTarget : String := "vm_native"

/-- The filter for a level: the library's own events from that level on. -/
def ofLevel (l : Level) : Filter :=
  ofDirectives [{ target := some libraryTarget, threshold := .level l }]

/-- Adds a trimmed piece, or puts it with the pieces that are no directives. -/
def addPiece (patterns : Patterns) (state : Filter × List String) (cs : List Char) :
    Except Fault (Filter × List String) :=
  match Directive.read patterns cs with
  | .ok d => .ok (state.1.add d, state.2)
  | .error .malformed => .ok (state.1, state.2 ++ [String.ofList cs])
  | .error (.fault f) => .error f

/-- The pieces of a text without the blanks around them, and without those that are blank. -/
def trimmedPieces (s : String) : List (List Char) :=
  ((s.splitOn ",").map fun p => Text.trimChars p.toList).filter (!·.isEmpty)

/-- Adds the pieces of a text that are directives, blanks around them aside, and answers the pieces
that are not. -/
def addPieces (patterns : Patterns) (f : Filter) (s : String) :
    Except Fault (Filter × List String) :=
  (trimmedPieces s).foldlM (addPiece patterns) (f, [])

/-- The filter for a variable, a level and a text of further directives, with the pieces of that text
that are no directives. The variable, if it is a filter, takes the place of the level. -/
def build (patterns : Patterns) (fromVariable : Option String) (l : Level)
    (further : Option String) : Except Fault (Filter × List String) :=
  (fromVariable.elim (.ok none) (read patterns)).bind fun base =>
    let base := base.getD (ofLevel l)
    further.elim (.ok (base, [])) (base.addPieces patterns)

end Filter

end VmSupport.Log
