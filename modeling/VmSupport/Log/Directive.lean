import VmSupport.Decimal.Natural
import VmSupport.Log.Level
import VmSupport.Text.Blank
import VmSupport.Text.Cut
import VmSupport.Text.Tables.Alphanumeric

/-!
# Directives

A directive sets a threshold for what comes from the targets that begin with its text, or from any
target if it has none. It may be narrower: hold inside spans of one name, or for what has fields of
certain names, or of certain names and values.

It is written `target[span{field=value,field}]=level`, and much of that may be missing. What has
neither a bracket nor an equals sign is a level, or else a target. Without a level everything is
shown. A level is a name in any case or a number from 0, which is off, to 5. The first character is a
bracket, a letter, a number, `_`, `-` or `:`; anything else makes the piece no directive, as does a
bracket that is not closed, a condition without any text, or a level that is not known. Blanks belong
to the parts that they stand in: a level with a blank is not known.

**Values.** A number or a truth value can be the value of a field, and so can a pattern. Which texts
are patterns is not decided here (`Patterns`).

**Blanks in front.** The signs that part a piece are looked for in the trimmed piece, but what is
cut out is counted from the beginning of the piece as it is. With blanks in front each part is cut
out too early, and a cut inside a character is a fault.
-/

namespace VmSupport.Log

/-- The mildest level that is shown, or nothing is shown at all. -/
inductive Threshold where
  | off
  | level (mildest : Level)
  deriving DecidableEq, Repr

namespace Threshold

/-- Whether an event of a level is shown. -/
def allows : Threshold → Level → Bool
  | off, _ => false
  | level mildest, l => decide (mildest.rank ≤ l.rank)

/-- The thresholds with the number and the name of each. -/
def known : List (Nat × String × Threshold) :=
  [(0, "off", off), (1, "error", level .error), (2, "warn", level .warn), (3, "info", level .info),
   (4, "debug", level .debug), (5, "trace", level .trace)]

/-- The threshold that shows everything. -/
def all : Threshold := level .trace

/-- The threshold with a number, or with a name in any case of its letters. -/
def read? (cs : List Char) : Option Threshold :=
  match Decimal.readWord? cs with
  | some n => (known.find? (·.1 == n)).map (·.2.2)
  | none =>
    let small := String.ofList (cs.map Char.toLower)
    (known.find? (·.2.1 == small)).map (·.2.2)

/-- The threshold behind an equals sign, where nothing shows everything. -/
def readOrAll? (cs : List Char) : Option Threshold :=
  if cs.isEmpty then some all else read? cs

end Threshold

/-- Which texts can be the value of a field. -/
abbrev Patterns := String → Bool

/-- A condition on a field: its name, and the value it has to have, if it is to have one. -/
structure Condition where
  name : String
  value : Option String
  deriving DecidableEq, Repr

/-- Reads a condition: a name and perhaps, between the first equals sign and the next, a value. -/
def Condition.read? (patterns : Patterns) (cs : List Char) : Option Condition :=
  let name := String.ofList (cs.takeWhile (· ≠ '='))
  if cs.isEmpty then
    none
  else
    match cs.dropWhile (· ≠ '=') with
    | [] => some ⟨name, none⟩
    | _ :: rest =>
      let value := String.ofList (rest.takeWhile (· ≠ '='))
      if patterns value then some ⟨name, some value⟩ else none

/-- A threshold, and what it is for. -/
structure Directive where
  target : Option String := none
  span : Option String := none
  fields : List Condition := []
  threshold : Threshold := .all
  deriving DecidableEq, Repr

/-- Why a piece of text gives no directive. -/
inductive Refusal where
  | malformed
  | fault (fault : Fault)
  deriving DecidableEq, Repr

namespace Directive

/-- Whether the first character of a target or a level may be this one. -/
def isFirst (c : Char) : Bool :=
  Text.inRanges Text.alphanumericRanges c || c = '_' || c = '-' || c = ':'

/-- Reads a piece without brackets and equals signs. -/
def ofBare (cs : List Char) : Directive :=
  match Threshold.read? cs with
  | some threshold => { threshold }
  | none => { target := some (String.ofList cs) }

/-! ## Parts -/

/-- Which part of a piece is being read, and from which byte on. -/
inductive Part where
  | start
  /-- A target or a level, from the first byte on. -/
  | word
  | span (front : Nat)
  | field (front : Nat)
  /-- Behind the fields. -/
  | fields
  /-- Behind the span. -/
  | spanned
  | level (front : Nat)
  | complete
  deriving DecidableEq, Repr

/-- A directive as far as it has been read. -/
structure Draft where
  part : Part
  directive : Directive
  deriving DecidableEq, Repr

/-- A part of a piece, between two bytes. -/
def slice (front back : Nat) (piece : List Char) : Except Refusal (List Char) :=
  (Text.sliceBytes front back piece).mapError .fault

/-- What was read, or nothing was. -/
def found {α : Type} (read : Option α) : Except Refusal α :=
  read.elim (.error .malformed) .ok

/-- Reads the target in front of an index. -/
def readTarget (piece : List Char) (index : Nat) (next : Part) (d : Directive) :
    Except Refusal Draft :=
  (slice 0 index piece).map fun cs => ⟨next, { d with target := some (String.ofList cs) }⟩

/-- Reads the span in front of a bracket that closes it. -/
def readSpan (piece : List Char) (front index : Nat) (d : Directive) : Except Refusal Draft :=
  (slice front index piece).map fun cs => ⟨.spanned, { d with span := some (String.ofList cs) }⟩

/-- Reads the span in front of its fields. It may be missing. -/
def readSpanOfFields (piece : List Char) (front index : Nat) (d : Directive) :
    Except Refusal Draft :=
  (slice front index piece).map fun cs =>
    ⟨.field (index + 1),
      { d with span := if cs.isEmpty then none else some (String.ofList cs) }⟩

/-- Reads a condition on a field. -/
def readField (patterns : Patterns) (piece : List Char) (front index : Nat) (next : Part)
    (d : Directive) : Except Refusal Draft :=
  (slice front index piece).bind fun cs => (found (Condition.read? patterns cs)).map fun field =>
    ⟨next, { d with fields := d.fields ++ [field] }⟩

/-- Reads the level in front of an index. -/
def readLevel (piece : List Char) (front index : Nat) (d : Directive) : Except Refusal Draft :=
  (slice front index piece).bind fun cs => (found (Threshold.readOrAll? cs)).map fun threshold =>
    ⟨.complete, { d with threshold }⟩

/-- Reads one more character, at the byte `index` of the trimmed piece. -/
def step (patterns : Patterns) (piece : List Char) (index : Nat) (c : Char) :
    Draft → Except Refusal Draft
  | ⟨.start, d⟩ =>
    if c = '[' then .ok ⟨.span (index + 1), d⟩
    else if isFirst c then .ok ⟨.word, d⟩
    else .error .malformed
  | ⟨.word, d⟩ =>
    if c = '=' then readTarget piece index (.level (index + 1)) d
    else if c = '[' then readTarget piece index (.span (index + 1)) d
    else if c = ',' then .ok ⟨.complete, ofBare piece⟩
    else .ok ⟨.word, d⟩
  | ⟨.span front, d⟩ =>
    if c = ']' then readSpan piece front index d
    else if c = '\x7b' then readSpanOfFields piece front index d
    else .ok ⟨.span front, d⟩
  | ⟨.field front, d⟩ =>
    if c = '\x7d' then readField patterns piece front index .fields d
    else if c = ',' then readField patterns piece front index (.field (index + 1)) d
    else .ok ⟨.field front, d⟩
  | ⟨.fields, d⟩ => if c = ']' then .ok ⟨.spanned, d⟩ else .error .malformed
  | ⟨.spanned, d⟩ => if c = '=' then .ok ⟨.level (index + 1), d⟩ else .error .malformed
  | ⟨.level front, d⟩ =>
    if c = ',' then readLevel piece front index d else .ok ⟨.level front, d⟩
  | ⟨.complete, _⟩ => .error .malformed

/-- Reads characters from the byte `index` of the trimmed piece on. -/
def stepAll (patterns : Patterns) (piece : List Char) (index : Nat) (d : Draft) :
    List Char → Except Refusal Draft
  | [] => .ok d
  | c :: cs =>
    (step patterns piece index c d).bind fun d =>
      stepAll patterns piece (index + c.utf8Size) d cs

/-- What a piece says that ends in this part. -/
def finish (piece : List Char) : Draft → Except Refusal Directive
  | ⟨.word, _⟩ => .ok (ofBare piece)
  | ⟨.level front, d⟩ =>
    ((Text.dropBytes front piece).mapError .fault).bind fun cs =>
      (found (Threshold.readOrAll? cs)).map fun threshold => { d with threshold }
  | ⟨.spanned, d⟩ | ⟨.complete, d⟩ => .ok d
  | _ => .error .malformed

/-- Reads a piece. -/
def read (patterns : Patterns) (piece : List Char) : Except Refusal Directive :=
  (stepAll patterns piece 0 ⟨.start, {}⟩ (Text.trimChars piece)).bind (finish piece)

/-! ## What a directive is for -/

/-- Whether the directive can decide about an event outside of all spans. One that names a span or
the value of a field holds inside spans only. -/
def isPlain (d : Directive) : Bool :=
  d.span.isNone && d.fields.all (·.value.isNone)

/-- The names of the fields that it asks for. -/
def names (d : Directive) : List String :=
  d.fields.map (·.name)

/-- Whether the directive says something about events of a target that have fields of these names. -/
def covers (d : Directive) (target : String) (fields : List String) : Bool :=
  (match d.target with
    | none => true
    | some t => t.toList.isPrefixOf target.toList) &&
  d.names.all fields.contains

/-- How specific the target is: the longer its text, the more. -/
def specificity (d : Directive) : Nat :=
  match d.target with
  | none => 0
  | some t => t.length + 1

/-- Whether another directive takes precedence: its target is more specific, or as specific, and it
asks for more fields, or for as many, whose names do not come earlier. -/
def yieldsTo (d other : Directive) : Bool :=
  match compare d.specificity other.specificity with
  | .lt => true
  | .gt => false
  | .eq =>
    match compare d.names.length other.names.length with
    | .lt => true
    | .gt => false
    | .eq => !decide (other.names < d.names)

end Directive

end VmSupport.Log
