import VmSupport.Toml.Draft

/-!
# Where the parts of a document stand

A value does not know where it was read. A complaint about one can still point at it: the path that
leads to it in the document leads to it in the text as well. A **survey** of a text says which keys
and which values are written where; it goes into a value only as far as a path asks.

**What has an extent.** A value that is assigned reaches from its first character to its last. A
table under a header reaches from its header to the end of the last value that is assigned under that
header, and an array of such tables from the first to the last of them. A table that only a path made
is written nowhere in one piece and has no extent. Its key has one, as every key does: the key in
the header of a table that has one, and otherwise the key as it was first written.

The texts that are surveyed are well formed.
-/

namespace VmSupport.Toml

/-- A step from a value to one inside it. -/
inductive Step where
  | entry (name : String)
  | element (index : Nat)
  deriving DecidableEq, Repr

/-- The way from a document to a value in it. -/
abbrev Path := List Step

/-- A part of a text: the text from its first character on, and the text behind it. -/
structure Extent where
  start : List Char
  behind : List Char

/-- What can be pointed at. -/
inductive Spot where
  | value (path : Path)
  | key (path : Path)
  deriving DecidableEq, Repr

/-- The same spot, seen from one step further out. -/
def Spot.under (s : Step) : Spot → Spot
  | value path => value (s :: path)
  | key path => key (s :: path)

/-! ## The parts of a line -/

/-- Reads a key with the blanks around it, and answers where it stands. -/
def locatedKey : Reader (String × Extent) := fun s =>
  let start := dropWs s
  (simpleKey start).map fun (cs, r) => ((String.ofList cs, ⟨start, r⟩), dropWs r)

/-- Reads a path, and answers where its keys stand. -/
def locatedPath : Reader (List (String × Extent)) :=
  separated locatedKey '.'

/-- Reads a path, an equals sign and a value, and answers where they stand. -/
def locatedAssignment : Reader (List (String × Extent) × Extent) := fun s =>
  match locatedPath s with
  | some (path, '=' :: r) =>
    (value (dropWs r)).map fun (_, r') => ((path, ⟨dropWs r, r'⟩), dropWs r')
  | _ => none

/-- Reads a value between gaps, and answers where it stands. -/
def locatedItem : Reader Extent := fun s =>
  match dropGap s with
  | none => none
  | some start =>
    match value start with
    | none => none
    | some (_, r) => (dropGap r).map (⟨start, r⟩, ·)

/-! ## Surveys -/

/-- Which parts of a text stand where. -/
structure Survey where
  /-- The keys, the one that counts before others of the same path. -/
  keys : List (Path × Extent)
  /-- The values that are assigned, or stand in an array. -/
  values : List (Path × Extent)
  /-- The tables under headers, the last one first. -/
  headed : List (Path × Extent)

namespace Survey

/-- The survey of a text that has no parts. -/
def empty : Survey := ⟨[], [], []⟩

/-- The number of elements under headers that an array has so far. -/
def rowCount (sv : Survey) (path : Path) : Nat :=
  sv.headed.countP fun (p, _) => match p.getLast? with
    | some (.element _) => p.dropLast = path
    | _ => false

/-- Where a path goes on that came to an array of tables: in its last element. -/
def goOn (sv : Survey) (path : Path) : Path :=
  match sv.rowCount path with
  | 0 => path
  | n + 1 => path ++ [.element n]

/-- The paths of the keys that are written one after another, seen from a table. -/
def keyPaths (sv : Survey) (base : Path) : List (String × Extent) → List (Path × Extent)
  | [] => []
  | (name, e) :: rest =>
    let path := base ++ [.entry name]
    (path, e) :: sv.keyPaths (sv.goOn path) rest

/-- The path to which keys lead, seen from a table. -/
def target (sv : Survey) (base : Path) (keys : List (String × Extent)) : Path :=
  ((sv.keyPaths base keys).getLast?.map Prod.fst).getD base

/-- Takes down an assignment in a table. -/
def addAssignment (sv : Survey) (base : Path) (keys : List (String × Extent)) (e : Extent) : Survey :=
  { sv with
    keys := sv.keys ++ sv.keyPaths base keys
    values := sv.values ++ [(sv.target base keys, e)] }

/-- The survey of what is inside a value, given the text from the value on. -/
def ofValue : List Char → Survey
  | '[' :: r =>
    let items := ((separated locatedItem ',' r).getD ([], r)).1
    { empty with values := items.zipIdx.map fun (e, i) => ([.element i], e) }
  | '{' :: r =>
    let assignments := ((separated locatedAssignment ',' r).getD ([], r)).1
    assignments.foldl (fun sv (keys, e) => sv.addAssignment [] keys e) empty
  | _ => empty

/-- The path of the table that the last header opened. -/
def current (sv : Survey) : Path :=
  (sv.headed.head?.map Prod.fst).getD []

/-- Moves the end of the table that the last header opened. -/
def extendCurrent (sv : Survey) (behind : List Char) : Survey :=
  match sv.headed with
  | [] => sv
  | (path, e) :: rest => { sv with headed := (path, { e with behind }) :: rest }

/-- Takes down a header. The keys of a table's own header count before others; those of an array's
headers do not. -/
def addHeader (sv : Survey) (isElement : Bool) (keys : List (String × Extent)) (e : Extent) :
    Survey :=
  let path := sv.target [] keys
  let mentions := sv.keys ++ sv.keyPaths [] keys
  if isElement then
    { sv with
      keys := mentions
      headed := (path ++ [.element (sv.rowCount path)], e) :: sv.headed }
  else
    { sv with
      keys := (keys.getLast?.map fun (_, own) => (path, own)).toList ++ mentions
      headed := (path, e) :: sv.headed }

/-- Takes down a line of a document, given the text from its first character on. -/
def addLine (sv : Survey) (s : List Char) : Survey :=
  match s with
  | '[' :: '[' :: r =>
    match locatedPath r with
    | some (keys, ']' :: ']' :: behind) => sv.addHeader true keys ⟨s, behind⟩
    | _ => sv
  | '[' :: r =>
    match locatedPath r with
    | some (keys, ']' :: behind) => sv.addHeader false keys ⟨s, behind⟩
    | _ => sv
  | _ =>
    match locatedAssignment s with
    | some ((keys, e), _) => (sv.addAssignment sv.current keys e).extendCurrent e.behind
    | none => sv

/-- The survey of a document. -/
def ofDocument (s : List Char) : Survey :=
  (((lines (dropMark s)).getD []).map Prod.fst).foldl addLine empty

/-- The extent of a value that this survey itself knows. -/
def valueHere? (sv : Survey) (path : Path) : Option Extent :=
  match sv.headed.lookup path, sv.rowCount path with
  | some e, _ => some e
  | none, 0 => sv.values.lookup path
  | none, n + 1 =>
    match sv.headed.lookup (path ++ [.element 0]), sv.headed.lookup (path ++ [.element n]) with
    | some first, some last => some ⟨first.start, last.behind⟩
    | _, _ => none

/-- Looks a path up in this survey, or in the survey of the value on the way to it. -/
def find? (here? : Survey → Path → Option Extent) (sv : Survey) (path : Path) : Option Extent :=
  match here? sv path with
  | some e => some e
  | none =>
    match sv.values.find? fun v => v.1.isPrefixOf path with
    | none => none
    | some (p, e) =>
      let rest := path.drop p.length
      if _h : rest.length < path.length then (ofValue e.start).find? here? rest else none
termination_by path.length
decreasing_by exact _h

/-- The extent of a spot. -/
def spot? (sv : Survey) : Spot → Option Extent
  | .value path => sv.find? valueHere? path
  | .key path => sv.find? (fun sv path => sv.keys.lookup path) path

end Survey

/-- The extent of the first of several spots that has one. -/
def extentOf? (s : List Char) (spots : List Spot) : Option Extent :=
  spots.findSome? (Survey.ofDocument s).spot?

end VmSupport.Toml
