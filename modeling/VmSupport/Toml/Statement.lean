import VmSupport.Toml.Reader

/-!
# The lines of a document

Read line by line, a document is a list of statements: a header of a table, a header of an element of
an array of tables, or an assignment. Blank lines and comments say nothing. What the statements make
together is decided afterwards, in `VmSupport.Toml.Draft`.
-/

namespace VmSupport.Toml

/-- What a line says. -/
inductive Statement where
  /-- The assignments that follow belong to the table at this path. -/
  | table (path : List String)
  /-- The assignments that follow belong to a new element of the array at this path. -/
  | element (path : List String)
  /-- The value at this path, seen from the last header. -/
  | assign (path : List String) (v : Value)

/-- Takes the end of a line off the front: a line break, or the end of the document. -/
def lineBreak : List Char → Option (List Char)
  | [] => some []
  | '\n' :: r => some r
  | '\r' :: '\n' :: r => some r
  | _ => none

/-- Takes blanks, a comment and the end of the line off the front. -/
def lineEnd (s : List Char) : Option (List Char) :=
  match dropWs s with
  | '#' :: r => lineBreak (dropComment r)
  | r => lineBreak r

/-- Reads the rest of a header behind its opening brackets. -/
def headerRest (s : List Char) : Option (Statement × List Char) :=
  match s with
  | '[' :: r =>
    match keyPath r with
    | some (path, ']' :: ']' :: r') => (lineEnd r').map (.element path, ·)
    | _ => none
  | _ =>
    match keyPath s with
    | some (path, ']' :: r') => (lineEnd r').map (.table path, ·)
    | _ => none

/-- Reads an assignment. -/
def assignment (s : List Char) : Option (Statement × List Char) :=
  match keyPath s with
  | some (path, '=' :: r) =>
    match value (dropWs r) with
    | some (v, r') => (lineEnd r').map (.assign path v, ·)
    | none => none
  | _ => none

/-- Reads one line without the blanks in front of it. -/
def line (s : List Char) : Option (List Statement × List Char) :=
  match s with
  | '[' :: r => (headerRest r).map fun (st, r') => ([st], r')
  | '#' :: _ => (lineEnd s).map ([], ·)
  | '\n' :: r => some ([], r)
  | '\r' :: '\n' :: r => some ([], r)
  | _ => (assignment s).map fun (st, r) => ([st], r)

/-- Reads all lines: each as the text from its first character on, with what it says. A line that
takes nothing off the front ends the reading. -/
def lines (s : List Char) : Option (List (List Char × List Statement)) :=
  match dropWs s with
  | [] => some []
  | c :: r =>
    match line (c :: r) with
    | none => none
    | some (sts, rest) =>
      if _h : rest.length < s.length then (lines rest).map ((c :: r, sts) :: ·) else none
termination_by s.length
decreasing_by exact _h

/-- Reads what all lines say. -/
def statements (s : List Char) : Option (List Statement) :=
  (lines s).map fun ls => ls.flatMap Prod.snd

end VmSupport.Toml
