import VmSupport.Toml.Statement

/-!
# Putting a document together

The statements of a document build up a tree of tables. How a table came about decides what may be
added to it later:

* a table under its own **header** is closed to paths of assignments elsewhere, and may have its
  header only once;
* a table that only a longer header **implied** may still get a header of its own, and then takes the
  place at the end of its parent;
* a table that only a **path** of an assignment made is open to further paths from the same table,
  and to longer headers, but never gets a header of its own.

A path through an array of tables means its last element. Values, inline tables among them, cannot be
added to.
-/

namespace VmSupport.Toml

/-- How a table came about. -/
inductive Origin where
  | header
  | implied
  | path
  deriving DecidableEq, Repr

/-- A part of a document that is being put together. -/
inductive Node where
  | value (v : Value)
  | table (origin : Origin) (entries : List (String × Node))
  | elements (tables : List (List (String × Node)))

/-- The entries of a table that is being put together. -/
abbrev Nodes := List (String × Node)

/-- Replaces the last of several. -/
def replaceLast {α : Type} (as : List α) (a : α) : List α :=
  as.dropLast ++ [a]

/-- Changes the table at a path of headers, making the tables on the way that are missing. -/
def changeAt (change : Nodes → Option Nodes) : List String → Nodes → Option Nodes
  | [], es => change es
  | name :: path, es =>
    match es.lookup name with
    | none => (changeAt change path []).map fun inner => es ++ [(name, .table .implied inner)]
    | some (.value _) => none
    | some (.elements ts) =>
      (changeAt change path (ts.getLast?.getD [])).map fun inner =>
        replaceEntry name (.elements (replaceLast ts inner)) es
    | some (.table origin inner) =>
      (changeAt change path inner).map fun inner' =>
        replaceEntry name (.table origin inner') es

/-- Adds a value under a name that is not taken. -/
def addEntry (name : String) (node : Node) (es : Nodes) : Option Nodes :=
  match es.lookup name with
  | none => some (es ++ [(name, node)])
  | some _ => none

/-- Adds the value of an assignment to the table that the last header opened. Only a path may lead to
the table that takes the value, so every table on the way must be open to paths. -/
def assignAt (v : Value) : List String → Nodes → Option Nodes
  | [], _ => none
  | [name], es => addEntry name (.value v) es
  | name :: path, es =>
    match es.lookup name with
    | none => (assignAt v path []).map fun inner => es ++ [(name, .table .path inner)]
    | some (.value _) => none
    | some (.elements ts) =>
      if path.length ≤ 1 then
        none
      else
        (assignAt v path (ts.getLast?.getD [])).map fun inner =>
          replaceEntry name (.elements (replaceLast ts inner)) es
    | some (.table .header _) => none
    | some (.table .implied inner) =>
      if path.length ≤ 1 then
        none
      else
        (assignAt v path inner).map fun inner' =>
          replaceEntry name (.table .implied inner') es
    | some (.table .path inner) =>
      (assignAt v path inner).map fun inner' => replaceEntry name (.table .path inner') es

/-- Takes the table with this name out of its parent, if a header may still open it. -/
def takeImplied (name : String) (es : Nodes) : Option Nodes :=
  match es.lookup name with
  | none => some []
  | some (.table .implied inner) => some inner
  | some _ => none

/-- Removes the entry with this name. -/
def removeEntry (name : String) (es : Nodes) : Nodes :=
  es.filter fun e => e.1 ≠ name

/-- Opens a table under its own header, at the end of its parent. -/
def openTable (name : String) (es : Nodes) : Option Nodes :=
  (takeImplied name es).map fun inner => removeEntry name es ++ [(name, .table .header inner)]

/-- Opens a new element of an array of tables. -/
def openElement (name : String) (es : Nodes) : Option Nodes :=
  match es.lookup name with
  | none => some (es ++ [(name, .elements [[]])])
  | some (.elements ts) => some (replaceEntry name (.elements (ts ++ [[]])) es)
  | some _ => none

/-- A document that is being put together: what there is, and the path of the last header. -/
structure Draft where
  nodes : Nodes
  current : List String

/-- Changes the parent of the last name of a path. -/
def changeParent (change : String → Nodes → Option Nodes) (path : List String) (es : Nodes) :
    Option Nodes :=
  match path.getLast? with
  | none => none
  | some name => changeAt (change name) path.dropLast es

/-- Adds one statement to a document. -/
def Draft.add (d : Draft) : Statement → Option Draft
  | .table path => (changeParent openTable path d.nodes).map fun nodes => ⟨nodes, path⟩
  | .element path => (changeParent openElement path d.nodes).map fun nodes => ⟨nodes, path⟩
  | .assign path v =>
    (changeAt (assignAt v path) d.current d.nodes).map fun nodes => ⟨nodes, d.current⟩

/-- The document of some statements. -/
def Draft.ofStatements? (sts : List Statement) : Option Draft :=
  sts.foldlM Draft.add ⟨[], []⟩

mutual
/-- The value of a part of a document. -/
def Node.toValue : Node → Value
  | .value v => v
  | .table _ entries => .table (nodesValue entries)
  | .elements tables => .rows (rowsValue tables)
/-- The values of named parts. -/
def nodesValue : List (String × Node) → Entries
  | [] => []
  | (name, node) :: es => (name, node.toValue) :: nodesValue es
/-- The values of the elements of an array of tables. -/
def rowsValue : List (List (String × Node)) → List Entries
  | [] => []
  | t :: ts => nodesValue t :: rowsValue ts
end

/-- Drops one byte-order mark at the front. -/
def dropMark : List Char → List Char
  | '\ufeff' :: r => r
  | r => r

/-- Reads a document. -/
def read? (s : String) : Option Entries :=
  ((statements (dropMark s.toList)).bind Draft.ofStatements?).map fun d => nodesValue d.nodes

end VmSupport.Toml
