import VmSupport.Toml.Key
import VmSupport.Toml.Number

/-!
# Reading values

A value is a text, a number, a date, a truth value, an array or an inline table. Arrays may run over
several lines, with comments in between, and may end in a comma; inline tables may not. A path as a
key of an inline table makes inner tables, which further paths may fill, but a table or value that
stands on its own cannot be added to.

Arrays and inline tables nest. The depth that is left shrinks with each level, which is what makes
the reader end.
-/

namespace VmSupport.Toml

/-! ## What stands between values -/

/-- Drops a comment up to the end of its line; a control character ends it early. -/
def dropComment (s : List Char) : List Char :=
  s.dropWhile isLineChar

/-- Drops blanks, line breaks and comments; answers nothing where a comment does not end in a line
break. -/
def dropGap (s : List Char) : Option (List Char) :=
  match _hs : dropWs s with
  | '\n' :: r => dropGap r
  | '\r' :: '\n' :: r => dropGap r
  | '#' :: r =>
    match _hr : dropComment r with
    | '\n' :: r' => dropGap r'
    | '\r' :: '\n' :: r' => dropGap r'
    | _ => none
  | r => some r
termination_by s.length
decreasing_by
  all_goals
    have h₁ := congrArg List.length _hs
    have h₂ := (List.dropWhile_sublist isWs (l := s)).length_le
    simp only [dropWs, List.length_cons] at h₁
    first
      | omega
      | (have h₃ := congrArg List.length _hr
         have h₄ := (List.dropWhile_sublist isLineChar (l := r)).length_le
         simp only [dropComment, List.length_cons] at h₃
         omega)

/-! ## Inline tables -/

/-- An entry of an inline table that is being put together: a finished value, or a table that only
paths have made. -/
inductive InlineNode where
  | value (v : Value)
  | path (entries : List (String × InlineNode))

/-- Replaces the value of a name, which must be present. -/
def replaceEntry {α : Type} (name : String) (v : α) : List (String × α) → List (String × α)
  | [] => []
  | (k, w) :: es => if k = name then (k, v) :: es else (k, w) :: replaceEntry name v es

/-- Adds a value at a path, unless something that stands on its own is in the way. -/
def addInline (v : Value) : List String → List (String × InlineNode) →
    Option (List (String × InlineNode))
  | [], _ => none
  | [name], es =>
    match es.lookup name with
    | none => some (es ++ [(name, .value v)])
    | some _ => none
  | name :: path, es =>
    match es.lookup name with
    | none => (addInline v path []).map fun inner => es ++ [(name, .path inner)]
    | some (.path inner) => (addInline v path inner).map fun inner' =>
        replaceEntry name (.path inner') es
    | some (.value _) => none

mutual
/-- The value of an entry. -/
def InlineNode.toValue : InlineNode → Value
  | .value v => v
  | .path entries => .table (inlineEntries entries)
/-- The values of entries. -/
def inlineEntries : List (String × InlineNode) → Entries
  | [] => []
  | (name, node) :: es => (name, node.toValue) :: inlineEntries es
end

/-- Puts the assignments of an inline table together. -/
def inlineTable (assignments : List (List String × Value)) : Option Value :=
  (assignments.foldlM (fun es a => addInline a.2 a.1 es) []).map fun es => .table (inlineEntries es)

/-! ## Values -/

/-- Reads a value that holds no other values. -/
def scalar (s : List Char) : Option (Value × List Char) :=
  match s with
  | '"' :: _ => (text s).map fun (cs, r) => (.string (String.ofList cs), r)
  | '\x27' :: _ => (text s).map fun (cs, r) => (.string (String.ofList cs), r)
  | 't' :: 'r' :: 'u' :: 'e' :: r => some (.boolean true, r)
  | 'f' :: 'a' :: 'l' :: 's' :: 'e' :: r => some (.boolean false, r)
  | _ => numeric s

/-- Reads a value between gaps. -/
def gapped (value : Reader Value) : Reader Value := fun s =>
  match dropGap s with
  | none => none
  | some r =>
    match value r with
    | none => none
    | some (v, r') => (dropGap r').map (v, ·)

/-- Reads the rest of an array behind its opening bracket. -/
def arrayRest (value : Reader Value) (s : List Char) : Option (Value × List Char) :=
  let (items, r) := (separated (gapped value) ',' s).getD ([], s)
  let r := match items, r with
    | _ :: _, ',' :: r' => r'
    | _, _ => r
  match dropGap r with
  | some (']' :: rest) => some (.array items, rest)
  | _ => none

/-- Reads a path, an equals sign and a value, with the blanks around them. -/
def inlineAssignment (value : Reader Value) : Reader (List String × Value) := fun s =>
  match keyPath s with
  | some (path, '=' :: r) => (value (dropWs r)).map fun (v, r') => ((path, v), dropWs r')
  | _ => none

/-- Reads the rest of an inline table behind its opening brace. -/
def inlineTableRest (value : Reader Value) (s : List Char) : Option (Value × List Char) :=
  let (assignments, r) := (separated (inlineAssignment value) ',' s).getD ([], s)
  match dropWs r with
  | '}' :: rest => (inlineTable assignments).map (·, rest)
  | _ => none

/-- Reads a value that nests less deep than `depth`. -/
def valueWithin : Nat → Reader Value
  | 0, s => scalar s
  | depth + 1, s =>
    match s with
    | '[' :: r => arrayRest (valueWithin depth) r
    | '{' :: r => inlineTableRest (valueWithin depth) r
    | _ => scalar s

/-- Reads a value. -/
def value : Reader Value :=
  valueWithin (nestingLimit - 1)

end VmSupport.Toml
