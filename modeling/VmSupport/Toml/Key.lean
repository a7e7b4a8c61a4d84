import VmSupport.Toml.Text

/-!
# Reading keys

A key is bare (letters, digits, `-` and `_`), or a text on one line in double or single quotes. Keys
joined by points make a path, and blanks may stand around each key. A path that is too long is
refused, as the nesting that it would make is.
-/

namespace VmSupport.Toml

/-- The number of levels that a document may not reach. -/
def nestingLimit : Nat := 80

/-- Reads items with a separating character between them, at least one. A separator without an item
behind it is left to the rest. -/
def separated {α : Type} (item : Reader α) (separator : Char) (s : List Char) :
    Option (List α × List Char) :=
  match item s with
  | none => none
  | some (a, []) => some ([a], [])
  | some (a, c :: r) =>
    if _h : c = separator ∧ r.length < s.length then
      match separated item separator r with
      | some (rest, r') => some (a :: rest, r')
      | none => some ([a], c :: r)
    else
      some ([a], c :: r)
termination_by s.length
decreasing_by exact _h.2

/-- Whether a character may stand in a bare key. -/
def isBareKeyChar (c : Char) : Bool :=
  c.isAlphanum || c = '-' || c = '_'

/-- Reads a single key. -/
def simpleKey (s : List Char) : Option (List Char × List Char) :=
  match s with
  | '"' :: r => basicText r
  | '\x27' :: r => literalText r
  | _ =>
    match s.takeWhile isBareKeyChar with
    | [] => none
    | cs => some (cs, s.dropWhile isBareKeyChar)

/-- Reads a key with the blanks around it. -/
def spacedKey (s : List Char) : Option (String × List Char) :=
  (simpleKey (dropWs s)).map fun (cs, r) => (String.ofList cs, dropWs r)

/-- Reads a path. -/
def keyPath (s : List Char) : Option (List String × List Char) :=
  match separated spacedKey '.' s with
  | some (path, r) => if path.length < nestingLimit then some (path, r) else none
  | none => none

end VmSupport.Toml
