import VmSupport.Text.Ranges
import VmSupport.Text.Tables.CaseRuns
import VmSupport.Text.Tables.Cased

/-!
# Lower case over all of Unicode

Lower-casing a text replaces each capital by its small letter. Two capitals need more than a table
of letters. The dotted capital I becomes two characters, an `i` and the dot above it. The capital
sigma becomes the final form where it ends a word: a cased character stands before it, none after
it, and case-ignorable characters on either side are looked through.

Matching a name after lower-casing is therefore wider than matching it up to ASCII case only where
some other character has an ASCII small letter. There are two: the Kelvin sign and the dotted
capital I.
-/

namespace VmSupport.Text

/-- The small letter that a run gives to a code point, if the code point is a member. -/
def CaseRun.smallOf? (r : CaseRun) (n : Nat) : Option Nat :=
  if r.first ≤ n ∧ n ≤ r.last ∧ (n - r.first) % r.step = 0 then
    some (r.small + (n - r.first))
  else
    none

/-- The code point of the small letter, which is the code point itself for all but capitals. -/
def smallCode (n : Nat) : Nat :=
  (caseRuns.findSome? (·.smallOf? n)).getD n

/-- The small form of a character that stands alone. -/
def lowerChar (c : Char) : List Char :=
  if c = 'İ' then ['i', '\u0307'] else [Char.ofNat (smallCode c.toNat)]

/-- Whether a character belongs to a pair of cases. -/
def isCased (c : Char) : Bool :=
  inRanges casedRanges c

/-- Whether a word goes on through a character. -/
def isCaseIgnorable (c : Char) : Bool :=
  inRanges caseIgnorableRanges c

/-- Whether the first character that is not case-ignorable is a cased one. -/
def startsCased (cs : List Char) : Bool :=
  match cs.dropWhile isCaseIgnorable with
  | [] => false
  | c :: _ => isCased c

/-- Lower-cases what is left of a text; `before` holds the characters already passed, last first. -/
def lowerFrom (before : List Char) : List Char → List Char
  | [] => []
  | c :: rest =>
    (if c = 'Σ' then
      [if startsCased before && !startsCased rest then 'ς' else 'σ']
    else
      lowerChar c) ++ lowerFrom (c :: before) rest

/-- The characters in lower case. -/
def lowerChars (cs : List Char) : List Char :=
  lowerFrom [] cs

/-- The text in lower case. -/
def lower (s : String) : String :=
  String.ofList (lowerChars s.toList)

@[simp] theorem lowerChars_nil : lowerChars [] = [] := rfl

end VmSupport.Text
