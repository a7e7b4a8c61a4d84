/-!
# Reading quoted text

TOML quotes text in four ways. A **basic** text stands between double quotes and may hold escapes, a
**literal** text stands between single quotes and is taken as it is. Three quotes open the multi-line
form of either, which may hold line breaks and runs of up to two of its own quotes; a line break
right after the opening quotes does not count, and in the basic form a backslash at the end of a
line skips everything up to the next character that is no blank and no line break.

Each reader takes the characters behind the opening quotes and answers the text together with what
follows the closing quotes, or nothing if the text is not well formed. Every line break reads as a
single line feed.
-/

namespace VmSupport.Toml

/-- A reader takes a part from the front and answers it with the rest, or answers nothing. -/
abbrev Reader (α : Type) := List Char → Option (α × List Char)

/-- Puts a character before the text that the rest is read as. -/
def withChar (c : Char) : Option (List Char × List Char) → Option (List Char × List Char)
  | some (cs, rest) => some (c :: cs, rest)
  | none => none

/-- Space and tab, the blanks inside a line. -/
def isWs (c : Char) : Bool :=
  c = ' ' || c = '\t'

/-- Drops the blanks at the front. -/
def dropWs (cs : List Char) : List Char :=
  cs.dropWhile isWs

/-- Whether a character may stand in a line: everything but the controls, except for the tab. -/
def isLineChar (c : Char) : Bool :=
  c = '\t' || (decide (' ' ≤ c) && c ≠ '\x7f')

/-- Drops one line break at the front, if there is one. -/
def dropLineBreak : List Char → List Char
  | '\n' :: r => r
  | '\r' :: '\n' :: r => r
  | r => r

/-- Whether nothing but blanks stands before the next line break. -/
def breaksLine (cs : List Char) : Bool :=
  match dropWs cs with
  | '\n' :: _ => true
  | '\r' :: '\n' :: _ => true
  | _ => false

/-- The character behind an escape of two characters. -/
def escaped? : Char → Option Char
  | 'b' => some '\x08'
  | 't' => some '\t'
  | 'n' => some '\n'
  | 'f' => some '\x0c'
  | 'r' => some '\r'
  | '"' => some '"'
  | '\\' => some '\\'
  | _ => none

/-- The value of a hexadecimal digit. -/
def hexValue? (c : Char) : Option Nat :=
  if '0' ≤ c ∧ c ≤ '9' then some (c.toNat - '0'.toNat)
  else if 'a' ≤ c ∧ c ≤ 'f' then some (c.toNat - 'a'.toNat + 10)
  else if 'A' ≤ c ∧ c ≤ 'F' then some (c.toNat - 'A'.toNat + 10)
  else none

/-- The number that hexadecimal digits stand for. -/
def hexNumber? (cs : List Char) : Option Nat :=
  cs.foldlM (fun n c => (hexValue? c).map (16 * n + ·)) 0

/-- The character with the number that hexadecimal digits stand for, if there is such a character. -/
def hexChar? (cs : List Char) : Option Char :=
  (hexNumber? cs).bind fun n => if n.isValidChar then some (Char.ofNat n) else none

/-- Reads an escape behind its backslash. -/
def escape : Reader Char
  | 'u' :: a :: b :: c :: d :: r => (hexChar? [a, b, c, d]).map (·, r)
  | 'U' :: a :: b :: c :: d :: e :: f :: g :: h :: r =>
    (hexChar? [a, b, c, d, e, f, g, h]).map (·, r)
  | c :: r => (escaped? c).map (·, r)
  | [] => none

theorem escape_length {s r : List Char} {c : Char} (h : escape s = some (c, r)) :
    r.length < s.length := by
  unfold escape at h
  split at h <;> simp only [Option.map_eq_some_iff, Prod.mk.injEq, reduceCtorEq] at h
  all_goals
    obtain ⟨_, _, _, rfl⟩ := h
    simp only [List.length_cons]
    omega

/-- Reads a basic text on one line. -/
def basicText (s : List Char) : Option (List Char × List Char) :=
  match s with
  | [] => none
  | '"' :: r => some ([], r)
  | '\\' :: r =>
    match h : escape r with
    | some (c, r') =>
      have := escape_length h
      withChar c (basicText r')
    | none => none
  | c :: r => if isLineChar c then withChar c (basicText r) else none
termination_by s.length

/-- Reads a basic text over several lines. While `skipping`, blanks and line breaks do not count. -/
def multiBasicText (skipping : Bool) (s : List Char) : Option (List Char × List Char) :=
  match s with
  | [] => none
  | '"' :: '"' :: '"' :: '"' :: '"' :: r => some (['"', '"'], r)
  | '"' :: '"' :: '"' :: '"' :: r => some (['"'], r)
  | '"' :: '"' :: '"' :: r => some ([], r)
  | '\r' :: '\n' :: r =>
    if skipping then multiBasicText true r else withChar '\n' (multiBasicText false r)
  | '\n' :: r =>
    if skipping then multiBasicText true r else withChar '\n' (multiBasicText false r)
  | '\\' :: r =>
    if breaksLine r then
      multiBasicText true r
    else
      match h : escape r with
      | some (c, r') =>
        have := escape_length h
        withChar c (multiBasicText false r')
      | none => none
  | c :: r =>
    if skipping && isWs c then multiBasicText true r
    else if isLineChar c then withChar c (multiBasicText false r)
    else none
termination_by s.length

/-- Reads a literal text on one line. -/
def literalText : Reader (List Char)
  | [] => none
  | '\x27' :: r => some ([], r)
  | c :: r => if isLineChar c then withChar c (literalText r) else none

/-- Reads a literal text over several lines. -/
def multiLiteralText : Reader (List Char)
  | [] => none
  | '\x27' :: '\x27' :: '\x27' :: '\x27' :: '\x27' :: r => some (['\x27', '\x27'], r)
  | '\x27' :: '\x27' :: '\x27' :: '\x27' :: r => some (['\x27'], r)
  | '\x27' :: '\x27' :: '\x27' :: r => some ([], r)
  | '\r' :: '\n' :: r => withChar '\n' (multiLiteralText r)
  | '\n' :: r => withChar '\n' (multiLiteralText r)
  | c :: r => if isLineChar c then withChar c (multiLiteralText r) else none

/-- Reads a text in any of the four forms, its opening quotes included. -/
def text : Reader (List Char)
  | '"' :: '"' :: '"' :: r => multiBasicText false (dropLineBreak r)
  | '"' :: r => basicText r
  | '\x27' :: '\x27' :: '\x27' :: r => multiLiteralText (dropLineBreak r)
  | '\x27' :: r => literalText r
  | _ => none

end VmSupport.Toml
