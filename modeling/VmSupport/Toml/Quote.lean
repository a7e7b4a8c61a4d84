import VmSupport.Text.Quoted
import VmSupport.Toml.Text

/-!
# Writing quoted text

A text is written in the plainest of the four forms that can hold it without an escape: basic, then
literal, then the multi-line form of either. Where none can, it is written with escapes, over several
lines if it has a line break. A multi-line form begins on a line of its own only if the text has a
line break; the reader drops that first one.

**What a form cannot hold.** No form holds a control character other than tab and line feed. The
basic forms hold no backslash; the basic form holds no double quote and its multi-line form no three
in a row; the literal forms are held to the same with single quotes. A form on one line holds no
line feed. A tab is held by all of them, and the basic forms write it as an escape all the same.
-/

namespace VmSupport.Toml

/-- How a text is written. -/
inductive QuoteForm where
  | basic
  | literal
  | multiBasic
  | multiLiteral
  deriving DecidableEq, Repr

/-- Whether a character is a control other than tab and line feed. -/
def isHardControl (c : Char) : Bool :=
  (c < ' ' || c = '\x7f') && c ≠ '\t' && c ≠ '\n'

/-- Whether a character occurs three times in a row. -/
def hasTriple (q : Char) : List Char → Bool
  | a :: b :: c :: r => (a = q && b = q && c = q) || hasTriple q (b :: c :: r)
  | _ => false

/-- The form in which a text is written. -/
def QuoteForm.choose (cs : List Char) : QuoteForm :=
  let hard := cs.any isHardControl
  let breaks := cs.contains '\n'
  if !hard && !breaks && !cs.contains '\\' && !cs.contains '"' then .basic
  else if !hard && !breaks && !cs.contains '\x27' then .literal
  else if !hard && !cs.contains '\\' && !hasTriple '"' cs then .multiBasic
  else if !hard && !hasTriple '\x27' cs then .multiLiteral
  else if breaks then .multiBasic
  else .basic

/-- An upper-case hexadecimal digit. -/
def hexCapital (n : Nat) : Char :=
  if n < 10 then Char.ofNat ('0'.toNat + n) else Char.ofNat ('A'.toNat + (n - 10))

/-- The number of a small character in four hexadecimal digits. -/
def fourHex (n : Nat) : List Char :=
  [hexCapital (n / 4096 % 16), hexCapital (n / 256 % 16), hexCapital (n / 16 % 16),
    hexCapital (n % 16)]

/-- A character that is no double quote, as the basic forms write it. -/
def basicChar (multi : Bool) (c : Char) : List Char :=
  if c = '\x08' then ['\\', 'b']
  else if c = '\t' then ['\\', 't']
  else if c = '\n' then (if multi then ['\n'] else ['\\', 'n'])
  else if c = '\x0c' then ['\\', 'f']
  else if c = '\r' then ['\\', 'r']
  else if c = '\\' then ['\\', '\\']
  else if c < ' ' || c = '\x7f' then '\\' :: 'u' :: fourHex c.toNat
  else [c]

/-- A text as the basic forms write it. Up to `allowed` double quotes may stand in a row; `run` of
them have just been written. -/
def basicChars (multi : Bool) (allowed run : Nat) : List Char → List Char
  | [] => []
  | c :: r =>
    if c = '"' then
      if run < allowed then '"' :: basicChars multi allowed (run + 1) r
      else '\\' :: '"' :: basicChars multi allowed 0 r
    else
      basicChar multi c ++ basicChars multi allowed 0 r

/-- The line feed behind the opening quotes of a multi-line form. -/
def firstBreak (cs : List Char) : List Char :=
  if cs.contains '\n' then ['\n'] else []

/-- A text in a form. -/
def QuoteForm.write (cs : List Char) : QuoteForm → List Char
  | .basic => '"' :: basicChars false 0 0 cs ++ ['"']
  | .literal => '\x27' :: cs ++ ['\x27']
  | .multiBasic => ['"', '"', '"'] ++ firstBreak cs ++ basicChars true 2 0 cs ++ ['"', '"', '"']
  | .multiLiteral => ['\x27', '\x27', '\x27'] ++ firstBreak cs ++ cs ++ ['\x27', '\x27', '\x27']

/-- A text as a document holds it. -/
def writeText (cs : List Char) : List Char :=
  (QuoteForm.choose cs).write cs

end VmSupport.Toml
