import VmSupport.Text.Ranges
import VmSupport.Text.Tables.Unseen

/-!
# Quoted text

A text shown between double quotes, so that a reader sees every character of it: the quote and the
backslash are escaped by a backslash, the four frequent controls have a letter of their own, and any
other character without a shape of its own is written by its number in hexadecimal.
-/

namespace VmSupport.Text

/-- The lower-case hexadecimal digits of a number, without leading zeros. -/
def hexDigits (n : Nat) : List Char :=
  Nat.toDigits 16 n

/-- How one character is written inside the quotes. -/
def quotedChar (c : Char) : List Char :=
  if c = '\x00' then ['\\', '0']
  else if c = '\t' then ['\\', 't']
  else if c = '\r' then ['\\', 'r']
  else if c = '\n' then ['\\', 'n']
  else if c = '\\' then ['\\', '\\']
  else if c = '"' then ['\\', '"']
  else if inRanges unseenRanges c then '\\' :: 'u' :: '{' :: hexDigits c.toNat ++ ['}']
  else [c]

/-- A character between single quotes, with escapes. Here it is the single quote that is escaped, and
not the double one. -/
def quotedAlone (c : Char) : List Char :=
  '\x27' :: (if c = '\x27' then ['\\', '\x27'] else if c = '"' then ['"'] else quotedChar c) ++
    ['\x27']

/-- The characters between double quotes, with escapes. -/
def quotedChars (cs : List Char) : List Char :=
  '"' :: cs.flatMap quotedChar ++ ['"']

/-- The text between double quotes, with escapes. -/
def quoted (s : String) : String :=
  String.ofList (quotedChars s.toList)

end VmSupport.Text
