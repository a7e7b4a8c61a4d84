import VmSupport.Text.Quoted

/-!
# Faults: operations without a result

A fault stops the computation that runs into it, as a division by zero does. It is no error value
that a caller is meant to handle, so it has a type of its own: a function that can fault says so in
its result, and a theorem that a caller never faults has something to be about.

Addresses, offsets and sizes are machine words. They are held as natural numbers, and
`Fault.addWords` and `Fault.subtractWords` are the exact operations on them, which fault where the
result would leave the range of a 64-bit word. A text that is cut at a byte inside a character is
the other way to a fault.
-/

namespace VmSupport

/-- The two edges of a piece that is cut out of a text. -/
inductive Edge where
  | front
  | back
  deriving DecidableEq, Repr

/-- The word for an edge. -/
def Edge.word : Edge → String
  | front => "start"
  | back => "end"

/-- What can stop a computation. -/
inductive Fault where
  | divideByZero
  | remainderByZero
  | addOverflow
  | subtractOverflow
  /-- The byte at `index` was to be an edge of a piece of text, but it lies inside a character, whose
  own bytes begin at `first`. -/
  | insideCharacter (edge : Edge) (index : Nat) (c : Char) (first : Nat)
  deriving DecidableEq, Repr

namespace Fault

/-- The text that is shown for a fault. -/
def message : Fault → String
  | divideByZero => "attempt to divide by zero"
  | remainderByZero => "attempt to calculate the remainder with a divisor of zero"
  | addOverflow => "attempt to add with overflow"
  | subtractOverflow => "attempt to subtract with overflow"
  | insideCharacter edge index c first =>
    s!"{edge.word} byte index {index} is not a char boundary; it is inside " ++
      String.ofList (Text.quotedAlone c) ++ s!" (bytes {first}..{first + c.utf8Size} of string)"

/-- One more than the largest machine word. -/
def wordLimit : Nat := Nat.pow 2 64

/-- The sum of two words, unless it is no word. -/
def addWords (a b : Nat) : Except Fault Nat :=
  if a + b < wordLimit then .ok (a + b) else .error addOverflow

/-- The difference of two words, unless it is negative. -/
def subtractWords (a b : Nat) : Except Fault Nat :=
  if b ≤ a then .ok (a - b) else .error subtractOverflow

theorem addWords_of_lt {a b : Nat} (h : a + b < wordLimit) : addWords a b = .ok (a + b) :=
  if_pos h

theorem subtractWords_of_le {a b : Nat} (h : b ≤ a) : subtractWords a b = .ok (a - b) :=
  if_pos h

end Fault

end VmSupport
