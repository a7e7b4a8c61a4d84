import VmSupport.Long.Basic

/-!
# Chains of long operations

An operation with its right operand filled in takes a long to an answer. A chain runs operations
one after another on an accumulator, which a result that is a long replaces; the order of two
longs, an error value and a fault leave it as it was.
-/

namespace VmSupport.Long

/-- An operation that waits for its left operand only. -/
inductive Operation where
  | binary (op : Binary) (r : Int64)
  | checkedDiv (r : Int64)
  | checkedRem (r : Int64)
  | neg
  | shift (op : Shift) (count : Int32)
  | cmp (r : Int64)
  deriving DecidableEq, Repr

/-- What an operation answers. -/
inductive Answer where
  | long (value : Int64)
  | order (value : Ordering)
  | refused (cause : CheckedError)
  | faulted (fault : Fault)
  deriving DecidableEq, Repr

/-- The answer that carries a result or its fault. -/
def Answer.ofFaulting : Except Fault Int64 → Answer
  | .ok v => .long v
  | .error f => .faulted f

/-- The answer that carries a result or its error value. -/
def Answer.ofChecked : Except CheckedError Int64 → Answer
  | .ok v => .long v
  | .error e => .refused e

/-- The answer of an operation for a left operand. -/
def Operation.apply (l : Int64) : Operation → Answer
  | .binary op r => .ofFaulting (op.eval l r)
  | .checkedDiv r => .ofChecked (Long.checkedDiv l r)
  | .checkedRem r => .ofChecked (Long.checkedRem l r)
  | .neg => .long (Long.neg l)
  | .shift op count => .long (op.eval l count)
  | .cmp r => .order (Long.cmp l r)

/-- The accumulator after an answer. -/
def Answer.accumulate (acc : Int64) : Answer → Int64
  | .long v => v
  | _ => acc

/-- Runs a chain; each answer stands beside the accumulator after it. -/
def chain (acc : Int64) : List Operation → List (Answer × Int64)
  | [] => []
  | op :: ops =>
    let answer := op.apply acc
    let next := answer.accumulate acc
    (answer, next) :: chain next ops

end VmSupport.Long
