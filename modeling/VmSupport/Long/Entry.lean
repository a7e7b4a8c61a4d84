import VmSupport.Long.Basic

/-!
# Calls on memory cells

Generated code passes longs by address: a call names the cell of its result and the cells of its
operands, and any of these may be null or the same cell. A call reads its operands before it writes,
so a result cell may double as an operand.

**The order of the checks.** A zero divisor is fatal before anything else is looked at: a division
whose divisor cell is present and holds zero aborts even where another pointer is null. After that a
null pointer makes the call do nothing. The comparison writes to a cell of the narrower kind, so it
never touches a long.
-/

namespace VmSupport.Long

/-- The number of a cell, or null. -/
abbrev Pointer := Option Nat

/-- Cells of longs, and the narrower cells that comparisons write to. -/
structure Memory where
  longs : Nat → Int64
  signs : Nat → Int32

/-- The memory after a long was written to a cell. -/
def Memory.write (m : Memory) (cell : Nat) (v : Int64) : Memory :=
  { m with longs := fun i => if i = cell then v else m.longs i }

/-- The memory after a sign was written to a cell. -/
def Memory.writeSign (m : Memory) (cell : Nat) (v : Int32) : Memory :=
  { m with signs := fun i => if i = cell then v else m.signs i }

/-- A call with its pointers. -/
inductive Call where
  | binary (op : Binary) (result l r : Pointer)
  | neg (result l : Pointer)
  | shift (op : Shift) (result l : Pointer) (count : Int32)
  | cmp (result l r : Pointer)
  deriving DecidableEq, Repr

/-- The name under which generated code calls. -/
def Call.name : Call → String
  | .binary .add .. => "lAdd"
  | .binary .sub .. => "lSub"
  | .binary .mul .. => "lMul"
  | .binary .div .. => "lDiv"
  | .binary .rem .. => "lRem"
  | .neg .. => "lNeg"
  | .shift .left .. => "lShl"
  | .shift .right .. => "lShr"
  | .shift .unsignedRight .. => "lUshr"
  | .cmp .. => "lCmp"

/-- How a call ends. -/
inductive Outcome where
  /-- The result was written. -/
  | wrote (memory : Memory)
  /-- A pointer was null, and nothing happened. -/
  | rejected
  /-- The divisor was zero, which is fatal. -/
  | zeroDivisor
  /-- The operation itself faulted. -/
  | faulted (fault : Fault)

/-- Whether an operation divides. -/
def Binary.divides : Binary → Bool
  | .div | .rem => true
  | .add | .sub | .mul => false

/-- Whether a call divides by a cell that is present and holds zero. -/
def Call.hasZeroDivisor (m : Memory) : Call → Bool
  | .binary op _ _ (some r) => op.divides && m.longs r == 0
  | _ => false

/-- Runs a call whose divisor, if it has one, was found to be usable. -/
def Call.perform (m : Memory) : Call → Outcome
  | .binary op (some result) (some l) (some r) =>
    match op.eval (m.longs l) (m.longs r) with
    | .ok v => .wrote (m.write result v)
    | .error f => .faulted f
  | .neg (some result) (some l) => .wrote (m.write result (Long.neg (m.longs l)))
  | .shift op (some result) (some l) count =>
    .wrote (m.write result (op.eval (m.longs l) count))
  | .cmp (some result) (some l) (some r) =>
    .wrote (m.writeSign result (sign (Long.cmp (m.longs l) (m.longs r))))
  | _ => .rejected

/-- Runs a call. -/
def Call.run (m : Memory) (c : Call) : Outcome :=
  if c.hasZeroDivisor m then .zeroDivisor else c.perform m

@[simp] theorem write_longs_same (m : Memory) (cell : Nat) (v : Int64) :
    (m.write cell v).longs cell = v := by
  simp [Memory.write]

theorem write_longs_other (m : Memory) {cell other : Nat} (v : Int64) (h : other ≠ cell) :
    (m.write cell v).longs other = m.longs other := by
  simp [Memory.write, h]

end VmSupport.Long
