import VmSupport.Machine.Call

/-!
# Programs of long calls compute what the pure operations compute

A program of long calls works on memory cells that it names by pointers, and any two pointers of a
call may name one cell. The **pure interpreter** knows no pointers while it computes: it takes the
longs that the operands hold, applies the pure operation to them, and puts the result into its cell
at the end.

**One call** (`Machine.long_obeys`): a divisor that is there and holds zero ends the process, before
any other pointer is looked at; otherwise a null pointer makes the call do nothing; otherwise just
the cell of the result changes, and it holds the pure result of what the operands held before the
call. That an operand may be the cell of the result makes no difference, because it is read first.

**A program** (`program_simulates`): what a process does to the memory, call after call, is what the
pure interpreter does, up to the end of the program or to the call that ends the process.
-/

namespace VmSupport

namespace Long

/-! ## The pure interpreter -/

/-- A result: a long or, of a comparison, a sign. -/
inductive Content where
  | long (value : Int64)
  | sign (value : Int32)
  deriving DecidableEq, Repr

/-- The memory after a result was put into the cell of its kind that has this number. -/
def Memory.put (m : Memory) (cell : Nat) : Content → Memory
  | .long v => m.write cell v
  | .sign v => m.writeSign cell v

namespace Call

/-- Where the result of a call goes. -/
def result : Call → Pointer
  | binary _ result _ _ | neg result _ | shift _ result _ _ | cmp result _ _ => result

/-- Where the operands of a call come from. A shift count comes with the call. -/
def operands : Call → List Pointer
  | binary _ _ l r | cmp _ l r => [l, r]
  | neg _ l | shift _ _ l _ => [l]

/-- All pointers of a call. -/
def pointers (c : Call) : List Pointer :=
  c.result :: c.operands

/-- Where the divisor of a call comes from, if it divides. -/
def divisor : Call → Pointer
  | binary .div _ _ r | binary .rem _ _ r => r
  | _ => none

/-- The pure operation of a call on the values of its operands. -/
def compute : Call → List Int64 → Option Content
  | binary .add .., [l, r] => some (.long (Long.add l r))
  | binary .sub .., [l, r] => some (.long (Long.sub l r))
  | binary .mul .., [l, r] => some (.long (Long.mul l r))
  | binary .div .., [l, r] => (Long.div l r).toOption.map .long
  | binary .rem .., [l, r] => (Long.rem l r).toOption.map .long
  | neg .., [l] => some (.long (Long.neg l))
  | shift .left _ _ count, [l] => some (.long (Long.shl l count))
  | shift .right _ _ count, [l] => some (.long (Long.shr l count))
  | shift .unsignedRight _ _ count, [l] => some (.long (Long.ushr l count))
  | cmp .., [l, r] => some (.sign (sign (Long.cmp l r)))
  | _, _ => none

/-- The values of the operands that are there. -/
def values (m : Memory) (c : Call) : List Int64 :=
  c.operands.filterMap (·.map m.longs)

/-- The memory after a call, unless the call ends the process. -/
def interpret (m : Memory) (c : Call) : Option Memory :=
  if c.divisor.map m.longs = some 0 then
    none
  else if none ∈ c.pointers then
    some m
  else
    match c.result, c.compute (c.values m) with
    | some cell, some content => some (m.put cell content)
    | _, _ => some m

end Call

/-- How far a program came: how many calls returned, the memory behind them, and how it ended. -/
structure Course where
  returned : Nat
  memory : Memory
  ending : Machine.Ending

/-- The course with one more call in front that returned. -/
def Course.next (c : Course) : Course :=
  { c with returned := c.returned + 1 }

/-- The course of a program by the pure interpreter. -/
def interpret (m : Memory) : List Call → Course
  | [] => ⟨0, m, .finished⟩
  | c :: rest =>
    match c.interpret m with
    | none => ⟨0, m, .aborted⟩
    | some after => (interpret after rest).next

end Long

/-- The course of a program by a process. -/
def Machine.runLong (memory : Long.Memory) (m : Machine) : List Long.Call → Long.Course
  | [] => ⟨0, memory, .finished⟩
  | c :: rest =>
    match m.long memory c with
    | (.returned after, m) => (runLong after m rest).next
    | (.aborted, _) => ⟨0, memory, .aborted⟩
    | (.faulted f, _) => ⟨0, memory, .faulted f⟩

/-! ## One call -/

namespace Long

/-- A cell received a result, and nothing else changed. -/
def Content.Stored (before after : Memory) (cell : Nat) : Content → Prop
  | .long v =>
    after.longs cell = v ∧ (∀ other, other ≠ cell → after.longs other = before.longs other) ∧
      after.signs = before.signs
  | .sign v =>
    after.signs cell = v ∧ (∀ other, other ≠ cell → after.signs other = before.signs other) ∧
      after.longs = before.longs

/-- Putting a result into a cell changes nothing else. -/
theorem stored_put (m : Memory) (cell : Nat) (content : Content) :
    content.Stored m (m.put cell content) cell := by
  cases content with
  | long v =>
    refine ⟨write_longs_same m cell v, ?_, rfl⟩
    intro other hother
    exact write_longs_other m v hother
  | sign v =>
    refine ⟨if_pos rfl, ?_, rfl⟩
    intro other hother
    exact if_neg hother

/-- What the outcome of a call has to be for a memory. -/
structure Call.Obeys (memory : Memory) (c : Call) (outcome : VmSupport.Outcome Memory) : Prop where
  /-- A divisor that is zero ends the process, whatever the other pointers are. -/
  zeroDivisor : c.divisor.map memory.longs = some 0 → outcome = .aborted
  /-- Otherwise a null pointer leaves the memory alone. -/
  null : c.divisor.map memory.longs ≠ some 0 → none ∈ c.pointers → outcome = .returned memory
  /-- Otherwise the cell of the result receives the pure result of what the operands held before. -/
  stored : c.divisor.map memory.longs ≠ some 0 → none ∉ c.pointers →
    ∃ cell content after, c.result = some cell ∧ c.compute (c.values memory) = some content ∧
      outcome = .returned after ∧ content.Stored memory after cell

variable {memory : Memory} {c : Call}

/-- The check of a call finds exactly the divisors that are zero. -/
theorem hasZeroDivisor_iff :
    c.hasZeroDivisor memory = true ↔ c.divisor.map memory.longs = some 0 := by
  cases c with
  | binary op result l r =>
    cases r with
    | none => cases op <;> simp [Call.hasZeroDivisor, Call.divisor]
    | some r => cases op <;> simp [Call.hasZeroDivisor, Call.divisor, Binary.divides]
  | neg result l => simp [Call.hasZeroDivisor, Call.divisor]
  | shift op result l count => simp [Call.hasZeroDivisor, Call.divisor]
  | cmp result l r => simp [Call.hasZeroDivisor, Call.divisor]

/-- A binary operation whose divisor, if it divides, is not zero has a result. -/
theorem eval_isOk {op : Binary} {result l : Pointer} {r : Nat}
    (h : (Call.binary op result l (some r)).divisor.map memory.longs ≠ some 0) (x : Int64) :
    ∃ v, op.eval x (memory.longs r) = .ok v := by
  cases op with
  | add => exact ⟨_, rfl⟩
  | sub => exact ⟨_, rfl⟩
  | mul => exact ⟨_, rfl⟩
  | div =>
    have hr : memory.longs r ≠ 0 := fun hzero => h (congrArg some hzero)
    exact ⟨_, if_neg hr⟩
  | rem =>
    have hr : memory.longs r ≠ 0 := fun hzero => h (congrArg some hzero)
    exact ⟨_, if_neg hr⟩

/-- The entries of the binary operations are wired to their own. -/
theorem compute_binary (op : Binary) (result l r : Pointer) (x y : Int64) :
    (Call.binary op result l r).compute [x, y] = (op.eval x y).toOption.map .long := by
  cases op <;> rfl

/-- So are those of the shifts. -/
theorem compute_shift (op : Shift) (result l : Pointer) (count : Int32) (x : Int64) :
    (Call.shift op result l count).compute [x] = some (.long (op.eval x count)) := by
  cases op <;> rfl

/-- A null pointer makes a call do nothing. -/
theorem perform_of_null (h : none ∈ c.pointers) : c.perform memory = .rejected := by
  unfold Call.perform
  split
  · simp [Call.pointers, Call.result, Call.operands] at h
  · simp [Call.pointers, Call.result, Call.operands] at h
  · simp [Call.pointers, Call.result, Call.operands] at h
  · simp [Call.pointers, Call.result, Call.operands] at h
  · rfl

/-- A pointer that is not null names a cell. -/
theorem exists_cell {p : Pointer} (h : none ≠ p) : ∃ cell, p = some cell :=
  Option.ne_none_iff_exists'.mp h.symm

/-- Without a null pointer and a zero divisor, a call puts its pure result into its cell. -/
theorem perform_of_present (hdivisor : c.divisor.map memory.longs ≠ some 0)
    (h : none ∉ c.pointers) :
    ∃ cell content, c.result = some cell ∧ c.compute (c.values memory) = some content ∧
      c.perform memory = .wrote (memory.put cell content) := by
  cases c with
  | binary op result l r =>
    simp only [Call.pointers, Call.result, Call.operands, List.mem_cons, not_or] at h
    obtain ⟨cell, rfl⟩ := exists_cell h.1
    obtain ⟨i, rfl⟩ := exists_cell h.2.1
    obtain ⟨j, rfl⟩ := exists_cell h.2.2.1
    obtain ⟨v, hv⟩ := eval_isOk hdivisor (memory.longs i)
    refine ⟨cell, .long v, rfl, ?_, ?_⟩
    · show (Call.binary _ _ _ _).compute [memory.longs i, memory.longs j] = _
      rw [compute_binary, hv]
      rfl
    · simp only [Call.perform, hv]
      rfl
  | neg result l =>
    simp only [Call.pointers, Call.result, Call.operands, List.mem_cons, not_or] at h
    obtain ⟨cell, rfl⟩ := exists_cell h.1
    obtain ⟨i, rfl⟩ := exists_cell h.2.1
    exact ⟨cell, _, rfl, rfl, rfl⟩
  | shift op result l count =>
    simp only [Call.pointers, Call.result, Call.operands, List.mem_cons, not_or] at h
    obtain ⟨cell, rfl⟩ := exists_cell h.1
    obtain ⟨i, rfl⟩ := exists_cell h.2.1
    exact ⟨cell, _, rfl, compute_shift op _ _ count (memory.longs i), rfl⟩
  | cmp result l r =>
    simp only [Call.pointers, Call.result, Call.operands, List.mem_cons, not_or] at h
    obtain ⟨cell, rfl⟩ := exists_cell h.1
    obtain ⟨i, rfl⟩ := exists_cell h.2.1
    obtain ⟨j, rfl⟩ := exists_cell h.2.2.1
    exact ⟨cell, _, rfl, rfl, rfl⟩

end Long

namespace Machine

open Long (Memory)

variable {memory : Memory} {c : Long.Call}

/-- A zero divisor ends the process. -/
theorem long_of_zeroDivisor (h : c.divisor.map memory.longs = some 0) (m : Machine) :
    (m.long memory c).1 = .aborted := by
  rw [long, Long.Call.run, if_pos (Long.hasZeroDivisor_iff.mpr h)]

/-- Otherwise a process does what the call does to the memory. -/
theorem long_of_divisor_ne_zero (h : c.divisor.map memory.longs ≠ some 0) (m : Machine) :
    (none ∈ c.pointers ∧ (m.long memory c).1 = .returned memory) ∨
    (none ∉ c.pointers ∧ ∃ cell content, c.result = some cell ∧
      c.compute (c.values memory) = some content ∧
      (m.long memory c).1 = .returned (memory.put cell content)) := by
  have hrun : c.run memory = c.perform memory := by
    rw [Long.Call.run, if_neg (fun hzero => h (Long.hasZeroDivisor_iff.mp hzero))]
  by_cases hnull : none ∈ c.pointers
  · refine .inl ⟨hnull, ?_⟩
    rw [long, hrun, Long.perform_of_null hnull]
  · obtain ⟨cell, content, hresult, hcompute, hperform⟩ := Long.perform_of_present h hnull
    refine .inr ⟨hnull, cell, content, hresult, hcompute, ?_⟩
    rw [long, hrun, hperform]

/-- **One call of a process**, under any aliasing of its pointers. -/
theorem long_obeys (m : Machine) (memory : Memory) (c : Long.Call) :
    c.Obeys memory (m.long memory c).1 where
  zeroDivisor h := long_of_zeroDivisor h m
  null h hnull := by
    obtain ⟨-, hreturned⟩ | ⟨hpresent, -⟩ := long_of_divisor_ne_zero h m
    · exact hreturned
    · exact absurd hnull hpresent
  stored h hpresent := by
    obtain ⟨hnull, -⟩ | ⟨-, cell, content, hresult, hcompute, hreturned⟩ :=
      long_of_divisor_ne_zero h m
    · exact absurd hnull hpresent
    · exact ⟨cell, content, _, hresult, hcompute, hreturned, Long.stored_put memory cell content⟩

/-- A process comes as far with a call as the pure interpreter, and to the same memory. -/
theorem long_eq_interpret (m : Machine) (memory : Memory) (c : Long.Call) :
    (m.long memory c).1 = match c.interpret memory with
      | none => .aborted
      | some after => .returned after := by
  rw [Long.Call.interpret]
  by_cases h : c.divisor.map memory.longs = some 0
  · rw [if_pos h, long_of_zeroDivisor h]
  · rw [if_neg h]
    obtain ⟨hnull, hreturned⟩ | ⟨hpresent, cell, content, hresult, hcompute, hreturned⟩ :=
      long_of_divisor_ne_zero h m
    · rw [if_pos hnull, hreturned]
    · rw [if_neg hpresent, hreturned, hresult, hcompute]

end Machine

/-! ## Programs -/

/-- The course of a program by a process is that by the pure interpreter. -/
theorem Machine.runLong_eq (m : Machine) (memory : Long.Memory) (program : List Long.Call) :
    m.runLong memory program = Long.interpret memory program := by
  induction program generalizing m memory with
  | nil => rfl
  | cons c rest ih =>
    have hcall := m.long_eq_interpret memory c
    rw [runLong, Long.interpret]
    cases hc : c.interpret memory with
    | none =>
      rw [hc] at hcall
      rcases hlong : m.long memory c with ⟨outcome, m'⟩
      rw [hlong] at hcall
      cases hcall
      rfl
    | some after =>
      rw [hc] at hcall
      rcases hlong : m.long memory c with ⟨outcome, m'⟩
      rw [hlong] at hcall
      cases hcall
      exact congrArg Long.Course.next (ih m' after)

/-- **Long calls simulate the pure operations.** Each call of a process obeys the law of one call,
whatever cells its pointers name, and a program of them leaves the memory that the pure interpreter
leaves, or ends at the same call. -/
theorem program_simulates (m : Machine) (memory : Long.Memory) (program : List Long.Call) :
    (∀ (m : Machine) (memory : Long.Memory) (c : Long.Call), c.Obeys memory (m.long memory c).1) ∧
      m.runLong memory program = Long.interpret memory program :=
  ⟨Machine.long_obeys, m.runLong_eq memory program⟩

-- a cell is doubled in place, another is cleared, and a division by that one ends the process
example :
    let memory : Long.Memory := { longs := fun _ => 3, signs := fun _ => 0 }
    let course := Machine.fresh.runLong memory
      [.binary .add (some 0) (some 0) (some 0), .binary .sub (some 1) (some 0) (some 0),
        .binary .div none none (some 1), .neg (some 0) (some 0)]
    course.returned = 2 ∧ course.memory.longs 0 = 6 ∧ course.ending = .aborted :=
  ⟨rfl, rfl, rfl⟩

end VmSupport
