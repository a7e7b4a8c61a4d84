import VmSupport.Proofs.Heap.TeamCompletion

/-!
# The loop of a request on the shared heap

A request on the shared heap reads the cursor and then goes through passes. In each pass it sees
whether it fits behind the value that it read, and if so it tries to move the cursor. An exchange
that fails tells it a new value, and the next pass begins. Nothing in this counts down.

What makes the loop end lies in the other threads. The cursor never moves back, and it moves by
whole granules. So an exchange that fails because the cursor has moved finds a value that is larger
by a granule at least (`Stage.Takes.advances`), and that can happen only so often below the
capacity. An exchange that fails without cause finds the old value, and costs one more pass.

`Turn` names what one action of a request does in its loop, and a **walk** is a sequence of actions
of one request, each on some heap of the capacity; what the others do in between is not seen. The
passes of a walk are counted by `Walk.passes_le`, and with them all its actions (`Walk.length_lt`).
How a walk comes out of the loop is told by its last turns (`Walk.leaves`), and what was last read
before an exchange by `Walk.last_read`.
-/

namespace VmSupport.Heap

/-! ## Turns -/

/-- What one action of a request does, as far as its loop is concerned. -/
inductive Turn where
  /-- It is not in the loop: its size is rounded or refused, or its outcome is counted. -/
  | outside
  /-- It reads the cursor, for the first time. -/
  | read (found : Nat)
  /-- A pass begins: behind the value that was read there is enough. -/
  | fits (current : Nat)
  /-- A pass begins and leaves the loop: behind the value that was read there is too little. -/
  | full (current : Nat)
  /-- The exchange fails, and tells where the cursor is. -/
  | failed (current found : Nat)
  /-- The exchange moves the cursor from this value on by so many bytes, and leaves the loop. -/
  | claimed (current bytes : Nat)
  deriving DecidableEq, Repr

namespace Turn

/-- The turn between two stages of a request, which is none where the request has returned. -/
def of? : Stage → Stage → Option Turn
  | .returned _, _ => none
  | .load .., .check _ _ found => some (.read found)
  | .check _ _ current, .exchange .. => some (.fits current)
  | .check _ _ current, .countRefusal .. => some (.full current)
  | .exchange _ _ current _, .check _ _ found => some (.failed current found)
  | .exchange _ rounded current _, .countGrant .. => some (.claimed current rounded)
  | _, _ => some .outside

/-- Whether a pass through the loop begins here. -/
def isPass : Turn → Bool
  | fits _ | full _ => true
  | _ => false

/-- Whether an exchange fails here though the cursor has not moved. -/
def isSpurious : Turn → Bool
  | failed current found => found == current
  | _ => false

/-- Whether the request leaves the loop here. -/
def leaves : Turn → Bool
  | full _ | claimed .. => true
  | _ => false

/-- The cursor value that the request comes to know here. -/
def found? : Turn → Option Nat
  | read found | failed _ found => some found
  | _ => none

/-- The number of bytes that are claimed here. -/
def bytes : Turn → Nat
  | claimed _ bytes => bytes
  | _ => 0

end Turn

/-! ## What one action does -/

namespace Stage

namespace Moves

variable {h h' : Shared} {size : Int32} {spurious : Bool} {stage stage' : Stage} {turn : Turn}

/-- There is a turn between any two stages but where the request has returned. -/
theorem isReturned_of_turn (hm : Moves h size spurious stage stage' h')
    (hturn : Turn.of? stage stage' = none) : stage.IsReturned ∧ stage' = stage ∧ h' = h := by
  cases hm with
  | rest answer => exact ⟨⟨answer, rfl⟩, rfl, rfl⟩
  | _ => cases hturn

/-- The cursor moves by what is claimed. -/
theorem cursor_eq (hm : Moves h size spurious stage stage' h')
    (hturn : Turn.of? stage stage' = some turn) : h'.cursor = h.cursor + turn.bytes := by
  cases hm <;> cases hturn <;> rfl

/-- What the request finds is the cursor. -/
theorem found_eq (hm : Moves h size spurious stage stage' h')
    (hturn : Turn.of? stage stage' = some turn) {found : Nat} (hfound : turn.found? = some found) :
    h'.cursor = found := by
  cases hm <;> cases hturn <;> cases hfound <;> rfl

/-- A request that claims a block expects the cursor where it is. -/
theorem claimed_eq {current bytes : Nat} (hm : Moves h size spurious stage stage' h')
    (hturn : Turn.of? stage stage' = some (.claimed current bytes)) :
    h.cursor = current ∧ ∃ next, stage = .exchange size (roundUp size) current next := by
  cases hm <;> cases hturn
  exact ⟨rfl, _, rfl⟩

/-- An exchange fails without cause only where it is made to. -/
theorem spurious_eq (hm : Moves h size spurious stage stage' h')
    (hturn : Turn.of? stage stage' = some turn) (hspurious : turn.isSpurious = true) :
    spurious = true := by
  cases hm with
  | retry hpos hle hcause =>
    cases hturn
    exact hcause.resolve_left fun hne => hne (beq_iff_eq.mp hspurious)
  | rest => cases hturn
  | _ =>
    cases hturn
    cases hspurious

end Moves

/-- An action of a request, on some heap of this capacity, takes it from stage to stage in this
turn. -/
def Takes (capacity : Nat) (size : Int32) (stage : Stage) (turn : Turn) (stage' : Stage) : Prop :=
  ∃ h spurious h', Shared.Sound h ∧ h.region.size = capacity ∧
    Moves h size spurious stage stage' h' ∧ Turn.of? stage stage' = some turn

/-- The value that a request works with is a place where a block can begin. A request that faulted
works with none. -/
def Aligned (capacity : Nat) : Stage → Prop
  | .check _ _ current | .exchange _ _ current _ => granuleBytes ∣ current ∧ current ≤ capacity
  | .faulted _ => False
  | _ => True

/-- The number of passes that are still to come, unless exchanges fail without cause. -/
def passesAhead (capacity : Nat) : Stage → Nat
  | .start _ | .load .. => capacity / granuleBytes + 1
  | .check _ _ current => (capacity - current) / granuleBytes + 1
  | .exchange _ _ current _ => (capacity - current) / granuleBytes
  | _ => 0

/-- The number of actions that are still to come, beside two for each pass that is still to come. -/
def actsAhead : Stage → Nat
  | .start _ => 3
  | .load .. | .exchange .. => 2
  | .check .. | .countRefusal .. | .countGrant .. => 1
  | .returned _ | .faulted _ => 0

theorem passesAhead_le (capacity : Nat) (stage : Stage) :
    stage.passesAhead capacity ≤ capacity / granuleBytes + 1 := by
  have hless (current : Nat) : (capacity - current) / granuleBytes ≤ capacity / granuleBytes :=
    Nat.div_le_div_right (Nat.sub_le _ _)
  cases stage with
  | start | load => exact Nat.le_refl _
  | check _ _ current => exact Nat.succ_le_succ (hless current)
  | exchange _ _ current _ => exact Nat.le_succ_of_le (hless current)
  | _ => exact Nat.zero_le _

theorem actsAhead_le (stage : Stage) : stage.actsAhead ≤ 3 := by
  cases stage <;> simp [actsAhead]

/-- Some action is still to come before a request returns. -/
theorem actsAhead_pos {capacity : Nat} {stage : Stage} (ha : stage.Aligned capacity)
    (hnot : ¬ stage.IsReturned) : 0 < stage.actsAhead := by
  cases stage with
  | returned answer => exact absurd ⟨answer, rfl⟩ hnot
  | faulted => exact ha.elim
  | _ => simp [actsAhead]

/-- The request is in its loop, or in front of it. -/
def Stays : Stage → Prop
  | .start _ | .load .. | .check .. | .exchange .. => True
  | _ => False

namespace Takes

variable {capacity : Nat} {size : Int32} {stage stage' : Stage} {turn : Turn}

theorem aligned (ht : stage.Takes capacity size turn stage') (ha : stage.Aligned capacity) :
    stage'.Aligned capacity := by
  obtain ⟨h, spurious, h', hh, rfl, hm, -⟩ := ht
  cases hm with
  | load | retry => exact hh
  | fits => exact ha
  | _ => trivial

/-- What a request finds is inside the region. -/
theorem found_le (ht : stage.Takes capacity size turn stage') {found : Nat}
    (hfound : turn.found? = some found) : found ≤ capacity := by
  obtain ⟨h, spurious, h', hh, rfl, hm, hturn⟩ := ht
  have hinside := (hm.heap_sound hh).2
  rwa [hm.region_eq, hm.found_eq hturn hfound] at hinside

/-- **An exchange that fails because the cursor has moved finds a value that is larger by a granule
at least.** -/
theorem advances {current found : Nat}
    (ht : stage.Takes capacity size (.failed current found) stage') (ha : stage.Aligned capacity)
    (hmoved : found ≠ current) : current + granuleBytes ≤ found := by
  obtain ⟨h, spurious, h', hh, rfl, hm, hturn⟩ := ht
  cases hm with
  | retry hpos hle hcause =>
    cases hturn
    have hbetween : granuleBytes ≤ h.cursor - current :=
      Nat.le_of_dvd (by omega) (Nat.dvd_sub hh.1 ha.1)
    omega
  | _ => cases hturn

/-- A pass is one of those that were to come, or it is owed to a failure without cause. -/
theorem pass_le (ht : stage.Takes capacity size turn stage') (ha : stage.Aligned capacity) :
    (if turn.isPass then 1 else 0) + stage'.passesAhead capacity ≤
      stage.passesAhead capacity + if turn.isSpurious then 1 else 0 := by
  obtain ⟨h, spurious, h', hh, rfl, hm, hturn⟩ := id ht
  cases hm with
  | load hpos =>
    cases hturn
    have hless := passesAhead_le h.region.size (.check size (roundUp size) h.cursor)
    simpa [passesAhead, Turn.isPass, Turn.isSpurious] using hless
  | @retry current hpos hle hcause =>
    cases hturn
    by_cases hsame : h.cursor = current
    · simp [passesAhead, Turn.isPass, Turn.isSpurious, hsame]
    · -- what is left behind the new value has room for one block less
      have hfits := hh.2
      have hgrown := ht.advances ha hsame
      rw [granuleBytes_eq] at hgrown
      simp only [passesAhead, Turn.isPass, Turn.isSpurious, granuleBytes_eq, beq_iff_eq, hsame,
        Bool.false_eq_true, ↓reduceIte]
      omega
  | rest answer => cases hturn
  | _ =>
    cases hturn
    simp [passesAhead, Turn.isPass, Turn.isSpurious, Nat.add_comm]

/-- An action is one of those that were to come, or belongs to a pass. -/
theorem act_le (ht : stage.Takes capacity size turn stage') :
    1 + stage'.actsAhead ≤ stage.actsAhead + 2 * if turn.isPass then 1 else 0 := by
  obtain ⟨h, spurious, h', -, -, hm, hturn⟩ := ht
  cases hm <;> cases hturn <;> simp [actsAhead, Turn.isPass]

/-- A request that has not left its loop was there, or in front of it, all the time. -/
theorem stays (ht : stage.Takes capacity size turn stage') (hstays : stage'.Stays) :
    stage.Stays ∧ turn.leaves = false := by
  obtain ⟨h, spurious, h', -, -, hm, hturn⟩ := ht
  cases hm <;> cases hturn <;> first | exact hstays.elim | exact ⟨trivial, rfl⟩

end Takes

end Stage

/-! ## Walks -/

/-- A sequence of actions of one request, with the turns that they take. The heap may be another one
at each action, as other requests work on it in between. -/
inductive Walk (capacity : Nat) (size : Int32) : Stage → List Turn → Stage → Prop
  | nil (stage : Stage) : Walk capacity size stage [] stage
  | cons {stage mid stage' : Stage} {turn : Turn} {turns : List Turn}
    (ht : stage.Takes capacity size turn mid) (hw : Walk capacity size mid turns stage') :
    Walk capacity size stage (turn :: turns) stage'

namespace Walk

variable {capacity : Nat} {size : Int32} {stage stage' : Stage} {turns : List Turn}

/-- The last action of a walk. -/
theorem last (hw : Walk capacity size stage turns stage') :
    (turns = [] ∧ stage' = stage) ∨ ∃ front turn mid, turns = front ++ [turn] ∧
      Walk capacity size stage front mid ∧ mid.Takes capacity size turn stage' := by
  induction hw with
  | nil stage => exact .inl ⟨rfl, rfl⟩
  | @cons stage mid stage' turn turns ht hw ih =>
    right
    obtain ⟨rfl, rfl⟩ | ⟨front, turn', mid', rfl, hfront, ht'⟩ := ih
    · exact ⟨[], turn, stage, rfl, .nil stage, ht⟩
    · exact ⟨turn :: front, turn', mid', rfl, .cons ht hfront, ht'⟩

/-- A request that has returned does nothing more. -/
theorem of_returned {answer : Except HeapError Handle}
    (hw : Walk capacity size (.returned answer) turns stage') :
    turns = [] ∧ stage' = .returned answer := by
  cases hw with
  | nil => exact ⟨rfl, rfl⟩
  | cons ht hw =>
    obtain ⟨h, spurious, h', -, -, hm, hturn⟩ := ht
    cases hturn

/-- Everything that is found in a walk is inside the region. -/
theorem found_le (hw : Walk capacity size stage turns stage') {turn : Turn} (hmem : turn ∈ turns)
    {found : Nat} (hfound : turn.found? = some found) : found ≤ capacity := by
  induction hw with
  | nil => cases hmem
  | cons ht hw ih =>
    obtain rfl | hrest := List.mem_cons.mp hmem
    · exact ht.found_le hfound
    · exact ih hrest

/-- **Every failed exchange of a walk finds a larger value, unless it fails without cause.** -/
theorem advances (hw : Walk capacity size stage turns stage') (ha : stage.Aligned capacity)
    {current found : Nat} (hmem : .failed current found ∈ turns) (hmoved : found ≠ current) :
    current + granuleBytes ≤ found := by
  induction hw with
  | nil => cases hmem
  | cons ht hw ih =>
    obtain heq | hrest := List.mem_cons.mp hmem
    · exact (heq ▸ ht).advances ha hmoved
    · exact ih (ht.aligned ha) hrest

/-- **The passes of a walk** are those that were to come, and one more for each failure without
cause. -/
theorem passes_le (hw : Walk capacity size stage turns stage') (ha : stage.Aligned capacity) :
    turns.countP Turn.isPass + stage'.passesAhead capacity ≤
      stage.passesAhead capacity + turns.countP Turn.isSpurious := by
  induction hw with
  | nil => simp
  | cons ht hw ih =>
    have hhead := ht.pass_le ha
    have hrest := ih (ht.aligned ha)
    rw [List.countP_cons, List.countP_cons]
    omega

/-- **The actions of a walk** are those that were to come, and two for each pass. -/
theorem length_le (hw : Walk capacity size stage turns stage') :
    turns.length + stage'.actsAhead ≤ stage.actsAhead + 2 * turns.countP Turn.isPass := by
  induction hw with
  | nil => simp
  | cons ht hw ih =>
    have hhead := ht.act_le
    rw [List.length_cons, List.countP_cons]
    omega

theorem aligned (hw : Walk capacity size stage turns stage') (ha : stage.Aligned capacity) :
    stage'.Aligned capacity := by
  induction hw with
  | nil => exact ha
  | cons ht hw ih => exact ih (ht.aligned ha)

/-- **A walk that does not come to an answer is short**, but for the failures without cause. -/
theorem length_lt (hw : Walk capacity size stage turns stage') (ha : stage.Aligned capacity)
    (hnot : ¬ stage'.IsReturned) : turns.length <
      2 * (capacity / granuleBytes + 1 + turns.countP Turn.isSpurious) + 3 := by
  have hpasses := hw.passes_le ha
  have hlength := hw.length_le
  have hacts := stage.actsAhead_le
  have hahead := stage.passesAhead_le capacity
  have hleft := Stage.actsAhead_pos (hw.aligned ha) hnot
  omega

/-- A request that has not left its loop has taken no turn that leaves it. -/
theorem stays (hw : Walk capacity size stage turns stage') (hstays : stage'.Stays) :
    stage.Stays ∧ ∀ turn ∈ turns, turn.leaves = false := by
  induction hw with
  | nil => exact ⟨hstays, fun _ hmem => by cases hmem⟩
  | cons ht hw ih =>
    obtain ⟨hmid, hrest⟩ := ih hstays
    obtain ⟨hstage, hturn⟩ := ht.stays hmid
    exact ⟨hstage, List.forall_mem_cons.mpr ⟨hturn, hrest⟩⟩

/-- What a request that is about to move the cursor has done last: it has come to know the value
that it expects there, and has seen that it fits. -/
theorem last_read {s : Int32} {rounded current next : Nat}
    (hw : Walk capacity size (.start size) turns (.exchange s rounded current next)) :
    ∃ front turn, turns = front ++ [turn, .fits current] ∧ turn.found? = some current := by
  obtain ⟨-, heq⟩ | ⟨front, turn, mid, rfl, hfront, ht⟩ := hw.last
  · cases heq
  obtain ⟨h, spurious, h', -, -, hm, hturn⟩ := ht
  cases hm
  cases hturn
  obtain ⟨-, heq⟩ | ⟨front, turn, mid, rfl, hfront, ht⟩ := hfront.last
  · cases heq
  refine ⟨front, turn, List.append_assoc .., ?_⟩
  obtain ⟨h, spurious, h', -, -, hm, hturn⟩ := ht
  cases hm <;> cases hturn <;> rfl

end Walk

/-! ## Out of the loop -/

/-- **How a request comes out of its loop**: the turns that it takes on a heap of this capacity, and
its answer. -/
inductive Leaves (capacity : Nat) (size : Int32) : List Turn → Except HeapError Handle → Prop
  /-- A negative size never comes to the loop. -/
  | refused (hneg : size < 0) : Leaves capacity size [.outside] (.error (.invalidSize size))
  /-- Some exchange succeeds, and the request has the block where the cursor was. -/
  | claimed {front : List Turn} {current : Nat} (hpos : 0 ≤ size)
    (hfront : ∀ turn ∈ front, turn.leaves = false) (hfits : current + roundUp size ≤ capacity) :
    Leaves capacity size (front ++ [.claimed current (roundUp size), .outside]) (.ok ⟨current⟩)
  /-- Some value that was read leaves too little. -/
  | full {front : List Turn} {current : Nat} (hpos : 0 ≤ size)
    (hfront : ∀ turn ∈ front, turn.leaves = false)
    (hfull : capacity - current < roundUp size) :
    Leaves capacity size (front ++ [.full current, .outside])
      (.error (.outOfMemory (roundUp size) (capacity - current)))

/-- **A request that has returned has left its loop with a block, or because the heap was full.** -/
theorem Walk.leaves {capacity : Nat} {size : Int32} {turns : List Turn}
    {answer : Except HeapError Handle}
    (hw : Walk capacity size (.start size) turns (.returned answer)) :
    Leaves capacity size turns answer := by
  -- the last turn is outside the loop, and the one before it tells how the request came out
  obtain ⟨-, heq⟩ | ⟨front, turn, mid, rfl, hfront, ht⟩ := hw.last
  · cases heq
  obtain ⟨h, spurious, h', -, -, hm, hturn⟩ := ht
  cases hm with
  | refuse hneg =>
    cases hturn
    obtain ⟨rfl, -⟩ | ⟨front, turn, mid, rfl, hbefore, ht⟩ := hfront.last
    · exact .refused hneg
    · -- nothing leads back to the start
      obtain ⟨h, spurious, h', -, -, hm, hturn⟩ := ht
      cases hm
  | countRefusal hpos =>
    cases hturn
    obtain ⟨-, heq⟩ | ⟨front, turn, mid, rfl, hbefore, ht⟩ := hfront.last
    · cases heq
    · obtain ⟨h, spurious, h', -, rfl, hm, hturn⟩ := ht
      cases hm with
      | full hpos hle hfull =>
        cases hturn
        rw [List.append_assoc]
        exact .full hpos (hbefore.stays trivial).2 hfull
  | countGrant hpos hle =>
    cases hturn
    obtain ⟨-, heq⟩ | ⟨front, turn, mid, rfl, hbefore, ht⟩ := hfront.last
    · cases heq
    · obtain ⟨h, spurious, h', -, rfl, hm, hturn⟩ := ht
      cases hm with
      | claim hpos hfits =>
        cases hturn
        rw [List.append_assoc]
        exact .claimed hpos (hbefore.stays trivial).2 hfits
  | rest => cases hturn

end VmSupport.Heap
