import VmSupport.Heap.Team
import VmSupport.Proofs.Heap.SharedSteps

/-!
# Runs of threads on one shared heap

Soundness of stages, lifted to threads and to teams: in every state that a schedule can lead to, the
cells of the heap are as they should be, each thread is working on the requests that it was given,
in their order, and the request that it is making is at a sound stage.

**The steps** (`Requester.Moves`, `Team.step_cases`): a thread begins a request, takes a step in it,
or takes its answer, and a team does this with one of its threads. **The runs** (`Team.run_sound`):
every schedule keeps a team sound.

A call is named by its thread and its number among the calls of that thread. It has **begun** when
the thread has taken the request up, and it has **returned** when it has come to its answer, whether
or not the thread has taken that yet.
-/

namespace VmSupport.Heap

/-! ## Calls -/

/-- A call: the thread that makes it, and its number among the calls of that thread. -/
@[ext]
structure CallId where
  thread : Nat
  index : Nat
  deriving DecidableEq, Repr

/-- The size that a call requests. -/
def request? (requests : List (List Int32)) (c : CallId) : Option Int32 :=
  requests[c.thread]?.bind (·[c.index]?)

namespace Requester

/-- The number of calls that a thread has begun. -/
def begun (r : Requester) : Nat :=
  r.answers.length + if r.stage.isSome then 1 else 0

/-- The answers that the calls of a thread have come to. -/
def results (r : Requester) : List (Except HeapError Handle) :=
  match r.stage with
  | some (.returned answer) => r.answers ++ [answer]
  | _ => r.answers

/-- Whether a thread is not in the middle of a call. -/
def IsQuiet (r : Requester) : Prop :=
  r.stage = none ∨ ∃ answer, r.stage = some (.returned answer)

end Requester

namespace Team

/-- Threads that are about to make requests of a heap. -/
def ofRequests (h : Shared) (requests : List (List Int32)) : Team :=
  { heap := h, threads := requests.map Requester.ofSizes, events := [] }

/-- The answer that a call has come to. -/
def result? (t : Team) (c : CallId) : Option (Except HeapError Handle) :=
  t.threads[c.thread]?.bind (·.results[c.index]?)

/-- The call has begun. -/
def HasBegun (t : Team) (c : CallId) : Prop :=
  ∃ r, t.threads[c.thread]? = some r ∧ c.index < r.begun

/-- No call is in progress. -/
def IsQuiet (t : Team) : Prop :=
  ∀ r ∈ t.threads, r.IsQuiet

end Team

/-! ## Sums over threads -/

/-- The sum over a list in which one entry is replaced, beside the sum over the list. -/
theorem exists_sum_map_set {α : Type} (f : α → Nat) {l : List α} {i : Nat} {a : α}
    (h : l[i]? = some a) :
    ∃ rest, (l.map f).sum = rest + f a ∧ ∀ b, ((l.set i b).map f).sum = rest + f b := by
  induction l generalizing i with
  | nil => cases h
  | cons x l ih =>
    cases i with
    | zero =>
      cases h
      refine ⟨(l.map f).sum, ?_, fun b => ?_⟩
      · rw [List.map_cons, List.sum_cons, Nat.add_comm]
      · rw [List.set_cons_zero, List.map_cons, List.sum_cons, Nat.add_comm]
    | succ i =>
      obtain ⟨rest, hsum, hset⟩ := ih (List.getElem?_cons_succ ▸ h)
      refine ⟨f x + rest, ?_, fun b => ?_⟩
      · rw [List.map_cons, List.sum_cons, hsum, Nat.add_assoc]
      · rw [List.set_cons_succ, List.map_cons, List.sum_cons, hset, Nat.add_assoc]

/-! ## Threads -/

/-- What is invariably true of a thread that was given these sizes. -/
structure Requester.Sound (h : Shared) (sizes : List Int32) (r : Requester) : Prop where
  /-- It still has to make the requests that it has not begun. -/
  waiting_eq : r.waiting = sizes.drop r.begun
  begun_le : r.begun ≤ sizes.length
  /-- It is making the first of those that it has not finished. -/
  stage_sound : ∀ {stage}, r.stage = some stage →
    ∃ size, sizes[r.answers.length]? = some size ∧ stage.Sound h size

namespace Requester

theorem sound_ofSizes (h : Shared) (sizes : List Int32) : (ofSizes sizes).Sound h sizes where
  waiting_eq := rfl
  begun_le := Nat.zero_le _
  stage_sound hs := by cases hs

/-- A sound thread stays sound while others work on the heap. -/
theorem Sound.mono {h h' : Shared} {sizes : List Int32} {r : Requester} (hr : r.Sound h sizes)
    (hcursor : h.cursor ≤ h'.cursor) (hregion : h'.region = h.region) : r.Sound h' sizes where
  waiting_eq := hr.waiting_eq
  begun_le := hr.begun_le
  stage_sound hs := by
    obtain ⟨size, hsize, hstage⟩ := hr.stage_sound hs
    exact ⟨size, hsize, hstage.mono hcursor hregion⟩

/-- What one action of a thread can do: the thread afterwards and the heap afterwards. -/
inductive Moves (h : Shared) (sizes : List Int32) (spurious : Bool) (r : Requester) :
    Requester → Shared → Prop
  /-- It has nothing left to do. -/
  | idle (hs : r.stage = none) (hw : r.waiting = []) : Moves h sizes spurious r r h
  | begin {size : Int32} {rest : List Int32} (hs : r.stage = none)
    (hsize : sizes[r.answers.length]? = some size)
    (hrest : rest = sizes.drop (r.answers.length + 1)) :
    Moves h sizes spurious r { r with waiting := rest, stage := some (.start size) } h
  /-- It takes a step in the request that it is making. -/
  | act {size : Int32} {stage stage' : Stage} {h' : Shared} (hs : r.stage = some stage)
    (hsize : sizes[r.answers.length]? = some size)
    (hm : Stage.Moves h size spurious stage stage' h') :
    Moves h sizes spurious r { r with stage := some stage' } h'
  /-- It takes the answer to its request. -/
  | collect {answer : Except HeapError Handle} (hs : r.stage = some (.returned answer)) :
    Moves h sizes spurious r { r with stage := none, answers := r.answers ++ [answer] } h

variable {h h' : Shared} {sizes : List Int32} {spurious : Bool} {r r' : Requester}

/-- **An action of a sound thread is one of the moves.** -/
theorem step_moves (hh : h.Sound) (hr : r.Sound h sizes) (spurious : Bool) :
    Moves h sizes spurious r (r.step h spurious).1 (r.step h spurious).2.1 := by
  cases hs : r.stage with
  | none =>
    have hdrop := hr.waiting_eq
    simp only [begun, hs, Option.isSome_none, Bool.false_eq_true, ↓reduceIte, Nat.add_zero] at hdrop
    cases hw : r.waiting with
    | nil =>
      simp only [step, hs, hw]
      exact .idle hs hw
    | cons size rest =>
      rw [hw] at hdrop
      simp only [step, hs, hw]
      refine .begin hs ?_ ?_
      · rw [← Nat.add_zero r.answers.length, ← List.getElem?_drop, ← hdrop]
        rfl
      · rw [← List.drop_drop, ← hdrop]
        rfl
  | some stage =>
    obtain ⟨size, hsize, hstage⟩ := hr.stage_sound hs
    have hact := Moves.act hs hsize (Stage.step_moves hh hstage spurious)
    cases stage with
    | returned answer =>
      simp only [step, hs]
      exact .collect hs
    | _ =>
      simp only [step, hs]
      exact hact

namespace Moves

theorem region_eq (hm : Moves h sizes spurious r r' h') : h'.region = h.region := by
  cases hm with
  | act hs hsize hm => exact hm.region_eq
  | _ => rfl

theorem cursor_le (hm : Moves h sizes spurious r r' h') : h.cursor ≤ h'.cursor := by
  cases hm with
  | act hs hsize hm => exact hm.cursor_le
  | _ => exact Nat.le_refl _

theorem heap_sound (hm : Moves h sizes spurious r r' h') (hh : h.Sound) : h'.Sound := by
  cases hm with
  | act hs hsize hm => exact hm.heap_sound hh
  | _ => exact hh

/-- The thread stays sound. -/
theorem sound (hm : Moves h sizes spurious r r' h') (hr : r.Sound h sizes) : r'.Sound h' sizes := by
  have hwaiting := hr.waiting_eq
  have hbegun := hr.begun_le
  cases hm with
  | idle hs hw => exact hr
  | begin hs hsize hrest =>
    refine ⟨hrest, (List.getElem?_eq_some_iff.mp hsize).1, fun heq => ?_⟩
    cases heq
    exact ⟨_, hsize, rfl⟩
  | act hs hsize hm =>
    simp only [begun, hs] at hwaiting hbegun
    refine ⟨hwaiting, hbegun, fun heq => ?_⟩
    cases heq
    obtain ⟨size', hsize', hstage⟩ := hr.stage_sound hs
    rw [hsize] at hsize'
    cases hsize'
    exact ⟨_, hsize, hm.sound hstage⟩
  | collect hs =>
    simp only [begun, hs] at hwaiting hbegun
    refine ⟨?_, ?_, fun heq => by cases heq⟩
    · simpa [begun] using hwaiting
    · simpa [begun] using hbegun

end Moves

end Requester

/-! ## Teams -/

/-- What is invariably true of a team whose threads were given these requests. -/
structure Team.Sound (requests : List (List Int32)) (t : Team) : Prop where
  heap : t.heap.Sound
  threads : ∀ {i : Nat} {r : Requester}, t.threads[i]? = some r →
    ∃ sizes, requests[i]? = some sizes ∧ r.Sound t.heap sizes

namespace Team

variable {requests : List (List Int32)} {t : Team}

theorem sound_ofRequests {h : Shared} (hh : h.Sound) (requests : List (List Int32)) :
    (ofRequests h requests).Sound requests where
  heap := hh
  threads := by
    intro i r hr
    simp only [ofRequests, List.getElem?_map, Option.map_eq_some_iff] at hr
    obtain ⟨sizes, hsizes, rfl⟩ := hr
    exact ⟨sizes, hsizes, Requester.sound_ofSizes h sizes⟩

/-- **One action of a team**: it is none, or a move of one of the threads. -/
theorem step_cases (ht : t.Sound requests) (i : Nat) (spurious : Bool) :
    (t.threads[i]? = none ∧ t.step i spurious = t) ∨
    ∃ r r' h' sizes, t.threads[i]? = some r ∧ requests[i]? = some sizes ∧ r.Sound t.heap sizes ∧
      Requester.Moves t.heap sizes spurious r r' h' ∧ (t.step i spurious).heap = h' ∧
      (t.step i spurious).threads = t.threads.set i r' := by
  cases hi : t.threads[i]? with
  | none => exact .inl ⟨rfl, by simp only [step, hi]⟩
  | some r =>
    obtain ⟨sizes, hsizes, hr⟩ := ht.threads hi
    refine .inr ⟨r, _, _, sizes, rfl, hsizes, hr, r.step_moves ht.heap hr spurious, ?_, ?_⟩ <;>
      simp only [step, hi]

/-- An action keeps a team sound. -/
theorem step_sound (ht : t.Sound requests) (i : Nat) (spurious : Bool) :
    (t.step i spurious).Sound requests := by
  obtain ⟨_, heq⟩ | ⟨r, r', h', sizes, hi, hsizes, hr, hm, hheap, hthreads⟩ :=
    step_cases ht i spurious
  · exact heq.symm ▸ ht
  · refine ⟨hheap ▸ hm.heap_sound ht.heap, ?_⟩
    intro j q hj
    rw [hthreads, List.getElem?_set] at hj
    rw [hheap]
    split at hj
    · subst i
      split at hj
      · cases hj
        exact ⟨sizes, hsizes, hm.sound hr⟩
      · cases hj
    · -- the other threads see a heap whose cursor has only grown
      obtain ⟨sizes', hsizes', hq⟩ := ht.threads hj
      exact ⟨sizes', hsizes', hq.mono hm.cursor_le hm.region_eq⟩

theorem step_region (ht : t.Sound requests) (i : Nat) (spurious : Bool) :
    (t.step i spurious).heap.region = t.heap.region := by
  obtain ⟨_, heq⟩ | ⟨r, r', h', sizes, hi, hsizes, hr, hm, hheap, hthreads⟩ :=
    step_cases ht i spurious
  · rw [heq]
  · rw [hheap, hm.region_eq]

theorem run_cons (t : Team) (s : Nat × Bool) (schedule : List (Nat × Bool)) :
    t.run (s :: schedule) = (t.step s.1 s.2).run schedule := rfl

/-- **Every schedule keeps a team sound.** -/
theorem run_sound (ht : t.Sound requests) (schedule : List (Nat × Bool)) :
    (t.run schedule).Sound requests := by
  induction schedule generalizing t with
  | nil => exact ht
  | cons s schedule ih => exact ih (step_sound ht s.1 s.2)

theorem run_region (ht : t.Sound requests) (schedule : List (Nat × Bool)) :
    (t.run schedule).heap.region = t.heap.region := by
  induction schedule generalizing t with
  | nil => rfl
  | cons s schedule ih => rw [run_cons, ih (step_sound ht s.1 s.2), step_region ht]

end Team

end VmSupport.Heap
