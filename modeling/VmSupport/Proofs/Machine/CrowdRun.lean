import VmSupport.Proofs.Heap.TeamRun
import VmSupport.Proofs.Machine.CrowdSteps

/-!
# Runs of threads in one process

The calls of a crowd are named as those of a team: by their thread and their number on it. Every
call that has begun stands at a frame (`Crowd.frame?`), where a call that has been answered stays at
its answer. Seen so, an action of a crowd changes the frame of one call and nothing else
(`Crowd.step_acts`).

**The invariant** (`Crowd.Sound`) ties the lock, the place of the heap and the frames together: the
lock is taken exactly while one call is critical, there is a heap exactly if one call has installed
it, and every call knows at its frame what it should. **The runs** (`Crowd.run_sound`): every
schedule keeps a crowd sound.
-/

namespace VmSupport

open Heap (CallId Shared)

/-! ## Calls and where they stand -/

/-- The frames of the calls that a thread has begun, in their order. -/
def Worker.frames (r : Worker) : List Frame :=
  r.answers.map .answered ++ r.frame.toList

namespace Crowd

/-- The call with this name. -/
def call? (calls : List (List Call)) (id : CallId) : Option Call :=
  calls[id.thread]?.bind (·[id.index]?)

/-- The frame at which a call stands, if it has begun. -/
def frame? (c : Crowd) (id : CallId) : Option Frame :=
  c.workers[id.thread]?.bind (·.frames[id.index]?)

/-- The answer that a call has come to. -/
def result? (c : Crowd) (id : CallId) : Option Answer :=
  match c.frame? id with
  | some (.answered answer) => some answer
  | _ => none

/-- The call has the lock. -/
def IsCritical (c : Crowd) (id : CallId) : Prop :=
  ∃ frame, c.frame? id = some frame ∧ frame.isCritical = true

/-- The call has put the heap in place. -/
def HasInstalled (calls : List (List Call)) (c : Crowd) (id : CallId) : Prop :=
  ∃ call frame, call? calls id = some call ∧ c.frame? id = some frame ∧
    frame.hasInstalled call = true

end Crowd

namespace Worker

theorem length_frames (r : Worker) :
    r.frames.length = r.answers.length + r.frame.toList.length := by
  rw [frames, List.length_append, List.length_map]

/-- The present call of a thread comes behind those that it has the answers to. -/
theorem getElem?_frames_present (r : Worker) : r.frames[r.answers.length]? = r.frame := by
  rw [frames, List.getElem?_append_right (Nat.le_of_eq (List.length_map _)), List.length_map,
    Nat.sub_self]
  cases r.frame with
  | none => rfl
  | some frame => rfl

/-- A thread that goes on with its present call, or begins it, changes its frame only. -/
theorem getElem?_frames_act (r : Worker) (waiting : List Call) (frame : Frame) (k : Nat) :
    ({ r with waiting, frame := some frame } : Worker).frames[k]? =
      if k = r.answers.length then some frame else r.frames[k]? := by
  by_cases hk : k = r.answers.length
  · subst hk
    rw [if_pos rfl]
    exact getElem?_frames_present { r with waiting, frame := some frame }
  rw [if_neg hk]
  by_cases hlt : k < r.answers.length
  · simp only [frames]
    rw [List.getElem?_append_left (by rwa [List.length_map]),
      List.getElem?_append_left (by rwa [List.length_map])]
  · -- nothing stands behind the present call
    have hgt : r.answers.length < k := by omega
    rw [List.getElem?_eq_none, List.getElem?_eq_none]
    · rw [length_frames]
      cases r.frame with
      | none => exact Nat.le_of_lt hgt
      | some _ => exact hgt
    · rw [length_frames]
      exact hgt

/-- A thread that takes an answer keeps it as the frame of the call. -/
theorem frames_collect {r : Worker} {answer : Answer} (h : r.frame = some (.answered answer)) :
    ({ r with frame := none, answers := r.answers ++ [answer] } : Worker).frames = r.frames := by
  simp only [frames, h, List.map_append, List.map_cons, List.map_nil, Option.toList_none,
    Option.toList_some, List.append_nil]

end Worker

/-! ## The invariant -/

/-- Something is taken exactly if one call has it, and no two calls do. -/
structure HeldByOne (taken : Bool) (has : CallId → Prop) : Prop where
  unique : ∀ {id id' : CallId}, has id → has id' → id = id'
  taken_iff : taken = true ↔ ∃ id, has id

namespace HeldByOne

theorem of_none {has : CallId → Prop} (h : ∀ id, ¬ has id) : HeldByOne false has where
  unique := fun hid => absurd hid (h _)
  taken_iff := ⟨fun hfalse => absurd hfalse Bool.false_ne_true, fun ⟨id, hid⟩ => absurd hid (h id)⟩

/-- What one call does to something that is held by one: nothing, it takes what is free, or it gives
back what it has. -/
theorem change {taken taken' : Bool} {has has' : CallId → Prop} (h : HeldByOne taken has)
    (id : CallId) (hothers : ∀ id', id' ≠ id → (has' id' ↔ has id'))
    (hcases : (taken' = taken ∧ (has' id ↔ has id)) ∨ (taken = false ∧ taken' = true ∧ has' id) ∨
      (taken' = false ∧ has id ∧ ¬ has' id)) : HeldByOne taken' has' := by
  obtain ⟨htaken, hsame⟩ | ⟨hfree, htaken, hhas⟩ | ⟨hfree, hhas, hnot⟩ := hcases
  · have hiff : ∀ id', has' id' ↔ has id' := by
      intro id'
      by_cases heq : id' = id
      · rw [heq]
        exact hsame
      · exact hothers id' heq
    refine ⟨fun h₁ h₂ => h.unique ((hiff _).mp h₁) ((hiff _).mp h₂), ?_⟩
    rw [htaken, h.taken_iff]
    exact exists_congr fun id' => (hiff id').symm
  · -- nobody else has what was free
    have honly : ∀ id', has' id' → id' = id := by
      intro id' hid'
      by_cases heq : id' = id
      · exact heq
      · have htrue := h.taken_iff.mpr ⟨id', (hothers id' heq).mp hid'⟩
        rw [hfree] at htrue
        cases htrue
    exact ⟨fun h₁ h₂ => (honly _ h₁).trans (honly _ h₂).symm, fun _ => ⟨id, hhas⟩, fun _ => htaken⟩
  · have hnone : ∀ id', ¬ has' id' := by
      intro id' hid'
      by_cases heq : id' = id
      · exact hnot (heq ▸ hid')
      · exact heq (h.unique ((hothers id' heq).mp hid') hhas)
    refine ⟨fun h₁ _ => absurd h₁ (hnone _), fun htrue => ?_,
      fun ⟨id', hid'⟩ => absurd hid' (hnone id')⟩
    rw [hfree] at htrue
    cases htrue

end HeldByOne

namespace Crowd

/-- Threads with these numbers, about to make these calls in a fresh process. -/
def ofThreads (threads : List (Nat × List Call)) : Crowd :=
  ofMachine .fresh (threads.map fun t => .ofCalls t.1 t.2)

/-- What is invariably true of a crowd whose threads were given these calls. -/
structure Sound (w : Surroundings) (calls : List (List Call)) (c : Crowd) : Prop where
  /-- Each thread still has to make the calls that it has not begun. -/
  waiting : ∀ {i : Nat} {r : Worker}, c.workers[i]? = some r →
    ∃ cs, calls[i]? = some cs ∧ r.waiting = cs.drop r.frames.length
  place : ∀ h, c.machine.heap = some h → h.Sound
  frames : ∀ {id : CallId} {frame : Frame}, c.frame? id = some frame →
    ∃ call, call? calls id = some call ∧ frame.Sound w c.machine.heap call
  /-- The lock is taken exactly while one call is critical. -/
  lock : HeldByOne c.lockedBy.isSome c.IsCritical
  /-- There is a heap exactly if one call has installed it. -/
  heap : HeldByOne c.machine.heap.isSome (c.HasInstalled calls)

/-- What one action of a thread does to a crowd, as seen from its calls: nothing, or a move of the
present call of the thread. -/
inductive Acts (w : Surroundings) (calls : List (List Call)) (i : Nat) (c c' : Crowd) : Prop
  | still (hframes : c'.frame? = c.frame?) (hplace : c'.machine.heap = c.machine.heap)
    (hlock : c'.lockedBy.isSome = c.lockedBy.isSome)
  | act {r : Worker} {id : CallId} {call : Call} {new : Frame} (hr : c.workers[i]? = some r)
    (hid : id = ⟨i, r.answers.length⟩) (hcall : call? calls id = some call)
    (hm : Frame.Moves w call c.machine.heap c.lockedBy.isSome (c.frame? id) new c'.machine.heap
      c'.lockedBy.isSome)
    (hframes : ∀ id', c'.frame? id' = if id' = id then some new else c.frame? id')

variable {w : Surroundings} {calls : List (List Call)} {c : Crowd}

/-! ## Steps -/

/-- The frames of the calls after one thread has acted. -/
theorem frame?_set {r r' : Worker} {i : Nat} (hi : c.workers[i]? = some r) (machine : Machine)
    (lockedBy : Option Nat) (id : CallId) :
    (⟨machine, lockedBy, c.workers.set i r'⟩ : Crowd).frame? id =
      if id.thread = i then r'.frames[id.index]? else c.frame? id := by
  have hlt : i < c.workers.length := (List.getElem?_eq_some_iff.mp hi).1
  simp only [frame?, List.getElem?_set]
  by_cases h : i = id.thread
  · rw [if_pos h, if_pos h.symm, if_pos hlt]
    rfl
  · rw [if_neg h, if_neg (Ne.symm h)]

/-- A thread that begins a call or goes on with it changes the frame of that call. -/
theorem frame?_act {r : Worker} {i : Nat} (hi : c.workers[i]? = some r) (machine : Machine)
    (lockedBy : Option Nat) (waiting : List Call) (new : Frame) (id : CallId) :
    (⟨machine, lockedBy, c.workers.set i { r with waiting, frame := some new }⟩ : Crowd).frame? id =
      if id = ⟨i, r.answers.length⟩ then some new else c.frame? id := by
  rw [frame?_set hi, Worker.getElem?_frames_act]
  obtain ⟨thread, index⟩ := id
  by_cases hthread : thread = i
  · subst hthread
    by_cases hindex : index = r.answers.length
    · subst hindex
      simp only [↓reduceIte]
    · have hne : (⟨thread, index⟩ : CallId) ≠ ⟨thread, r.answers.length⟩ :=
        fun h => hindex (congrArg CallId.index h)
      rw [if_pos rfl, if_neg hindex, if_neg hne, frame?, hi]
      rfl
  · have hne : (⟨thread, index⟩ : CallId) ≠ ⟨i, r.answers.length⟩ :=
      fun h => hthread (congrArg CallId.thread h)
    rw [if_neg hthread, if_neg hne]

/-- A thread whose calls stay where they are changes no frame. -/
theorem frame?_still {r r' : Worker} {i : Nat} (hi : c.workers[i]? = some r)
    (h : r'.frames = r.frames) (machine : Machine) (lockedBy : Option Nat) :
    (⟨machine, lockedBy, c.workers.set i r'⟩ : Crowd).frame? = c.frame? := by
  funext id
  rw [frame?_set hi, h]
  split
  · next hthread =>
    rw [frame?, hthread, hi]
    rfl
  · rfl

/-- The next call of a thread that is making none. -/
theorem call?_next {r : Worker} {i : Nat} {cs rest : List Call} {call : Call}
    (hcs : calls[i]? = some cs) (hwaiting : r.waiting = cs.drop r.frames.length)
    (hframe : r.frame = none) (hw : r.waiting = call :: rest) :
    call? calls ⟨i, r.answers.length⟩ = some call ∧ rest = cs.drop (r.answers.length + 1) := by
  have hlength : r.frames.length = r.answers.length := by
    rw [Worker.length_frames, hframe]
    rfl
  rw [hw, hlength] at hwaiting
  constructor
  · rw [call?, hcs, Option.bind_some]
    show cs[r.answers.length]? = some call
    rw [← Nat.add_zero r.answers.length, ← List.getElem?_drop, ← hwaiting]
    rfl
  · rw [← List.drop_drop, ← hwaiting]
    rfl

/-- **An action of a sound crowd** is none, or a move of one call. -/
theorem step_acts (hc : c.Sound w calls) (i : Nat) (spurious : Bool) :
    Acts w calls i c (c.step w i spurious) := by
  cases hi : c.workers[i]? with
  | none =>
    simp only [step, hi]
    exact .still rfl rfl rfl
  | some r =>
    obtain ⟨cs, hcs, hwaiting⟩ := hc.waiting hi
    have hpresent : c.frame? ⟨i, r.answers.length⟩ = r.frame := by
      rw [frame?, hi]
      exact r.getElem?_frames_present
    cases hframe : r.frame with
    | none =>
      cases hw : r.waiting with
      | nil =>
        simp only [step, hi, Worker.step, hframe, hw]
        exact .still (frame?_still hi rfl _ _) rfl rfl
      | cons call rest =>
        have hm := Frame.begin_moves w r.thread c.machine call c.lockedBy.isSome
        simp only [step, hi, Worker.step, hframe, hw]
        refine .act hi rfl (call?_next hcs hwaiting hframe hw).1 ?_ (frame?_act hi _ _ _ _)
        rw [hpresent, hframe]
        exact hm
    | some frame =>
      obtain ⟨call, hcall, hsound⟩ := hc.frames (hpresent.trans hframe)
      have hm := Frame.step_moves hc.place hsound r.thread spurious c.lockedBy
      generalize hs : frame.step w r.thread spurious c.machine c.lockedBy = s at hm
      have hact : Acts w calls i c ⟨s.machine, s.lockedBy,
          c.workers.set i { r with frame := some s.frame }⟩ := by
        refine .act hi rfl hcall ?_ (frame?_act hi _ _ r.waiting _)
        rw [hpresent, hframe]
        exact hm
      cases frame with
      | answered answer =>
        simp only [step, hi, Worker.step, hframe]
        exact .still (frame?_still hi (Worker.frames_collect hframe) _ _) rfl rfl
      | _ =>
        simp only [step, hi, Worker.step, hframe, hs]
        exact hact

/-! ## What an action keeps -/

namespace Acts

variable {c' : Crowd} {i : Nat}

/-- A heap that is in place stays there. -/
theorem grows (ha : Acts w calls i c c') : Grows c.machine.heap c'.machine.heap := by
  cases ha with
  | still hframes hplace hlock => exact hplace ▸ Grows.refl _
  | act hr hid hcall hm hframes => exact hm.grows

theorem place_sound (ha : Acts w calls i c c') (hc : c.Sound w calls) :
    ∀ h, c'.machine.heap = some h → h.Sound := by
  cases ha with
  | still hframes hplace hlock => exact hplace ▸ hc.place
  | act hr hid hcall hm hframes => exact hm.place_sound hc.place

/-- A critical call is one at a critical frame. -/
theorem isCritical_iff {id : CallId} :
    c.IsCritical id ↔ ((c.frame? id).map Frame.isCritical).getD false = true := by
  rw [IsCritical]
  cases c.frame? id with
  | none =>
    constructor
    · rintro ⟨_, h, -⟩
      cases h
    · intro h
      cases h
  | some frame =>
    constructor
    · rintro ⟨_, h, hcritical⟩
      cases h
      exact hcritical
    · exact fun h => ⟨frame, rfl, h⟩

theorem hasInstalled_iff {id : CallId} {call : Call} (hcall : call? calls id = some call) :
    c.HasInstalled calls id ↔ ((c.frame? id).map (Frame.hasInstalled call)).getD false = true := by
  rw [HasInstalled]
  cases c.frame? id with
  | none =>
    constructor
    · rintro ⟨_, _, -, h, -⟩
      cases h
    · intro h
      cases h
  | some frame =>
    constructor
    · rintro ⟨_, _, hcall', h, hinstalled⟩
      cases hcall.symm.trans hcall'
      cases h
      exact hinstalled
    · exact fun h => ⟨call, frame, hcall, rfl, h⟩

/-- The lock is taken exactly while one call is critical. -/
theorem lock_held (ha : Acts w calls i c c') (hc : c.Sound w calls) :
    HeldByOne c'.lockedBy.isSome c'.IsCritical := by
  cases ha with
  | still hframes hplace hlock =>
    have hsame : c'.IsCritical = c.IsCritical := by
      funext id
      rw [IsCritical, IsCritical, hframes]
    rw [hlock, hsame]
    exact hc.lock
  | @act _ id call new hr hid hcall hm hframes =>
    have hnew : c'.IsCritical id ↔ new.isCritical = true := by
      rw [isCritical_iff, hframes, if_pos rfl]
      rfl
    refine hc.lock.change id ?_ ?_
    · intro id' hne
      rw [IsCritical, IsCritical, hframes, if_neg hne]
    · rw [hnew, isCritical_iff]
      obtain ⟨hlock, hsame⟩ | ⟨hfree, htaken, hcritical⟩ | ⟨hfree, hold, hnot⟩ := hm.lock_cases
      · exact .inl ⟨hlock, by rw [hsame]⟩
      · exact .inr (.inl ⟨hfree, htaken, hcritical⟩)
      · exact .inr (.inr ⟨hfree, hold, by rw [hnot]; exact Bool.false_ne_true⟩)

/-- There is a heap exactly if one call has installed it. -/
theorem heap_held (ha : Acts w calls i c c') (hc : c.Sound w calls) :
    HeldByOne c'.machine.heap.isSome (c'.HasInstalled calls) := by
  cases ha with
  | still hframes hplace hlock =>
    have hsame : c'.HasInstalled calls = c.HasInstalled calls := by
      funext id
      rw [HasInstalled, HasInstalled, hframes]
    rw [hplace, hsame]
    exact hc.heap
  | @act _ id call new hr hid hcall hm hframes =>
    have hnew : c'.HasInstalled calls id ↔ new.hasInstalled call = true := by
      rw [hasInstalled_iff hcall, hframes, if_pos rfl]
      rfl
    refine hc.heap.change id ?_ ?_
    · intro id' hne
      rw [HasInstalled, HasInstalled, hframes, if_neg hne]
    · rw [hnew, hasInstalled_iff hcall]
      obtain ⟨hplace, hsame⟩ | ⟨hnone, hsome, -, hinstalled⟩ := hm.install_cases
      · exact .inl ⟨hplace, by rw [hsame]⟩
      · exact .inr (.inl ⟨by rw [hnone]; rfl, hsome, hinstalled⟩)

/-- A call that has installed the heap has done so for good. -/
theorem hasInstalled (ha : Acts w calls i c c') {id : CallId} (h : c.HasInstalled calls id) :
    c'.HasInstalled calls id := by
  cases ha with
  | still hframes hplace hlock =>
    rw [HasInstalled, hframes]
    exact h
  | @act _ moved call new hr hid hcall hm hframes =>
    by_cases heq : id = moved
    · subst heq
      have hold := (hasInstalled_iff hcall).mp h
      rw [hasInstalled_iff hcall, hframes, if_pos rfl]
      obtain ⟨-, hsame⟩ | ⟨-, -, -, hnew⟩ := hm.install_cases
      · exact hsame.trans hold
      · exact hnew
    · rw [HasInstalled, hframes, if_neg heq]
      exact h

/-- Once there is a heap, a thread that does not ask for memory leaves it as it is. -/
theorem place_eq (ha : Acts w calls i c c') (hplace : c.machine.heap.isSome = true) {r : Worker}
    (hr : c.workers[i]? = some r)
    (hpresent : ∀ call, call? calls ⟨i, r.answers.length⟩ = some call → call.isRequest = false) :
    c'.machine.heap = c.machine.heap := by
  cases ha with
  | still hframes hsame hlock => exact hsame
  | act hr' hid hcall hm hframes =>
    cases hr.symm.trans hr'
    exact hm.place_eq hplace (hpresent _ (hid ▸ hcall))

/-- Every call knows at its frame what it should. -/
theorem frames_sound (ha : Acts w calls i c c') (hc : c.Sound w calls) {id : CallId} {frame : Frame}
    (h : c'.frame? id = some frame) :
    ∃ call, call? calls id = some call ∧ frame.Sound w c'.machine.heap call := by
  cases ha with
  | still hframes hplace hlock =>
    rw [hframes] at h
    exact hplace ▸ hc.frames h
  | @act _ moved call new hr hid hcall hm hframes =>
    rw [hframes] at h
    split at h
    · next heq =>
      cases h
      exact ⟨call, heq ▸ hcall, hm.sound⟩
    · next hne =>
      obtain ⟨call', hcall', hsound⟩ := hc.frames h
      refine ⟨call', hcall', hsound.mono hm.grows fun hcritical hnone => ?_⟩
      -- a heap is put in place under the lock, and it is this call that has the lock
      obtain ⟨hplace, -⟩ | ⟨-, -, hmoved, -⟩ := hm.install_cases
      · rw [hnone] at hplace
        exact Option.not_isSome_iff_eq_none.mp (by rw [hplace]; exact Bool.false_ne_true)
      · exact absurd (hc.lock.unique ⟨frame, h, hcritical⟩ (isCritical_iff.mpr hmoved)) hne

end Acts

/-- Each thread still has to make the calls that it has not begun. -/
theorem step_waiting (hc : c.Sound w calls) (i : Nat) (spurious : Bool) {j : Nat} {q : Worker}
    (hj : (c.step w i spurious).workers[j]? = some q) :
    ∃ cs, calls[j]? = some cs ∧ q.waiting = cs.drop q.frames.length := by
  cases hi : c.workers[i]? with
  | none =>
    simp only [step, hi] at hj
    exact hc.waiting hj
  | some r =>
    obtain ⟨cs, hcs, hwaiting⟩ := hc.waiting hi
    simp only [step, hi, List.getElem?_set] at hj
    split at hj
    · next heq =>
      subst heq
      split at hj
      · cases hj
        refine ⟨cs, hcs, ?_⟩
        cases hframe : r.frame with
        | none =>
          cases hw : r.waiting with
          | nil =>
            simp only [Worker.step, hframe, hw]
            rw [← hwaiting, hw]
          | cons call rest =>
            simp only [Worker.step, hframe, hw]
            rw [(call?_next hcs hwaiting hframe hw).2, Worker.length_frames]
            rfl
        | some frame =>
          have hact : ∀ new, r.waiting =
              cs.drop ({ r with frame := some new } : Worker).frames.length := by
            intro new
            rw [Worker.length_frames]
            exact hwaiting.trans (by rw [Worker.length_frames, hframe]; rfl)
          cases frame with
          | answered answer =>
            simp only [Worker.step, hframe]
            rw [Worker.frames_collect hframe]
            exact hwaiting
          | _ =>
            simp only [Worker.step, hframe]
            exact hact _
      · cases hj
    · exact hc.waiting hj

/-- An action keeps a crowd sound. -/
theorem step_sound (hc : c.Sound w calls) (i : Nat) (spurious : Bool) :
    (c.step w i spurious).Sound w calls where
  waiting := step_waiting hc i spurious
  place := (step_acts hc i spurious).place_sound hc
  frames := (step_acts hc i spurious).frames_sound hc
  lock := (step_acts hc i spurious).lock_held hc
  heap := (step_acts hc i spurious).heap_held hc

theorem run_cons (w : Surroundings) (c : Crowd) (s : Nat × Bool) (schedule : List (Nat × Bool)) :
    c.run w (s :: schedule) = (c.step w s.1 s.2).run w schedule := rfl

theorem length_workers_run (w : Surroundings) (c : Crowd) (schedule : List (Nat × Bool)) :
    (c.run w schedule).workers.length = c.workers.length := by
  induction schedule generalizing c with
  | nil => rfl
  | cons s schedule ih =>
    rw [run_cons, ih, step]
    cases c.workers[s.1]? with
    | none => rfl
    | some r => exact List.length_set

/-- **Every schedule keeps a crowd sound.** -/
theorem run_sound (hc : c.Sound w calls) (schedule : List (Nat × Bool)) :
    (c.run w schedule).Sound w calls := by
  induction schedule generalizing c with
  | nil => exact hc
  | cons s schedule ih => exact ih (step_sound hc s.1 s.2)

theorem frame?_ofThreads (threads : List (Nat × List Call)) (id : CallId) :
    (ofThreads threads).frame? id = none := by
  simp only [frame?, ofThreads, ofMachine, List.getElem?_map]
  cases threads[id.thread]? with
  | none => rfl
  | some t => rfl

/-- A fresh process on which no call has begun is sound. -/
theorem sound_ofThreads (w : Surroundings) (threads : List (Nat × List Call)) :
    (ofThreads threads).Sound w (threads.map Prod.snd) where
  waiting := by
    intro i r hr
    simp only [ofThreads, ofMachine, List.getElem?_map, Option.map_eq_some_iff] at hr
    obtain ⟨t, ht, rfl⟩ := hr
    exact ⟨t.2, by rw [List.getElem?_map, ht]; rfl, rfl⟩
  place := by
    intro h hh
    cases hh
  frames := by
    intro id frame h
    rw [frame?_ofThreads] at h
    cases h
  lock := by
    refine HeldByOne.of_none ?_
    rintro id ⟨_, h, -⟩
    rw [frame?_ofThreads] at h
    cases h
  heap := by
    refine HeldByOne.of_none ?_
    rintro id ⟨_, _, -, h, -⟩
    rw [frame?_ofThreads] at h
    cases h

end Crowd

end VmSupport
