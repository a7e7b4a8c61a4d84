import VmSupport.Proofs.Heap.LoopTurns

/-!
# The turns of calls in a run

A call is followed through the run of a team by the turns that it takes (`Team.turns`), and the turns
of all calls stand in one journal, in the order in which a schedule makes them (`Team.journal`).

Where a call stands is its stage (`Team.stageOf`): before it begins it is at its start, and after its
thread has taken the answer it stays there. So an action of the team takes the call through a turn,
or leaves it where it is, and no other action matters to it (`Team.step_touches`).

**The runs**: a run takes each call on a walk (`Team.run_walk`), and a call takes a turn in every
action of its thread, from its beginning to its answer (`Team.length_turns`). Over all calls, the
cursor is the sum of what was claimed (`Team.run_cursor`).
-/

namespace VmSupport.Heap

/-! ## Where a call stands -/

namespace Requester

/-- The stages of the calls that a thread has begun. A call whose answer was taken is at this
answer. -/
def stages (r : Requester) : List Stage :=
  r.answers.map .returned ++ r.stage.toList

/-- The stage of a call of a thread, which is at its start until it has begun. -/
def stageOf (r : Requester) (size : Int32) (index : Nat) : Stage :=
  r.stages[index]?.getD (.start size)

/-- The turn that a thread takes from here to there. -/
def turn? (r r' : Requester) : Option Turn :=
  match r.stage, r'.stage with
  | some stage, some stage' => Turn.of? stage stage'
  | _, _ => none

variable {r r' : Requester} {size : Int32} {index : Nat}

/-- A call whose answer was taken is at this answer. -/
theorem stageOf_of_lt (h : index < r.answers.length) :
    r.stageOf size index = .returned r.answers[index] := by
  have hlt : index < (r.answers.map Stage.returned).length := by rwa [List.length_map]
  rw [stageOf, stages, List.getElem?_append_left hlt, List.getElem?_map, List.getElem?_eq_getElem h]
  rfl

/-- The next call is at the stage that the thread is at. -/
theorem stageOf_length (r : Requester) (size : Int32) :
    r.stageOf size r.answers.length = r.stage.getD (.start size) := by
  have hlength : (r.answers.map Stage.returned).length = r.answers.length := List.length_map _
  rw [stageOf, stages, ← hlength, List.getElem?_append_right (Nat.le_refl _), Nat.sub_self]
  cases r.stage <;> rfl

/-- The calls behind it have not begun. -/
theorem stageOf_of_gt (h : r.answers.length < index) : r.stageOf size index = .start size := by
  have hnone : r.stages[index]? = none := by
    apply List.getElem?_eq_none
    rw [stages, List.length_append, List.length_map]
    cases r.stage with
    | none => exact Nat.le_of_lt h
    | some stage => exact h
  rw [stageOf, hnone]
  rfl

/-- What a thread does in a call leaves its other calls where they are. -/
theorem stageOf_congr (hanswers : r'.answers = r.answers) (hne : index ≠ r.answers.length) :
    r'.stageOf size index = r.stageOf size index := by
  obtain hlt | hgt := Nat.lt_or_gt_of_ne hne
  · rw [stageOf_of_lt hlt, stageOf_of_lt (hanswers.symm ▸ hlt)]
    simp only [hanswers]
  · rw [stageOf_of_gt hgt, stageOf_of_gt (hanswers.symm ▸ hgt)]

/-- What a thread does in the call that it is making. -/
theorem stageOf_act {stage : Stage} (hs : r.stage = some stage) (stage' : Stage) (size : Int32) :
    let next := { r with stage := some stage' }
    r.stageOf size r.answers.length = stage ∧ next.stageOf size r.answers.length = stage' ∧
      r.turn? next = Turn.of? stage stage' := by
  intro next
  refine ⟨?_, stageOf_length next size, by rw [turn?, hs]⟩
  rw [stageOf_length, hs]
  rfl

/-- A call has returned where it is at an answer. -/
theorem stageOf_eq_returned_iff {answer : Except HeapError Handle} :
    r.stageOf size index = .returned answer ↔ r.results[index]? = some answer := by
  obtain hlt | rfl | hgt := Nat.lt_trichotomy index r.answers.length
  · rw [stageOf_of_lt hlt, Stage.returned.injEq]
    unfold results
    split
    · rw [List.getElem?_append_left hlt, List.getElem?_eq_getElem hlt, Option.some.injEq]
    · rw [List.getElem?_eq_getElem hlt, Option.some.injEq]
  · rw [stageOf_length]
    unfold results
    split
    · next h => simp [h]
    · next h =>
      simp only [Nat.le_refl, List.getElem?_eq_none, reduceCtorEq, iff_false]
      cases hs : r.stage with
      | none => simp
      | some stage =>
        rintro rfl
        exact h _ hs
  · have hnone : r.results[index]? = none := by
      apply List.getElem?_eq_none
      unfold results
      split
      · rwa [List.length_append]
      · exact Nat.le_of_lt hgt
    rw [stageOf_of_gt hgt, hnone]
    simp only [reduceCtorEq]

variable {h h' : Shared} {sizes : List Int32} {spurious : Bool}

namespace Moves

/-- A call that has begun stays so. -/
theorem begun_le (hm : Moves h sizes spurious r r' h') : r.begun ≤ r'.begun := by
  cases hm with
  | idle => exact Nat.le_refl _
  | begin hs | act hs | collect hs => simp [begun, hs]

/-- The cursor moves by what the thread claims. -/
theorem cursor_eq (hm : Moves h sizes spurious r r' h') :
    h'.cursor = h.cursor + ((r.turn? r').map Turn.bytes).getD 0 := by
  cases hm with
  | idle hs | begin hs | collect hs => simp [turn?, hs]
  | act hs hsize hm =>
    simp only [turn?, hs]
    cases hturn : Turn.of? _ _ with
    | none => simp [(hm.isReturned_of_turn hturn).2.2]
    | some turn => exact hm.cursor_eq hturn

/-- **An action of a thread takes a call of its through a turn, or leaves it where it is.** -/
theorem stageOf_cases (hm : Moves h sizes spurious r r' h') (hsize : sizes[index]? = some size) :
    (∃ turn, index = r.answers.length ∧ r.turn? r' = some turn ∧
      Turn.of? (r.stageOf size index) (r'.stageOf size index) = some turn ∧
      Stage.Moves h size spurious (r.stageOf size index) (r'.stageOf size index) h') ∨
    ((index = r.answers.length → r.turn? r' = none) ∧
      r'.stageOf size index = r.stageOf size index ∧
      (index < r.begun → (r.stageOf size index).IsReturned)) := by
  have hover : index < r.answers.length → (r.stageOf size index).IsReturned :=
    fun hlt => ⟨_, stageOf_of_lt hlt⟩
  cases hm with
  | idle hs hw =>
    right
    refine ⟨fun _ => by rw [turn?, hs], rfl, fun hbegun => hover ?_⟩
    simpa [begun, hs] using hbegun
  | @begin size' rest hs hsize' hrest =>
    right
    refine ⟨fun _ => by rw [turn?, hs], ?_, fun hbegun => hover (by simpa [begun, hs] using hbegun)⟩
    by_cases hindex : index = r.answers.length
    · subst hindex
      rw [hsize] at hsize'
      cases hsize'
      rw [stageOf_length r, hs]
      exact stageOf_length _ size
    · exact stageOf_congr rfl hindex
  | @act size' stage stage' h' hs hsize' hm =>
    by_cases hindex : index = r.answers.length
    · subst hindex
      rw [hsize] at hsize'
      cases hsize'
      obtain ⟨hbefore, hafter, hturn⟩ := stageOf_act hs stage' size
      rw [hbefore, hafter, hturn]
      cases heq : Turn.of? stage stage' with
      | some turn => exact .inl ⟨turn, rfl, rfl, rfl, hm⟩
      | none =>
        obtain ⟨hreturned, hsame, -⟩ := hm.isReturned_of_turn heq
        exact .inr ⟨fun _ => rfl, hsame, fun _ => hreturned⟩
    · right
      refine ⟨fun heq => absurd heq hindex, stageOf_congr rfl hindex, fun hbegun => hover ?_⟩
      simp only [begun, hs, Option.isSome_some, ↓reduceIte] at hbegun
      omega
  | @collect answer hs =>
    right
    let next : Requester := { r with stage := none, answers := r.answers ++ [answer] }
    have hstages : next.stages = r.stages := by simp [next, stages, hs]
    refine ⟨fun _ => by rw [turn?, hs], ?_, fun hbegun => ?_⟩
    · rw [stageOf, stageOf, ← hstages]
    simp only [begun, hs, Option.isSome_some, ↓reduceIte] at hbegun
    obtain rfl | hlt := Nat.eq_or_lt_of_le (Nat.le_of_lt_succ hbegun)
    · rw [stageOf_length, hs]
      exact ⟨answer, rfl⟩
    · exact hover hlt

end Moves

end Requester

/-! ## The journal of a run -/

/-- The turns of one call in a journal. -/
def turnsOf (c : CallId) (journal : List (CallId × Turn)) : List Turn :=
  journal.filterMap fun e => if e.1 = c then some e.2 else none

theorem turnsOf_cons_same (c : CallId) (turn : Turn) (journal : List (CallId × Turn)) :
    turnsOf c ((c, turn) :: journal) = turn :: turnsOf c journal :=
  List.filterMap_cons_some (if_pos rfl)

theorem turnsOf_cons_other {c d : CallId} (h : d ≠ c) (turn : Turn)
    (journal : List (CallId × Turn)) : turnsOf c ((d, turn) :: journal) = turnsOf c journal :=
  List.filterMap_cons_none (if_neg h)

theorem mem_turnsOf {c : CallId} {journal : List (CallId × Turn)} {e : CallId × Turn}
    (h : e ∈ journal) (hcall : e.1 = c) : e.2 ∈ turnsOf c journal :=
  List.mem_filterMap.mpr ⟨e, h, if_pos hcall⟩

/-- A turn of a call has an entry in the journal, and what the call does later stands behind it. -/
theorem exists_of_turnsOf {c : CallId} {journal : List (CallId × Turn)} {turn : Turn}
    {front back : List Turn} (h : turnsOf c journal = front ++ turn :: back) :
    ∃ before after, journal = before ++ (c, turn) :: after ∧ turnsOf c after = back := by
  obtain ⟨before, rest, rfl, -, hrest⟩ := List.filterMap_eq_append_iff.mp h
  obtain ⟨others, e, after, rfl, -, he, hback⟩ := List.filterMap_eq_cons_iff.mp hrest
  obtain ⟨d, turn'⟩ := e
  simp only [Option.ite_none_right_eq_some, Option.some.injEq] at he
  obtain ⟨rfl, rfl⟩ := he
  exact ⟨before ++ others, after, (List.append_assoc ..).symm, hback⟩

namespace Team

/-- The stage of a call, which is at its start until it has begun. -/
def stageOf (t : Team) (size : Int32) (c : CallId) : Stage :=
  (t.threads[c.thread]?.map (·.stageOf size c.index)).getD (.start size)

/-- The turn in an action of the thread with this number, and the call that takes it. -/
def turn? (t : Team) (i : Nat) (spurious : Bool) : Option (CallId × Turn) :=
  match t.threads[i]?, (t.step i spurious).threads[i]? with
  | some r, some r' => (r.turn? r').map (⟨i, r.answers.length⟩, ·)
  | _, _ => none

/-- The turns of all calls, in the order in which a schedule makes them. -/
def journal (t : Team) : List (Nat × Bool) → List (CallId × Turn)
  | [] => []
  | s :: schedule => (t.turn? s.1 s.2).toList ++ (t.step s.1 s.2).journal schedule

/-- The turns that a call takes in a run. -/
def turns (t : Team) (schedule : List (Nat × Bool)) (c : CallId) : List Turn :=
  turnsOf c (t.journal schedule)

variable {requests : List (List Int32)} {t : Team} {c : CallId} {size : Int32}

/-- At first every call is at its start. -/
theorem stageOf_ofRequests (h : Shared) (requests : List (List Int32)) (size : Int32) (c : CallId) :
    (ofRequests h requests).stageOf size c = .start size := by
  rw [stageOf, ofRequests, List.getElem?_map]
  cases requests[c.thread]? <;> rfl

/-- A call has returned where it is at an answer. -/
theorem stageOf_eq_returned_iff {answer : Except HeapError Handle} :
    t.stageOf size c = .returned answer ↔ t.result? c = some answer := by
  rw [stageOf, result?]
  cases t.threads[c.thread]? with
  | none => simp
  | some r => exact Requester.stageOf_eq_returned_iff

/-- What an action of a team means to one call: it takes a turn, or it stays where it is. -/
inductive Touches (t : Team) (size : Int32) (c : CallId) (i : Nat) (spurious : Bool) : Prop
  | turn {turn : Turn} (hi : i = c.thread) (hentry : t.turn? i spurious = some (c, turn))
    (hturn : Turn.of? (t.stageOf size c) ((t.step i spurious).stageOf size c) = some turn)
    (hm : Stage.Moves t.heap size spurious (t.stageOf size c)
      ((t.step i spurious).stageOf size c) (t.step i spurious).heap)
  | none (hentry : ∀ e, t.turn? i spurious = some e → e.1 ≠ c)
    (hsame : (t.step i spurious).stageOf size c = t.stageOf size c)
    (hover : i = c.thread → t.HasBegun c → (t.stageOf size c).IsReturned)

section

variable {i : Nat} {spurious : Bool} {r r' : Requester}

theorem getElem?_threads_step (hi : t.threads[i]? = some r)
    (hthreads : (t.step i spurious).threads = t.threads.set i r') :
    (t.step i spurious).threads[i]? = some r' := by
  rw [hthreads, List.getElem?_set_self (List.getElem?_eq_some_iff.mp hi).1]

theorem turn?_eq (hi : t.threads[i]? = some r)
    (hthreads : (t.step i spurious).threads = t.threads.set i r') :
    t.turn? i spurious = (r.turn? r').map (⟨i, r.answers.length⟩, ·) := by
  rw [turn?, hi, getElem?_threads_step hi hthreads]

end

/-- **An action of a team touches each call in one of these ways.** -/
theorem step_touches (ht : t.Sound requests) (hsize : request? requests c = some size) (i : Nat)
    (spurious : Bool) : t.Touches size c i spurious := by
  obtain ⟨hi, heq⟩ | ⟨r, r', h', sizes, hi, hsizes, hr, hm, hheap, hthreads⟩ :=
    step_cases ht i spurious
  · -- there is no such thread
    refine .none (fun e he => ?_) (by rw [heq]) ?_
    · rw [turn?, hi] at he
      cases he
    · rintro rfl ⟨r, hr, -⟩
      rw [hi] at hr
      cases hr
  have hentry := turn?_eq hi hthreads
  by_cases hthread : i = c.thread
  · subst hthread
    rw [request?, hsizes, Option.bind_some] at hsize
    have hbefore : t.stageOf size c = r.stageOf size c.index := by
      rw [stageOf, hi]
      rfl
    have hafter : (t.step c.thread spurious).stageOf size c = r'.stageOf size c.index := by
      rw [stageOf, getElem?_threads_step hi hthreads]
      rfl
    obtain ⟨turn, hindex, hturn?, hturn, hm⟩ | ⟨hturn?, hsame, hover⟩ := hm.stageOf_cases hsize
    · have htakes : t.turn? c.thread spurious = some (c, turn) := by
        rw [hentry, hturn?, ← hindex]
        rfl
      exact .turn rfl htakes (by rwa [hbefore, hafter]) (by rwa [hbefore, hafter, hheap])
    · refine .none (fun e he hcall => ?_) (by rw [hbefore, hafter, hsame]) ?_
      · rw [hentry, Option.map_eq_some_iff] at he
        obtain ⟨turn, hturn, rfl⟩ := he
        rw [hturn? (congrArg CallId.index hcall).symm] at hturn
        cases hturn
      · rintro - ⟨q, hq, hbegun⟩
        rw [hi] at hq
        cases hq
        rw [hbefore]
        exact hover hbegun
  · -- the thread is not the one that makes the call
    refine .none (fun e he hcall => ?_) ?_ (fun h => absurd h hthread)
    · rw [hentry, Option.map_eq_some_iff] at he
      obtain ⟨turn, -, rfl⟩ := he
      exact hthread (congrArg CallId.thread hcall)
    · rw [stageOf, stageOf, hthreads, List.getElem?_set_ne hthread]

/-- The call that takes a turn makes a step. -/
theorem moves_of_turn? (ht : t.Sound requests) (hsize : request? requests c = some size) {i : Nat}
    {spurious : Bool} {turn : Turn} (hentry : t.turn? i spurious = some (c, turn)) :
    Turn.of? (t.stageOf size c) ((t.step i spurious).stageOf size c) = some turn ∧
      Stage.Moves t.heap size spurious (t.stageOf size c) ((t.step i spurious).stageOf size c)
        (t.step i spurious).heap := by
  cases step_touches ht hsize i spurious with
  | none hother => exact absurd rfl (hother _ hentry)
  | turn hi hentry' hturn hm =>
    obtain ⟨-, rfl⟩ := Prod.mk.inj (Option.some.inj (hentry.symm.trans hentry'))
    exact ⟨hturn, hm⟩

/-- A call that has begun stays so. -/
theorem HasBegun.step (ht : t.Sound requests) (hbegun : t.HasBegun c) (i : Nat) (spurious : Bool) :
    (t.step i spurious).HasBegun c := by
  obtain ⟨q, hq, hlt⟩ := hbegun
  obtain ⟨_, heq⟩ | ⟨r, r', h', sizes, hi, hsizes, hr, hm, hheap, hthreads⟩ :=
    step_cases ht i spurious
  · exact heq.symm ▸ ⟨q, hq, hlt⟩
  by_cases hthread : i = c.thread
  · subst hthread
    obtain rfl : r = q := Option.some.inj (hi.symm.trans hq)
    exact ⟨r', getElem?_threads_step hi hthreads, Nat.lt_of_lt_of_le hlt hm.begun_le⟩
  · exact ⟨q, by rw [hthreads, List.getElem?_set_ne hthread, hq], hlt⟩

/-- The cursor moves by what is claimed. -/
theorem step_cursor (ht : t.Sound requests) (i : Nat) (spurious : Bool) :
    (t.step i spurious).heap.cursor =
      t.heap.cursor + ((t.turn? i spurious).map fun e => e.2.bytes).getD 0 := by
  obtain ⟨hi, heq⟩ | ⟨r, r', h', sizes, hi, hsizes, hr, hm, hheap, hthreads⟩ :=
    step_cases ht i spurious
  · rw [heq, turn?, hi]
    rfl
  · rw [hheap, hm.cursor_eq, turn?_eq hi hthreads, Option.map_map]
    rfl

/-! ## Runs -/

theorem turns_cons_same {i : Nat} {spurious : Bool} {turn : Turn}
    (hentry : t.turn? i spurious = some (c, turn)) (schedule : List (Nat × Bool)) :
    t.turns ((i, spurious) :: schedule) c = turn :: (t.step i spurious).turns schedule c := by
  rw [turns, journal, hentry]
  exact turnsOf_cons_same c turn _

theorem turns_cons_other {i : Nat} {spurious : Bool}
    (hentry : ∀ e, t.turn? i spurious = some e → e.1 ≠ c) (schedule : List (Nat × Bool)) :
    t.turns ((i, spurious) :: schedule) c = (t.step i spurious).turns schedule c := by
  rw [turns, journal]
  cases h : t.turn? i spurious with
  | none => rfl
  | some e => exact turnsOf_cons_other (hentry e h) e.2 _

/-- **A run takes each call on a walk.** -/
theorem run_walk (ht : t.Sound requests) (hsize : request? requests c = some size)
    (schedule : List (Nat × Bool)) :
    Walk t.heap.region.size size (t.stageOf size c) (t.turns schedule c)
      ((t.run schedule).stageOf size c) := by
  induction schedule generalizing t with
  | nil => exact .nil _
  | cons s schedule ih =>
    have hrest := ih (step_sound ht s.1 s.2)
    rw [step_region ht] at hrest
    rw [run_cons]
    cases step_touches ht hsize s.1 s.2 with
    | turn hi hentry hturn hm =>
      rw [turns_cons_same hentry]
      exact .cons ⟨_, _, _, ht.heap, rfl, hm, hturn⟩ hrest
    | none hentry hsame hover =>
      rw [turns_cons_other hentry, ← hsame]
      exact hrest

/-- A call takes a turn in every action of its thread, from its beginning to its answer. -/
theorem length_turns (ht : t.Sound requests) (hsize : request? requests c = some size)
    (hbegun : t.HasBegun c) {schedule : List (Nat × Bool)}
    (hnot : ¬ ((t.run schedule).stageOf size c).IsReturned) :
    (t.turns schedule c).length = schedule.countP fun s => s.1 = c.thread := by
  induction schedule generalizing t with
  | nil => rfl
  | cons s schedule ih =>
    have hrest := ih (step_sound ht s.1 s.2) (hbegun.step ht s.1 s.2) hnot
    rw [List.countP_cons]
    cases step_touches ht hsize s.1 s.2 with
    | turn hi hentry hturn hm =>
      rw [turns_cons_same hentry, List.length_cons, hrest, if_pos (decide_eq_true hi)]
    | none hentry hsame hover =>
      -- a call that has returned stays so, and this one does not return
      have hother : s.1 ≠ c.thread := by
        intro hi
        obtain ⟨answer, hreturned⟩ := hover hi hbegun
        have hwalk := run_walk ht hsize (s :: schedule)
        rw [hreturned] at hwalk
        exact hnot ⟨answer, hwalk.of_returned.2⟩
      rw [turns_cons_other hentry, hrest, if_neg (by simpa using hother), Nat.add_zero]

/-- Exchanges fail without cause only where the schedule says so. -/
theorem spurious_le (ht : t.Sound requests) (hsize : request? requests c = some size)
    (schedule : List (Nat × Bool)) :
    (t.turns schedule c).countP Turn.isSpurious ≤
      schedule.countP fun s => s.1 = c.thread ∧ s.2 = true := by
  induction schedule generalizing t with
  | nil => exact Nat.le_refl _
  | cons s schedule ih =>
    have hrest := ih (step_sound ht s.1 s.2)
    rw [List.countP_cons]
    cases step_touches ht hsize s.1 s.2 with
    | @turn turn hi hentry hturn hm =>
      rw [turns_cons_same hentry, List.countP_cons]
      have hhead : (if turn.isSpurious then 1 else 0) ≤
          if decide (s.1 = c.thread ∧ s.2 = true) then 1 else 0 := by
        split
        · next hspurious =>
          exact Nat.le_of_eq (if_pos (decide_eq_true ⟨hi, hm.spurious_eq hturn hspurious⟩)).symm
        · exact Nat.zero_le _
      exact Nat.add_le_add hrest hhead
    | none hentry hsame hover =>
      rw [turns_cons_other hentry]
      exact Nat.le_add_right_of_le hrest

/-- **The cursor is the sum of what was claimed.** -/
theorem run_cursor (ht : t.Sound requests) (schedule : List (Nat × Bool)) :
    (t.run schedule).heap.cursor =
      t.heap.cursor + ((t.journal schedule).map fun e => e.2.bytes).sum := by
  induction schedule generalizing t with
  | nil => rfl
  | cons s schedule ih =>
    rw [run_cons, ih (step_sound ht s.1 s.2), step_cursor ht, journal, List.map_append,
      List.sum_append, ← Nat.add_assoc]
    cases t.turn? s.1 s.2 <;> simp

/-- An entry of the journal of a run is written by one of its actions. -/
theorem exists_of_journal {schedule : List (Nat × Bool)} {front back : List (CallId × Turn)}
    {e : CallId × Turn} (h : t.journal schedule = front ++ e :: back) :
    ∃ before s after, schedule = before ++ s :: after ∧ t.journal before = front ∧
      (t.run before).turn? s.1 s.2 = some e ∧
      ((t.run before).step s.1 s.2).journal after = back := by
  induction schedule generalizing t front with
  | nil => simp [journal] at h
  | cons s schedule ih =>
    rw [journal] at h
    cases hs : t.turn? s.1 s.2 with
    | none =>
      rw [hs] at h
      obtain ⟨before, s', after, rfl, hfront, hentry, hback⟩ := ih h
      exact ⟨s :: before, s', after, rfl, by rw [journal, hs, hfront]; rfl, hentry, hback⟩
    | some e' =>
      rw [hs] at h
      cases front with
      | nil =>
        obtain ⟨rfl, hback⟩ := List.cons.inj h
        exact ⟨[], s, schedule, rfl, rfl, hs, hback⟩
      | cons e'' front =>
        obtain ⟨rfl, hrest⟩ := List.cons.inj h
        obtain ⟨before, s', after, rfl, hfront, hentry, hback⟩ := ih hrest
        exact ⟨s :: before, s', after, rfl, by rw [journal, hs, hfront]; rfl, hentry, hback⟩

end Team

end VmSupport.Heap
