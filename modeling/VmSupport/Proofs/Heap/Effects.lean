import VmSupport.Proofs.Heap.BumpRun
import VmSupport.Proofs.Heap.TeamRun

/-!
# The moment at which a call on the shared heap takes effect

Threads on a shared heap may retry, and may judge by a cursor value that is stale by the time they
judge. Still each call has one moment at which its answer is settled.

**The moment.** A call that will be granted is settled by the exchange that moves the cursor. A call
that will be refused for lack of room is settled earlier than it knows: by the reading of the cursor
value that leaves too little, and not by the look at it. From then on nothing can change its answer,
so it does not matter that the value is stale when it is looked at. `Stage.verdict?` says at which
stages an answer is settled, and which.

**The counters** lag behind: a call is counted after it is settled. `Shared.settled` is the bump
heap that the shared cells stand for, with the calls added that are settled and not yet counted. A
step that settles nothing leaves this heap as it is, and a step that settles a call serves its
request there (`Stage.Moves.settles`). So the calls, in the order in which a run settles them, are
served by the bump heap that the team stands for (`Team.serve_effects`).
-/

namespace VmSupport.Heap

/-! ## When an answer is settled -/

namespace Stage

/-- The answer that a request is bound to give, once nothing can change it any more. -/
def verdict? (capacity : Nat) : Stage → Option (Except HeapError Handle)
  | .check _ rounded current =>
    if capacity - current < rounded then
      some (.error (.outOfMemory rounded (capacity - current)))
    else
      none
  | .countRefusal rounded remaining => some (.error (.outOfMemory rounded remaining))
  | .countGrant _ current => some (.ok ⟨current⟩)
  | .returned answer => some answer
  | _ => none

/-- The number of grants that are settled here and still have to be counted. -/
def dueGrants : Stage → Nat
  | .countGrant .. => 1
  | _ => 0

/-- The number of refusals that are settled here and still have to be counted. -/
def dueRefusals (capacity : Nat) : Stage → Nat
  | .check _ rounded current => if capacity - current < rounded then 1 else 0
  | .countRefusal .. => 1
  | _ => 0

end Stage

/-- The bump heap over a region that the shared cells stand for, when so many grants and refusals
are settled that still have to be counted. -/
def Shared.settled (h : Shared) (r : Region) (grants refusals : Nat) : Bump :=
  { region := r, cursor := h.cursor, allocations := h.allocations + grants
    failedAllocations := h.failedAllocations + refusals }

namespace Stage

section

variable {h h' : Shared} {size : Int32} {spurious : Bool} {stage stage' : Stage} {r : Region}

/-- Reading the cursor settles a request that does not fit behind it, and no other. -/
theorem check_settles (hpos : 0 ≤ size) (hr : r.size = h.region.size) (grants refusals : Nat) :
    let read := Stage.check size (roundUp size) h.cursor
    let before := h.settled r grants refusals
    let after := h.settled r grants (refusals + read.dueRefusals h.region.size)
    (read.verdict? h.region.size = none ∧ after = before) ∨
    (read.verdict? h.region.size = some (before.allocate size).answer ∧
      after = (before.allocate size).heap) := by
  intro read before after
  have hremaining : before.remaining = h.region.size - h.cursor := by
    rw [← hr]
    rfl
  by_cases hfull : h.region.size - h.cursor < roundUp size
  · right
    rw [before.allocate_of_full hpos (hremaining.symm ▸ hfull), Bump.refuse, hremaining]
    simp only [read, after, before, verdict?, dueRefusals, if_pos hfull, true_and]
    rfl
  · left
    simp only [read, after, before, verdict?, dueRefusals, if_neg hfull, Nat.add_zero, true_and]

/-- **A step settles nothing, or it serves the request.** In the first case the heap that the shared
cells stand for stays as it is, whatever the other threads (`grants`, `refusals`) still have to
count. -/
theorem Moves.settles (hm : Moves h size spurious stage stage' h') (hr : r.size = h.region.size)
    (grants refusals : Nat) :
    let before := h.settled r (grants + stage.dueGrants)
      (refusals + stage.dueRefusals h.region.size)
    let after := h'.settled r (grants + stage'.dueGrants)
      (refusals + stage'.dueRefusals h.region.size)
    (stage'.verdict? h.region.size = stage.verdict? h.region.size ∧ after = before) ∨
    (stage.verdict? h.region.size = none ∧
      stage'.verdict? h.region.size = some (before.allocate size).answer ∧
      after = (before.allocate size).heap) := by
  intro before after
  cases hm with
  | refuse hneg =>
    right
    rw [before.allocate_of_neg hneg]
    exact ⟨rfl, rfl, rfl⟩
  | round hpos => exact .inl ⟨rfl, rfl⟩
  | load hpos =>
    exact (check_settles hpos hr grants refusals).imp_right fun h => ⟨rfl, h⟩
  | fits hpos hle hfits =>
    have hroom : ¬ h.region.size - _ < roundUp size := Nat.not_lt.mpr (Nat.le_sub_of_add_le' hfits)
    left
    simp only [after, before, verdict?, dueGrants, dueRefusals, if_neg hroom, true_and]
  | full hpos hle hfull =>
    left
    simp only [after, before, verdict?, dueGrants, dueRefusals, if_pos hfull, true_and]
  | claim hpos hfits =>
    have hroom : roundUp size ≤ before.remaining := by
      show roundUp size ≤ r.size - h.cursor
      omega
    right
    rw [before.allocate_of_fits hpos hroom]
    exact ⟨rfl, rfl, rfl⟩
  | retry hpos hle hcause =>
    exact (check_settles hpos hr grants refusals).imp_right fun h => ⟨rfl, h⟩
  | countRefusal hpos =>
    left
    simp only [after, before, verdict?, dueGrants, dueRefusals, Shared.settled, true_and,
      Bump.mk.injEq]
    omega
  | countGrant hpos hle =>
    left
    simp only [after, before, verdict?, dueGrants, dueRefusals, Shared.settled, true_and, and_true,
      Bump.mk.injEq]
    omega
  | rest answer => exact .inl ⟨rfl, rfl⟩

end

end Stage

/-! ## Threads -/

namespace Requester

/-- The answers of a thread that are settled, those of finished calls first. -/
def settled (capacity : Nat) (r : Requester) : List (Except HeapError Handle) :=
  r.answers ++ (r.stage.bind (Stage.verdict? capacity)).toList

/-- The number of grants of a thread that still have to be counted. -/
def dueGrants (r : Requester) : Nat :=
  (r.stage.map Stage.dueGrants).getD 0

/-- The number of refusals of a thread that still have to be counted. -/
def dueRefusals (capacity : Nat) (r : Requester) : Nat :=
  (r.stage.map (Stage.dueRefusals capacity)).getD 0

/-- What a call has returned is settled. -/
theorem settled_of_results {r : Requester} {k : Nat} {answer : Except HeapError Handle}
    (capacity : Nat) (h : r.results[k]? = some answer) :
    (r.settled capacity)[k]? = some answer := by
  cases hs : r.stage with
  | none => simpa [settled, results, hs] using h
  | some stage =>
    cases stage with
    | returned a => simpa [settled, results, hs, Stage.verdict?] using h
    | _ =>
      simp only [results, hs] at h
      have hk : k < r.answers.length := (List.getElem?_eq_some_iff.mp h).1
      rw [settled, List.getElem?_append_left hk, h]

/-- Only calls that have begun are settled. -/
theorem length_settled_le (capacity : Nat) (r : Requester) :
    (r.settled capacity).length ≤ r.begun := by
  cases hs : r.stage with
  | none => simp [settled, begun, hs]
  | some stage =>
    simp only [settled, begun, hs, List.length_append, Option.bind_some, Option.isSome_some,
      ↓reduceIte]
    cases stage.verdict? capacity <;> simp

/-- A thread that is not in the middle of a call has returned what is settled, and owes no count. -/
theorem IsQuiet.settled_eq {r : Requester} (h : r.IsQuiet) (capacity : Nat) :
    r.settled capacity = r.results ∧ r.dueGrants = 0 ∧ r.dueRefusals capacity = 0 := by
  rcases h with hs | ⟨answer, hs⟩
  · simp [settled, results, dueGrants, dueRefusals, hs]
  · simp [settled, results, dueGrants, dueRefusals, hs, Stage.verdict?, Stage.dueGrants,
      Stage.dueRefusals]

variable {h h' : Shared} {sizes : List Int32} {spurious : Bool} {r r' : Requester} {region : Region}

/-- **An action of a thread settles nothing, or it serves the first request that is not yet
settled.** -/
theorem Moves.settles (hm : Moves h sizes spurious r r' h') (hr : region.size = h.region.size)
    (grants refusals : Nat) :
    let before := h.settled region (grants + r.dueGrants) (refusals + r.dueRefusals h.region.size)
    let after := h'.settled region (grants + r'.dueGrants) (refusals + r'.dueRefusals h.region.size)
    (r'.settled h.region.size = r.settled h.region.size ∧ after = before) ∨
    ∃ size, sizes[(r.settled h.region.size).length]? = some size ∧
      r'.settled h.region.size = r.settled h.region.size ++ [(before.allocate size).answer] ∧
      after = (before.allocate size).heap := by
  intro before after
  cases hm with
  | idle hs hw => exact .inl ⟨rfl, rfl⟩
  | begin hs hsize hrest =>
    left
    simp [settled, dueGrants, dueRefusals, after, before, hs, Stage.verdict?, Stage.dueGrants,
      Stage.dueRefusals]
  | @act size stage stage' _ hs hsize hm =>
    have hstage := hm.settles hr grants refusals
    simp only [settled, dueGrants, dueRefusals, after, before, hs, Option.map_some,
      Option.getD_some, Option.bind_some] at hstage ⊢
    rcases hstage with ⟨hverdict, hheap⟩ | ⟨hnone, hverdict, hheap⟩
    · exact .inl ⟨by rw [hverdict], hheap⟩
    · right
      refine ⟨size, ?_, ?_, hheap⟩
      · rw [hnone]
        simpa using hsize
      · rw [hnone, hverdict]
        simp
  | collect hs =>
    left
    simp [settled, dueGrants, dueRefusals, after, before, hs, Stage.verdict?, Stage.dueGrants,
      Stage.dueRefusals]

end Requester

/-! ## Teams -/

/-- A call that has taken effect: what it requested, and the answer that is settled for it. -/
structure Effect where
  call : CallId
  size : Int32
  answer : Except HeapError Handle

namespace Team

/-- The bump heap over a region that a team stands for. -/
def settled (t : Team) (r : Region) : Bump :=
  t.heap.settled r (t.threads.map Requester.dueGrants).sum
    (t.threads.map (Requester.dueRefusals t.heap.region.size)).sum

/-- The answers of the thread with this number that are settled. -/
def settledOf (t : Team) (i : Nat) : List (Except HeapError Handle) :=
  (t.threads[i]?.map (Requester.settled t.heap.region.size)).getD []

/-- The call has taken effect. -/
def Settled (requests : List (List Int32)) (t : Team) (e : Effect) : Prop :=
  request? requests e.call = some e.size ∧
    (t.settledOf e.call.thread)[e.call.index]? = some e.answer

/-- The call that takes effect by an action of the thread with this number, if one does: the first
of its calls that was not settled before. -/
def effect? (requests : List (List Int32)) (t : Team) (i : Nat) (spurious : Bool) : Option Effect :=
  let call : CallId := ⟨i, (t.settledOf i).length⟩
  match request? requests call, ((t.step i spurious).settledOf i)[call.index]? with
  | some size, some answer => some ⟨call, size, answer⟩
  | _, _ => none

/-- The calls in the order in which a schedule makes them take effect. -/
def effects (requests : List (List Int32)) (t : Team) : List (Nat × Bool) → List Effect
  | [] => []
  | s :: schedule =>
    (t.effect? requests s.1 s.2).toList ++ (t.step s.1 s.2).effects requests schedule

end Team

namespace Team

variable {requests : List (List Int32)} {t : Team} {region : Region}

/-- **An action of a team settles nothing, or it serves the first request of its thread that is not
settled.** -/
theorem step_settles (ht : t.Sound requests) (hregion : region.size = t.heap.region.size) (i : Nat)
    (spurious : Bool) :
    ((∀ j, (t.step i spurious).settledOf j = t.settledOf j) ∧
      (t.step i spurious).settled region = t.settled region) ∨
    ∃ size, request? requests ⟨i, (t.settledOf i).length⟩ = some size ∧
      (t.step i spurious).settledOf i =
        t.settledOf i ++ [((t.settled region).allocate size).answer] ∧
      (∀ j, j ≠ i → (t.step i spurious).settledOf j = t.settledOf j) ∧
      (t.step i spurious).settled region = ((t.settled region).allocate size).heap := by
  obtain ⟨_, heq⟩ | ⟨r, r', h', sizes, hi, hsizes, hr, hm, hheap, hthreads⟩ :=
    step_cases ht i spurious
  · rw [heq]
    exact .inl ⟨fun _ => rfl, rfl⟩
  have hreg : (t.step i spurious).heap.region = t.heap.region := step_region ht i spurious
  have hold : t.settledOf i = r.settled t.heap.region.size := by
    rw [settledOf, hi]
    rfl
  have hnew : (t.step i spurious).settledOf i = r'.settled t.heap.region.size := by
    rw [settledOf, hreg, hthreads, List.getElem?_set_self (List.getElem?_eq_some_iff.mp hi).1]
    rfl
  have hother : ∀ j, j ≠ i → (t.step i spurious).settledOf j = t.settledOf j := by
    intro j hne
    rw [settledOf, settledOf, hreg, hthreads, List.getElem?_set_ne (Ne.symm hne)]
  -- the heap that the team stands for, with this thread's counts apart from those of the others
  obtain ⟨grants, hgrants, hgrants'⟩ := exists_sum_map_set Requester.dueGrants hi
  obtain ⟨refusals, hrefusals, hrefusals'⟩ :=
    exists_sum_map_set (Requester.dueRefusals t.heap.region.size) hi
  have hbefore : t.settled region = t.heap.settled region (grants + r.dueGrants)
      (refusals + r.dueRefusals t.heap.region.size) := by
    rw [settled, hgrants, hrefusals]
  have hafter : (t.step i spurious).settled region = h'.settled region (grants + r'.dueGrants)
      (refusals + r'.dueRefusals t.heap.region.size) := by
    rw [settled, hreg, hheap, hthreads, hgrants', hrefusals']
  rw [hbefore, hafter, hold, hnew]
  rcases hm.settles hregion grants refusals with ⟨hkeep, hsettled⟩ | ⟨size, hsize, hone, hsettled⟩
  · refine .inl ⟨fun j => ?_, hsettled⟩
    by_cases hj : j = i
    · rw [hj, hold, hnew, hkeep]
    · exact hother j hj
  · refine .inr ⟨size, ?_, hone, hother, hsettled⟩
    rw [request?, hsizes]
    exact hsize

/-- A call takes effect in one way. -/
theorem Settled.unique {e e' : Effect} (h : t.Settled requests e) (h' : t.Settled requests e')
    (hcall : e.call = e'.call) : e = e' := by
  obtain ⟨hsize, hanswer⟩ := h
  obtain ⟨hsize', hanswer'⟩ := h'
  rw [hcall] at hsize hanswer
  have hs := Option.some.inj (hsize.symm.trans hsize')
  have ha := Option.some.inj (hanswer.symm.trans hanswer')
  cases e
  cases e'
  simp only at hcall hs ha
  rw [hcall, hs, ha]

/-- **An action of a team makes no call take effect, or one that had not.** In the first case the
heap that the team stands for stays as it is; in the second it serves the request of that call. -/
theorem effect?_cases (ht : t.Sound requests) (hregion : region.size = t.heap.region.size) (i : Nat)
    (spurious : Bool) :
    (t.effect? requests i spurious = none ∧
      (∀ e, (t.step i spurious).Settled requests e ↔ t.Settled requests e) ∧
      (t.step i spurious).settled region = t.settled region) ∨
    ∃ e, t.effect? requests i spurious = some e ∧
      (∀ e', t.Settled requests e' → e'.call ≠ e.call) ∧
      (∀ e', (t.step i spurious).Settled requests e' ↔ t.Settled requests e' ∨ e' = e) ∧
      e.answer = ((t.settled region).allocate e.size).answer ∧
      (t.step i spurious).settled region = ((t.settled region).allocate e.size).heap := by
  rcases step_settles ht hregion i spurious with
    ⟨hkeep, hheap⟩ | ⟨size, hsize, hone, hother, hheap⟩
  · left
    refine ⟨?_, fun e => by rw [Settled, Settled, hkeep], hheap⟩
    rw [effect?, hkeep, List.getElem?_eq_none (Nat.le_refl _)]
    split
    · contradiction
    · rfl
  · right
    let e : Effect :=
      ⟨⟨i, (t.settledOf i).length⟩, size, ((t.settled region).allocate size).answer⟩
    have hfresh : ∀ e', t.Settled requests e' → e'.call ≠ e.call := by
      rintro e' ⟨-, hget⟩ hcall
      rw [hcall, List.getElem?_eq_none (Nat.le_refl _)] at hget
      cases hget
    have hsettled : (t.step i spurious).Settled requests e :=
      ⟨hsize, by rw [hone, List.getElem?_concat_length]⟩
    refine ⟨e, ?_, hfresh, fun e' => ⟨fun h => ?_, ?_⟩, rfl, hheap⟩
    · rw [effect?, hone, hsize, List.getElem?_concat_length]
    · by_cases hthread : e'.call.thread = i
      · obtain ⟨hreq, hget⟩ := id h
        rw [hthread, hone, List.getElem?_append] at hget
        split at hget
        · exact .inl ⟨hreq, hthread ▸ hget⟩
        · -- the only call of the thread past those settled before is the new one
          rename_i hge
          have hlen := (List.getElem?_eq_some_iff.mp hget).1
          rw [List.length_singleton] at hlen
          have hindex : e'.call.index = (t.settledOf i).length := by omega
          exact .inr (Settled.unique h hsettled (CallId.ext hthread hindex))
      · exact .inl ⟨h.1, hother _ hthread ▸ h.2⟩
    · rintro (⟨hreq, hget⟩ | rfl)
      · refine ⟨hreq, ?_⟩
        by_cases hthread : e'.call.thread = i
        · rw [hthread] at hget ⊢
          rw [hone, List.getElem?_append_left (List.getElem?_eq_some_iff.mp hget).1, hget]
        · rw [hother _ hthread, hget]
      · exact hsettled

/-! ## Runs -/

variable {schedule : List (Nat × Bool)}

/-- **What has taken effect after a run** is what had before and what the run made. -/
theorem settled_run (ht : t.Sound requests) (schedule : List (Nat × Bool)) (e : Effect) :
    (t.run schedule).Settled requests e ↔
      t.Settled requests e ∨ e ∈ t.effects requests schedule := by
  induction schedule generalizing t with
  | nil => simp [run, effects]
  | cons s schedule ih =>
    rw [run_cons, ih (step_sound ht s.1 s.2), effects, List.mem_append]
    rcases effect?_cases ht (Eq.refl t.heap.region.size) s.1 s.2 with
      ⟨hnone, hiff, -⟩ | ⟨e', hsome, -, hiff, -⟩
    · rw [hnone, hiff]
      simp
    · rw [hsome, hiff]
      simp [or_assoc]

/-- No call takes effect twice. -/
theorem effects_nodup (ht : t.Sound requests) (schedule : List (Nat × Bool)) :
    ((t.effects requests schedule).map Effect.call).Nodup ∧
      ∀ e e', t.Settled requests e → e' ∈ t.effects requests schedule → e.call ≠ e'.call := by
  induction schedule generalizing t with
  | nil => simp [effects]
  | cons s schedule ih =>
    obtain ⟨hnodup, hfresh⟩ := ih (step_sound ht s.1 s.2)
    rcases effect?_cases ht (Eq.refl t.heap.region.size) s.1 s.2 with
      ⟨hnone, hiff, -⟩ | ⟨e', hsome, hnew, hiff, -⟩
    · rw [effects, hnone]
      exact ⟨hnodup, fun e e' he => hfresh e e' ((hiff e).mpr he)⟩
    · rw [effects, hsome]
      refine ⟨List.nodup_cons.mpr ⟨?_, hnodup⟩, fun e f he hf => ?_⟩
      · intro hmem
        obtain ⟨f, hf, hcall⟩ := List.mem_map.mp hmem
        exact hfresh e' f ((hiff e').mpr (.inr rfl)) hf hcall.symm
      · rcases List.mem_cons.mp hf with rfl | hf
        · exact hnew e he
        · exact hfresh e f ((hiff e).mpr (.inl he)) hf

/-- A longer run goes on from the effects of a shorter one. -/
theorem effects_append (t : Team) (before after : List (Nat × Bool)) :
    t.effects requests (before ++ after) =
      t.effects requests before ++ (t.run before).effects requests after := by
  induction before generalizing t with
  | nil => rfl
  | cons s before ih =>
    rw [List.cons_append, effects, ih, effects, List.append_assoc]
    rfl

/-- **The effects of a run are served by the bump heap that the team stands for**, which becomes the
heap that the team stands for after the run. -/
theorem serve_effects (ht : t.Sound requests) (hregion : region.size = t.heap.region.size)
    (schedule : List (Nat × Bool)) :
    (t.settled region).serve ((t.effects requests schedule).map Effect.size) =
      ((t.effects requests schedule).map fun e => (e.size, e.answer),
        (t.run schedule).settled region) := by
  induction schedule generalizing t with
  | nil => rfl
  | cons s schedule ih =>
    have hnext := ih (step_sound ht s.1 s.2) (by rw [step_region ht]; exact hregion)
    rcases effect?_cases ht hregion s.1 s.2 with
      ⟨hnone, -, hheap⟩ | ⟨e, hsome, -, -, hanswer, hheap⟩
    · rw [hheap] at hnext
      rw [effects, hnone, run_cons]
      exact hnext
    · rw [hheap] at hnext
      rw [effects, hsome, run_cons]
      show (t.settled region).serve (e.size :: (((t.step s.1 s.2).effects requests schedule).map
        Effect.size)) = ((e.size, e.answer) :: (((t.step s.1 s.2).effects requests schedule).map
        fun e => (e.size, e.answer)), _)
      rw [Bump.serve_cons, hnext, hanswer]

/-- What a call has returned has taken effect. -/
theorem settled_of_result? (ht : t.Sound requests) {c : CallId} {answer : Except HeapError Handle}
    (h : t.result? c = some answer) :
    ∃ e, t.Settled requests e ∧ e.call = c ∧ e.answer = answer := by
  obtain ⟨r, hr, hget⟩ := Option.bind_eq_some_iff.mp h
  have hsettled : (t.settledOf c.thread)[c.index]? = some answer := by
    rw [settledOf, hr]
    exact Requester.settled_of_results _ hget
  obtain ⟨sizes, hsizes, hsound⟩ := ht.threads hr
  have hlt : c.index < r.begun := by
    have hlen := r.length_settled_le t.heap.region.size
    have hindex := (List.getElem?_eq_some_iff.mp (Requester.settled_of_results
      t.heap.region.size hget)).1
    omega
  have hsize : c.index < sizes.length := Nat.lt_of_lt_of_le hlt hsound.begun_le
  exact ⟨⟨c, sizes[c.index], answer⟩, ⟨by simp [request?, hsizes, hsize], hsettled⟩, rfl, rfl⟩

/-- Only a call that has begun has taken effect. -/
theorem Settled.hasBegun {e : Effect} (h : t.Settled requests e) : t.HasBegun e.call := by
  obtain ⟨-, hget⟩ := h
  cases hr : t.threads[e.call.thread]? with
  | none =>
    rw [settledOf, hr] at hget
    cases hget
  | some r =>
    rw [settledOf, hr] at hget
    refine ⟨r, hr, Nat.lt_of_lt_of_le ?_ (r.length_settled_le t.heap.region.size)⟩
    exact (List.getElem?_eq_some_iff.mp hget).1

end Team

end VmSupport.Heap
