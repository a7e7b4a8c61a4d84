import VmSupport.Proofs.Heap.Effects

/-!
# The shared heap is linearizable to the bump heap

A run of threads on a shared heap is explained by an order of its calls: a bump heap of the same
capacity that serves the requests in this order gives each call the answer that the call returned,
and a call that had returned before another one began stands before it.

**The law** (`team_linearizable`): the order in which the calls take effect explains any run of any
threads, wherever the run stops. A call that is in progress then may have taken effect, and others
may have seen it, so the order may hold such calls as well; each of them will return the answer that
the order gives it, however the run goes on. Where no call is in progress the order holds just the
calls that have returned, and the statistics of the two heaps are equal.

The counters are natural numbers here. In words they show the same as long as the requests are fewer
than the words.
-/

namespace VmSupport.Heap

namespace Team

/-- The first call had returned before the second one began. -/
def Precedes (start : Team) (schedule : List (Nat × Bool)) (c d : CallId) : Prop :=
  ∃ before after, schedule = before ++ after ∧
    (∃ answer, (start.run before).result? c = some answer) ∧ ¬ (start.run before).HasBegun d

/-- **An order of calls explains a run**: what threads with these requests did by a schedule is what
a bump heap does that serves the calls in this order. -/
structure Linearizes (requests : List (List Int32)) (start : Team) (schedule : List (Nat × Bool))
    (b : Bump) (order : List Effect) : Prop where
  nodup : (order.map Effect.call).Nodup
  /-- The order holds calls that were made, with what they request. -/
  begun : ∀ e ∈ order,
    (start.run schedule).HasBegun e.call ∧ request? requests e.call = some e.size
  /-- It holds every call that has returned, with the answer that it returned. -/
  returned : ∀ {call answer}, (start.run schedule).result? call = some answer →
    ∃ e ∈ order, e.call = call ∧ e.answer = answer
  /-- A call in it that has not returned will return the answer that it has there. -/
  bound : ∀ e ∈ order, ∀ later answer,
    (start.run (schedule ++ later)).result? e.call = some answer → answer = e.answer
  /-- No call stands behind one that began after it had returned. -/
  inTime : order.Pairwise fun e f => ¬ start.Precedes schedule f.call e.call
  /-- The bump heap answers the same. -/
  served : (b.serve (order.map Effect.size)).1 = order.map fun e => (e.size, e.answer)

variable {requests : List (List Int32)} {t : Team}

/-- Before anything was done, nothing has taken effect. -/
theorem not_settled_ofRequests (h : Shared) (requests : List (List Int32)) (e : Effect) :
    ¬ (ofRequests h requests).Settled requests e := by
  rintro ⟨-, hget⟩
  rw [settledOf, ofRequests, List.getElem?_map, Option.map_map] at hget
  cases hr : requests[e.call.thread]? with
  | none =>
    rw [hr] at hget
    cases hget
  | some sizes =>
    rw [hr] at hget
    cases hget

/-- The calls that take effect respect the time: one that began after another had returned takes
effect after it. -/
theorem effects_inTime (ht : t.Sound requests) (hnone : ∀ e, ¬ t.Settled requests e)
    (schedule : List (Nat × Bool)) :
    (t.effects requests schedule).Pairwise fun e f => ¬ t.Precedes schedule f.call e.call := by
  rw [List.pairwise_iff_forall_sublist]
  rintro e f hsub ⟨before, after, rfl, ⟨answer, hreturned⟩, hnot⟩
  obtain ⟨f', hf', hcall, -⟩ := settled_of_result? (run_sound ht before) hreturned
  have hmem : f' ∈ t.effects requests before :=
    ((settled_run ht before f').mp hf').resolve_left (hnone f')
  have hnodup := (effects_nodup ht (before ++ after)).1
  rw [effects_append, List.map_append, List.nodup_append] at hnodup
  rw [effects_append, List.sublist_append_iff] at hsub
  -- `f` took effect in the first part of the run, and `e` did not
  obtain ⟨front, back, heq, hfront, hback⟩ := hsub
  cases front with
  | nil =>
    rw [List.nil_append] at heq
    subst heq
    have hf : f ∈ (t.run before).effects requests after := hback.subset (by simp)
    exact hnodup.2.2 f'.call (List.mem_map_of_mem hmem) f.call (List.mem_map_of_mem hf) hcall
  | cons x front =>
    obtain rfl : e = x := (List.cons.inj heq).1
    have he : e ∈ t.effects requests before := hfront.subset List.mem_cons_self
    exact hnot ((settled_run ht before e).mpr (.inr he)).hasBegun

/-- Where no call is in progress, what has taken effect has returned. -/
theorem IsQuiet.result?_eq (hq : t.IsQuiet) {e : Effect} (h : t.Settled requests e) :
    t.result? e.call = some e.answer := by
  obtain ⟨-, hget⟩ := h
  cases hr : t.threads[e.call.thread]? with
  | none =>
    rw [settledOf, hr] at hget
    cases hget
  | some r =>
    rw [settledOf, hr] at hget
    have hresults := ((hq r (List.mem_of_getElem? hr)).settled_eq t.heap.region.size).1
    rw [result?, hr, Option.bind_some, ← hresults]
    exact hget

/-- Where no call is in progress, nothing still has to be counted. -/
theorem IsQuiet.settled_eq (hq : t.IsQuiet) (region : Region) :
    t.settled region = t.heap.settled region 0 0 := by
  have hgrants : (t.threads.map Requester.dueGrants).sum = 0 := by
    rw [List.sum_eq_zero_iff_forall_eq_nat]
    intro n hn
    obtain ⟨r, hr, rfl⟩ := List.mem_map.mp hn
    exact ((hq r hr).settled_eq t.heap.region.size).2.1
  have hrefusals : (t.threads.map (Requester.dueRefusals t.heap.region.size)).sum = 0 := by
    rw [List.sum_eq_zero_iff_forall_eq_nat]
    intro n hn
    obtain ⟨r, hr, rfl⟩ := List.mem_map.mp hn
    exact ((hq r hr).settled_eq t.heap.region.size).2.2
  rw [settled, hgrants, hrefusals]

/-- Where no call is in progress, the heap that the team stands for has the statistics of its
cells. -/
theorem IsQuiet.stats_eq (hq : t.IsQuiet) (ht : t.heap.Sound) {region : Region}
    (hregion : region.size = t.heap.region.size) :
    t.heap.stats = .ok (t.settled region).stats := by
  rw [hq.settled_eq, Shared.stats, Shared.remaining, Fault.subtractWords_of_le ht.2, Bump.stats,
    Bump.remaining]
  simp only [Shared.settled, hregion]
  rfl

theorem isQuiet_ofRequests (h : Shared) (requests : List (List Int32)) :
    (ofRequests h requests).IsQuiet := by
  intro r hr
  obtain ⟨sizes, _, rfl⟩ := List.mem_map.mp hr
  exact .inl rfl

/-- Before anything was done, a team stands for the fresh heap. -/
theorem settled_ofRequests (r : Region) (requests : List (List Int32)) :
    (ofRequests (Shared.ofRegion r) requests).settled r = Bump.ofRegion r :=
  (isQuiet_ofRequests (Shared.ofRegion r) requests).settled_eq r

end Team

open Team in
/-- **The shared heap is linearizable to the bump heap**: for every capacity that can be reserved,
any threads with any requests, and every schedule of their steps. No thread ever faults. -/
theorem team_linearizable {host host' : Host} {capacity : Nat} {h : Shared} {b : Bump}
    (hh : Shared.withCapacity host capacity = .ok h) (hb : Bump.withCapacity host' capacity = .ok b)
    (requests : List (List Int32)) (schedule : List (Nat × Bool)) :
    let start := Team.ofRequests h requests
    let final := start.run schedule
    ∃ order, Linearizes requests start schedule b order ∧
      (∀ r ∈ final.threads, ∀ fault, r.stage ≠ some (.faulted fault)) ∧
      (final.IsQuiet →
        (∀ e ∈ order, final.result? e.call = some e.answer) ∧
        final.heap.stats = .ok (b.serve (order.map Effect.size)).2.stats) := by
  obtain ⟨r, hr, rfl⟩ := Shared.withCapacity_eq_ok hh
  obtain ⟨r', hr', rfl⟩ := Bump.withCapacity_eq_ok hb
  intro start final
  have hstart : start.Sound requests := sound_ofRequests (Shared.sound_ofRegion r) requests
  have hfinal : final.Sound requests := run_sound hstart schedule
  have hregion : r'.size = start.heap.region.size := hr'.trans hr.symm
  have hnone := not_settled_ofRequests (Shared.ofRegion r) requests
  have hmem : ∀ e, final.Settled requests e ↔ e ∈ start.effects requests schedule := by
    intro e
    rw [settled_run hstart schedule e, or_iff_right (hnone e)]
  have hempty : start.settled r' = Bump.ofRegion r' :=
    (isQuiet_ofRequests (Shared.ofRegion r) requests).settled_eq r'
  have hserve := serve_effects hstart hregion schedule
  rw [hempty] at hserve
  refine ⟨start.effects requests schedule, ?_, ?_, fun hquiet => ⟨?_, ?_⟩⟩
  · exact
      { nodup := (effects_nodup hstart schedule).1
        begun := fun e he => ⟨((hmem e).mpr he).hasBegun, ((hmem e).mpr he).1⟩
        returned := by
          intro call answer hresult
          obtain ⟨e, he, hcall, hanswer⟩ := settled_of_result? hfinal hresult
          exact ⟨e, (hmem e).mp he, hcall, hanswer⟩
        bound := by
          intro e he later answer hresult
          have hlater := run_sound hstart (schedule ++ later)
          obtain ⟨e', he', hcall, rfl⟩ := settled_of_result? hlater hresult
          -- what takes effect in a run still has in every longer one
          have hkept : (start.run (schedule ++ later)).Settled requests e := by
            rw [settled_run hstart, effects_append]
            exact .inr (List.mem_append_left _ he)
          rw [he'.unique hkept hcall]
        inTime := effects_inTime hstart hnone schedule
        served := congrArg Prod.fst hserve }
  · intro q hq fault hfault
    obtain ⟨i, hi⟩ := List.mem_iff_getElem?.mp hq
    obtain ⟨sizes, _, hsound⟩ := hfinal.threads hi
    obtain ⟨_, _, hstage⟩ := hsound.stage_sound hfault
    exact hstage
  · exact fun e he => hquiet.result?_eq ((hmem e).mpr he)
  · rw [hserve]
    exact hquiet.stats_eq hfinal.heap (by rw [run_region hstart]; exact hregion)

open Team in
/-- Two threads on eight bytes: the first reads the cursor, the second is granted four bytes, and
the first then tries its exchange in vain and is refused. -/
theorem team_linearizable_contended :
    ∃ h b, Shared.withCapacity Host.ample 8 = .ok h ∧ Bump.withCapacity Host.ample 8 = .ok b ∧
      ∃ order, Linearizes [[5], [3, -1]] (Team.ofRequests h [[5], [3, -1]])
        ([(0, false), (0, false), (0, false), (0, false)] ++ List.replicate 6 (1, false) ++
          [(0, false), (0, false), (0, false)]) b order := by
  refine ⟨_, _, rfl, rfl, ?_⟩
  obtain ⟨order, horder, -⟩ := @team_linearizable Host.ample Host.ample 8 _ _ rfl rfl [[5], [3, -1]]
    ([(0, false), (0, false), (0, false), (0, false)] ++ List.replicate 6 (1, false) ++
      [(0, false), (0, false), (0, false)])
  exact ⟨order, horder⟩

end VmSupport.Heap
