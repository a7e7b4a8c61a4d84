import VmSupport.Proofs.Heap.Lending
import VmSupport.Proofs.Heap.Linearization
import VmSupport.Proofs.Heap.TeamCompletion

/-!
# Writes through handles are isolated

The heaps lend blocks, and both keep them apart, the shared one under every interleaving of its
threads.

**The law** (`writes_isolated`): whoever writes through the handles that a heap granted, and no more
than each block holds, writes into the region only and to no block but that one. What is read from a
block is what was written to it; no request, granted or refused, and no write elsewhere changes it.

Both proofs read the blocks off what a bump heap has handed out (`Bump.Accounts.apart`). For the
shared heap this is the bump heap that serves the calls in the order in which they take effect
(`Team.effects_accounts`).
-/

namespace VmSupport.Heap

/-! ## The bump heap -/

namespace Bump

/-- A bump heap with its history. A call is known by its place in the history. -/
def lender : Lender (History × Bump) Int32 Nat where
  region s := s.2.region
  act s size := (s.1 ++ [(size, (s.2.allocate size).answer)], (s.2.allocate size).heap)
  block? s n := s.1[n]?.bind History.block?

namespace Accounts

variable {history : History} {b : Bump}

/-- The blocks of two calls do not overlap: the later one begins where the earlier one has ended. -/
theorem apart (h : b.Accounts history) {i i' : Nat} {x y : Int32 × Except HeapError Handle}
    (hx : history[i]? = some x) (hy : history[i']? = some y) (hne : i ≠ i') {k j : Block}
    (hk : History.block? x = some k) (hj : History.block? y = some j) : k.Apart j := by
  obtain ⟨hlt, rfl⟩ := List.getElem?_eq_some_iff.mp hx
  obtain ⟨hlt', rfl⟩ := List.getElem?_eq_some_iff.mp hy
  have hpairwise := List.pairwise_iff_getElem.mp (List.pairwise_filterMap.mp h.tiled.apart)
  obtain hbefore | hafter := Nat.lt_or_gt_of_ne hne
  · exact .inl (hpairwise i i' hlt hlt' hbefore k hk j hj)
  · exact .inr (hpairwise i' i hlt' hlt hafter j hj k hk)

/-- The block of a call lies in the region. -/
theorem inside (h : b.Accounts history) {x : Int32 × Except HeapError Handle} (hx : x ∈ history)
    {k : Block} (hk : History.block? x = some k) : k.limit ≤ b.region.size :=
  Nat.le_trans (h.tiled.within k (List.mem_filterMap.mpr ⟨x, hx, hk⟩)).2 h.within

end Accounts

/-- **A bump heap keeps its blocks apart.** -/
theorem lender_keeps : lender.Keeps fun s => s.2.Accounts s.1 where
  act hs size := hs.allocate size
  region_act _ size := Bump.allocate_region _ size
  block?_act := by
    intro s _ size call k hk
    obtain ⟨x, hx, hk⟩ := Option.bind_eq_some_iff.mp hk
    have hlt := (List.getElem?_eq_some_iff.mp hx).1
    simp only [lender, List.getElem?_append_left hlt, hx, Option.bind_some]
    exact hk
  inside := by
    intro s hs call k hk
    obtain ⟨x, hx, hk⟩ := Option.bind_eq_some_iff.mp hk
    exact hs.inside (List.mem_of_getElem? hx) hk
  apart := by
    intro s hs call call' k j hk hj hne
    obtain ⟨x, hx, hk⟩ := Option.bind_eq_some_iff.mp hk
    obtain ⟨y, hy, hj⟩ := Option.bind_eq_some_iff.mp hj
    exact hs.apart hx hy hne hk hj

end Bump

/-! ## The shared heap -/

/-- The results of a thread stay, and new ones come behind them. -/
theorem Requester.Moves.results_prefix {h h' : Shared} {sizes : List Int32} {spurious : Bool}
    {r r' : Requester} (hm : Requester.Moves h sizes spurious r r' h') :
    r.results <+: r'.results := by
  cases hm with
  | idle hs hw => exact List.prefix_rfl
  | begin hs hsize hrest =>
    simp only [results, hs]
    exact List.prefix_rfl
  | act hs hsize hm =>
    cases hm with
    | refuse | countRefusal | countGrant =>
      simp only [results, hs]
      exact List.prefix_append _ _
    | _ => simp only [results, hs, List.prefix_rfl]
  | collect hs =>
    simp only [results, hs]
    exact List.prefix_rfl

namespace Team

variable {requests : List (List Int32)} {t : Team}

/-- A call that has returned keeps its answer. -/
theorem result?_step (ht : t.Sound requests) (i : Nat) (spurious : Bool) {c : CallId}
    {answer : Except HeapError Handle} (h : t.result? c = some answer) :
    (t.step i spurious).result? c = some answer := by
  obtain ⟨_, heq⟩ | ⟨r, r', h', sizes, hi, hsizes, hr, hm, hheap, hthreads⟩ :=
    step_cases ht i spurious
  · rwa [heq]
  obtain ⟨q, hq, hget⟩ := Option.bind_eq_some_iff.mp h
  rw [result?, hthreads]
  by_cases hthread : i = c.thread
  · subst hthread
    obtain rfl : q = r := Option.some.inj (hq.symm.trans hi)
    rw [List.getElem?_set_self (List.getElem?_eq_some_iff.mp hi).1, Option.bind_some]
    obtain ⟨rest, hrest⟩ := hm.results_prefix
    rw [← hrest, List.getElem?_append_left (List.getElem?_eq_some_iff.mp hget).1, hget]
  · rw [List.getElem?_set_ne hthread, hq]
    exact hget

/-- The threads of a shared heap with their requests. The block of a call is there when the call has
returned. -/
def lender (requests : List (List Int32)) : Lender Team (Nat × Bool) CallId where
  region t := t.heap.region
  act t s := t.step s.1 s.2
  block? t c := (request? requests c).bind fun size =>
    (t.result? c).bind fun answer => History.block? (size, answer)

/-- The blocks of calls that take effect in a run follow each other and lie in the region. -/
theorem effects_accounts (r : Region) (requests : List (List Int32))
    (schedule : List (Nat × Bool)) :
    let start := ofRequests (Shared.ofRegion r) requests
    ((start.run schedule).settled r).Accounts
      ((start.effects requests schedule).map fun e => (e.size, e.answer)) := by
  intro start
  have hstart : start.Sound requests := sound_ofRequests (Shared.sound_ofRegion r) requests
  have hserve := serve_effects hstart (Eq.refl r.size) schedule
  have haccounts := (Bump.Accounts.ofRegion r).serve ((start.effects requests schedule).map
    Effect.size)
  rw [← settled_ofRequests r requests, hserve] at haccounts
  exact haccounts

/-- The block of a call is that of a call that took effect. -/
theorem exists_effect_of_block? {r : Region} {schedule : List (Nat × Bool)} {c : CallId}
    {k : Block} :
    let start := ofRequests (Shared.ofRegion r) requests
    (lender requests).block? (start.run schedule) c = some k →
      ∃ e ∈ start.effects requests schedule, e.call = c ∧
        History.block? (e.size, e.answer) = some k := by
  intro start h
  have hstart : start.Sound requests := sound_ofRequests (Shared.sound_ofRegion r) requests
  obtain ⟨size, hsize, h⟩ := Option.bind_eq_some_iff.mp h
  obtain ⟨answer, hanswer, h⟩ := Option.bind_eq_some_iff.mp h
  obtain ⟨e, he, rfl, rfl⟩ := settled_of_result? (run_sound hstart schedule) hanswer
  obtain rfl : size = e.size := Option.some.inj (hsize.symm.trans he.1)
  have hmem := ((settled_run hstart schedule e).mp he).resolve_left
    (not_settled_ofRequests (Shared.ofRegion r) requests e)
  exact ⟨e, hmem, rfl, h⟩

/-- **A shared heap keeps its blocks apart**, in every state that a schedule leads to. -/
theorem lender_keeps (r : Region) (requests : List (List Int32)) :
    (lender requests).Keeps fun t =>
      ∃ schedule, t = (ofRequests (Shared.ofRegion r) requests).run schedule where
  act := by
    rintro t ⟨schedule, rfl⟩ s
    exact ⟨schedule ++ [s], by rw [run_append]; rfl⟩
  region_act := by
    rintro t ⟨schedule, rfl⟩ s
    have hstart := sound_ofRequests (Shared.sound_ofRegion r) requests
    exact step_region (run_sound hstart schedule) s.1 s.2
  block?_act := by
    rintro t ⟨schedule, rfl⟩ s c k hk
    have hstart := sound_ofRequests (Shared.sound_ofRegion r) requests
    obtain ⟨size, hsize, h⟩ := Option.bind_eq_some_iff.mp hk
    obtain ⟨answer, hanswer, h⟩ := Option.bind_eq_some_iff.mp h
    have hkept := result?_step (run_sound hstart schedule) s.1 s.2 hanswer
    simp only [lender, hsize, hkept, Option.bind_some]
    exact h
  inside := by
    rintro t ⟨schedule, rfl⟩ c k hk
    obtain ⟨e, he, -, hk⟩ := exists_effect_of_block? hk
    have hinside := (effects_accounts r requests schedule).inside
      (List.mem_map_of_mem he) hk
    have hstart := sound_ofRequests (Shared.sound_ofRegion r) requests
    show k.limit ≤ ((ofRequests (Shared.ofRegion r) requests).run schedule).heap.region.size
    rw [run_region hstart]
    exact hinside
  apart := by
    rintro t ⟨schedule, rfl⟩ c d k j hk hj hne
    obtain ⟨e, he, rfl, hek⟩ := exists_effect_of_block? hk
    obtain ⟨f, hf, rfl, hfj⟩ := exists_effect_of_block? hj
    obtain ⟨i, hi⟩ := List.mem_iff_getElem?.mp he
    obtain ⟨i', hi'⟩ := List.mem_iff_getElem?.mp hf
    have hplaces : i ≠ i' := by
      rintro rfl
      exact hne (congrArg Effect.call (Option.some.inj (hi.symm.trans hi')))
    refine (effects_accounts r requests schedule).apart ?_ ?_ hplaces hek hfj
    · rw [List.getElem?_map, hi]
      rfl
    · rw [List.getElem?_map, hi']
      rfl

end Team

/-! ## The law -/

/-- **Writes through handles are isolated**, on a bump heap of any capacity that can be reserved and
on a shared one with any threads that make any requests. -/
theorem writes_isolated {host host' : Host} {capacity : Nat} {b : Bump} {h : Shared}
    (hb : Bump.withCapacity host capacity = .ok b) (hh : Shared.withCapacity host' capacity = .ok h)
    (requests : List (List Int32)) :
    Bump.lender.Isolates ([], b) ∧
      (Team.lender requests).Isolates (Team.ofRequests h requests) := by
  obtain ⟨r, -, rfl⟩ := Bump.withCapacity_eq_ok hb
  obtain ⟨r', -, rfl⟩ := Shared.withCapacity_eq_ok hh
  exact ⟨Bump.lender_keeps.isolates (Bump.Accounts.ofRegion r),
    (Team.lender_keeps r' requests).isolates ⟨[], rfl⟩⟩

/-- Ten bytes, with a write to the whole block of the first call, a request that is refused, one for
nothing at the end of the block, and a shorter write to the first block again. -/
theorem writes_isolated_ten :
    ∃ b h, Bump.withCapacity Host.ample 10 = .ok b ∧ Shared.withCapacity Host.ample 10 = .ok h ∧
      (Team.lender [[3], [0, 5]]).Isolates (Team.ofRequests h [[3], [0, 5]]) ∧
      ∃ s' m', Bump.lender.run? ([], b) Contents.zero [.act 5, .write 0 #[1, 2, 3, 4, 5, 6, 7, 8],
          .act 4, .act 0, .write 2 #[], .write 0 #[9]] = some (s', m') ∧
        s'.2.region.read? m' ⟨0⟩ 8 = some [9, 2, 3, 4, 5, 6, 7, 8] := by
  obtain ⟨hbump, hshared⟩ := @writes_isolated Host.ample Host.ample 10 _ _ rfl rfl [[3], [0, 5]]
  refine ⟨_, _, rfl, rfl, hshared, ?_⟩
  obtain ⟨s', m', hrun, hisolated, -⟩ := hbump Contents.zero [.act 5,
    .write 0 #[1, 2, 3, 4, 5, 6, 7, 8], .act 4, .act 0, .write 2 #[], .write 0 #[9]]
    ⟨⟨⟨0, 8⟩, rfl, by decide⟩, ⟨⟨8, 0⟩, rfl, by decide⟩, ⟨⟨0, 8⟩, rfl, by decide⟩, trivial⟩
  have hblock : some (some ⟨0, 8⟩) = some (Bump.lender.block? s' 0) :=
    congrArg (Option.map fun x : (History × Bump) × Contents => Bump.lender.block? x.1 0) hrun
  exact ⟨s', m', hrun, hisolated.readBack (Option.some.inj hblock).symm⟩

end VmSupport.Heap
