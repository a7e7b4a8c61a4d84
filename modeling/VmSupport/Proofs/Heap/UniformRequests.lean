import Mathlib.Data.List.Basic
import VmSupport.Proofs.Heap.Alone
import VmSupport.Proofs.Heap.Linearization
import VmSupport.Proofs.Heap.TeamCompletion

/-!
# Threads that all request the same size

Which thread is granted which block depends on the schedule. If all requests are for one size, this
is all that depends on it: together the threads are granted the same blocks, and are refused as
often and for the same cause, however they interleave.

**The law** (`uniform_outcome`): a team whose requests are all for one size can always be brought to
its end, and there it has come to what its requests and the capacity say. A negative size is refused
each time. Requests for nothing are granted the beginning of the region each time. Other requests
are granted the first multiples of the rounded size, as many as there are requests or as fit, each
multiple once; the rest is refused with what is then left.

The proof follows the answers that are settled (`Team.settledAnswers`), whoever they belong to. An
action of a thread settles nothing, or what the bump heap answers next. As the requests are alike,
it does not matter whose turn it is (`Team.run_uniform`), and what the bump heap answers to like
requests is computed once (`Bump.serve_replicate`).
-/

namespace VmSupport.Heap

/-! ## Like requests to a bump heap -/

namespace Bump

variable {b : Bump} {size : Int32}

/-- Requests of a negative size are refused, and change nothing. -/
theorem serve_replicate_of_neg (b : Bump) (hneg : size < 0) (n : Nat) :
    b.serve (List.replicate n size) = (List.replicate n (size, .error (.invalidSize size)), b) := by
  induction n with
  | zero => rfl
  | succ n ih =>
    rw [List.replicate_succ, serve_cons, b.allocate_of_neg hneg]
    simp only [ih, List.replicate_succ]

/-- Requests that do not fit are counted and refused, and the next ones fit no better. -/
theorem serve_replicate_of_full (hpos : 0 ≤ size) (hfull : b.remaining < roundUp size) (n : Nat) :
    b.serve (List.replicate n size) =
      (List.replicate n (size, .error (.outOfMemory (roundUp size) b.remaining)),
        { b with failedAllocations := b.failedAllocations + n }) := by
  induction n generalizing b with
  | zero => rfl
  | succ n ih =>
    let next := (b.refuse (roundUp size)).heap
    have hnext := ih (b := next) hfull
    rw [List.replicate_succ, serve_cons, b.allocate_of_full hpos hfull, hnext,
      List.replicate_succ, Nat.add_comm n, ← Nat.add_assoc]
    rfl

/-- Requests that all fit are granted one behind the other. -/
theorem serve_replicate_of_fits (hpos : 0 ≤ size) {n : Nat}
    (hfits : b.cursor + n * roundUp size ≤ b.region.size) :
    b.serve (List.replicate n size) =
      ((List.range n).map fun i => (size, .ok ⟨b.cursor + i * roundUp size⟩),
        { b with cursor := b.cursor + n * roundUp size, allocations := b.allocations + n }) := by
  induction n with
  | zero => simp [serve]
  | succ n ih =>
    rw [Nat.succ_mul] at hfits
    let next : Bump := { b with
      cursor := b.cursor + n * roundUp size, allocations := b.allocations + n }
    have hroom : roundUp size ≤ next.remaining :=
      show roundUp size ≤ b.region.size - (b.cursor + n * roundUp size) by omega
    rw [List.replicate_succ', serve_append, ih (by omega), serve_cons,
      next.allocate_of_fits hpos hroom, List.range_succ, List.map_append, Nat.succ_mul,
      ← Nat.add_assoc]
    rfl

/-- The number of like requests that a fresh heap grants. Requests for nothing are all granted. -/
def grants (capacity bytes n : Nat) : Nat :=
  if bytes = 0 then n else min n (capacity / bytes)

theorem grants_le (capacity bytes n : Nat) : grants capacity bytes n ≤ n := by
  unfold grants
  split
  · exact Nat.le_refl n
  · exact Nat.min_le_left _ _

theorem grants_mul_le (capacity bytes n : Nat) : grants capacity bytes n * bytes ≤ capacity := by
  unfold grants
  split
  · next hzero =>
    rw [hzero, Nat.mul_zero]
    exact Nat.zero_le _
  · exact Nat.le_trans (Nat.mul_le_mul_right _ (Nat.min_le_right _ _)) (Nat.div_mul_le_self _ _)

/-- Where not all requests are granted, the next one would not fit. -/
theorem full_of_grants_lt {capacity bytes n : Nat} (h : grants capacity bytes n < n) :
    capacity - grants capacity bytes n * bytes < bytes := by
  unfold grants at h ⊢
  split at h
  · exact absurd h (Nat.lt_irrefl n)
  · next hzero =>
    have hquotient : min n (capacity / bytes) = capacity / bytes := by omega
    rw [if_neg hzero, hquotient, Nat.sub_lt_iff_lt_add' (Nat.div_mul_le_self _ _)]
    exact Nat.lt_div_mul_add (Nat.pos_of_ne_zero hzero)

/-- **What a fresh heap makes of like requests**: it grants the first multiples of the rounded size,
and refuses the others with what is then left. -/
theorem serve_replicate (r : Region) (hpos : 0 ≤ size) (n : Nat) :
    let bytes := roundUp size
    let granted := grants r.size bytes n
    (ofRegion r).serve (List.replicate n size) =
      (((List.range granted).map fun i => (size, .ok ⟨i * bytes⟩)) ++
        List.replicate (n - granted) (size, .error (.outOfMemory bytes (r.size - granted * bytes))),
        ⟨r, granted * bytes, granted, n - granted⟩) := by
  intro bytes granted
  have hsplit : List.replicate n size =
      List.replicate granted size ++ List.replicate (n - granted) size := by
    rw [List.replicate_append_replicate, Nat.add_sub_cancel' (grants_le _ _ _)]
  have hfits : (ofRegion r).cursor + granted * roundUp size ≤ (ofRegion r).region.size := by
    rw [ofRegion, Nat.zero_add]
    exact grants_mul_le _ _ _
  have hgranted := serve_replicate_of_fits hpos hfits
  simp only [ofRegion, Nat.zero_add] at hgranted
  rw [hsplit, serve_append, ofRegion, hgranted]
  obtain hall | hsome := Nat.eq_or_lt_of_le (grants_le r.size bytes n)
  · have hnone : n - granted = 0 := Nat.sub_eq_zero_of_le (Nat.le_of_eq hall.symm)
    rw [hnone, List.replicate_zero, List.replicate_zero, List.append_nil]
    exact Prod.ext (List.append_nil _) rfl
  · let full : Bump := ⟨r, granted * bytes, granted, 0⟩
    have hrefused := serve_replicate_of_full (b := full) hpos (full_of_grants_lt hsome)
    rw [hrefused, Nat.zero_add]
    rfl

end Bump

/-! ## The answers that are settled -/

/-- A family of lists of which one gets a new entry: together they get that entry. -/
theorem flatMap_range_perm {α : Type} {f f' : Nat → List α} {a : α} {i n : Nat} (hi : i < n)
    (hone : f' i = f i ++ [a]) (hother : ∀ j, j ≠ i → f' j = f j) :
    ((List.range n).flatMap f').Perm ((List.range n).flatMap f ++ [a]) := by
  induction n with
  | zero => exact absurd hi (Nat.not_lt_zero i)
  | succ n ih =>
    simp only [List.range_succ, List.flatMap_append, List.flatMap_singleton]
    by_cases hlast : i = n
    · have hfront : (List.range n).flatMap f' = (List.range n).flatMap f := by
        apply List.flatMap_congr
        intro j hj
        exact hother j (Nat.ne_of_lt (hlast ▸ List.mem_range.mp hj))
      rw [hfront, ← hlast, hone, List.append_assoc]
    · rw [hother n (Ne.symm hlast), List.append_assoc]
      have hfront := ih (by omega)
      exact (hfront.append_right (f n)).trans
        ((List.append_assoc ..).symm ▸ (List.perm_append_comm.append_left _))

/-- Going through a list by its places. -/
theorem flatMap_range_getElem? {α β : Type} (f : α → List β) (l : List α) :
    (List.range l.length).flatMap (fun i => (l[i]?.map f).getD []) = l.flatMap f := by
  induction l with
  | nil => rfl
  | cons a l ih =>
    rw [List.length_cons, List.range_succ_eq_map, List.flatMap_cons, List.flatMap_map,
      List.flatMap_cons, ← ih]
    rfl

namespace Team

/-- The answers that are settled, thread by thread. -/
def settledAnswers (t : Team) : List (Except HeapError Handle) :=
  (List.range t.threads.length).flatMap t.settledOf

variable {requests : List (List Int32)} {t : Team} {region : Region} {size : Int32}

theorem settledOf_of_le {i : Nat} (h : t.threads.length ≤ i) : t.settledOf i = [] := by
  rw [settledOf, List.getElem?_eq_none h]
  rfl

/-- All requests are for this size. -/
def Uniform (requests : List (List Int32)) (size : Int32) : Prop :=
  ∀ sizes ∈ requests, ∀ s ∈ sizes, s = size

theorem Uniform.request? (h : Uniform requests size) {c : CallId} {s : Int32}
    (hs : request? requests c = some s) : s = size := by
  obtain ⟨sizes, hsizes, hget⟩ := Option.bind_eq_some_iff.mp hs
  exact h sizes (List.mem_of_getElem? hsizes) s (List.mem_of_getElem? hget)

/-- At first nothing is settled. -/
theorem settledAnswers_ofRequests (h : Shared) (requests : List (List Int32)) :
    (ofRequests h requests).settledAnswers = [] := by
  apply List.flatMap_eq_nil_iff.mpr
  intro i _
  rw [settledOf, ofRequests, List.getElem?_map]
  cases requests[i]? <;> rfl

/-- What the settled answers are compared with: a bump heap has served so many requests. -/
structure Served (size : Int32) (t t' : Team) (region : Region) (n : Nat) : Prop where
  heap : t'.settled region = ((t.settled region).serve (List.replicate n size)).2
  answers : t'.settledAnswers.Perm (t.settledAnswers ++
    ((t.settled region).serve (List.replicate n size)).1.map Prod.snd)

theorem Served.refl (size : Int32) (t : Team) (region : Region) : Served size t t region 0 where
  heap := rfl
  answers := by
    show t.settledAnswers.Perm (t.settledAnswers ++ [])
    rw [List.append_nil]

theorem Served.trans {t₁ t₂ : Team} {n₁ n₂ : Nat} (h₁ : Served size t t₁ region n₁)
    (h₂ : Served size t₁ t₂ region n₂) : Served size t t₂ region (n₁ + n₂) where
  heap := by
    rw [← List.replicate_append_replicate, Bump.serve_append, h₂.heap, h₁.heap]
  answers := by
    rw [← List.replicate_append_replicate, Bump.serve_append, List.map_append,
      ← List.append_assoc, ← h₁.heap]
    exact h₂.answers.trans (h₁.answers.append_right _)

/-- **An action** settles nothing, or what the bump heap answers to one more request. -/
theorem step_served (ht : t.Sound requests) (hsize : Uniform requests size)
    (hregion : region.size = t.heap.region.size) (i : Nat) (spurious : Bool) :
    ∃ n, Served size t (t.step i spurious) region n := by
  obtain ⟨hkeep, hheap⟩ | ⟨s, hs, hone, hother, hheap⟩ := step_settles ht hregion i spurious
  · refine ⟨0, hheap, ?_⟩
    have hsame : (t.step i spurious).settledAnswers = t.settledAnswers := by
      rw [settledAnswers, settledAnswers, length_threads_step]
      exact List.flatMap_congr fun j _ => hkeep j
    rw [hsame]
    exact (Served.refl size t region).answers
  · -- whoever made the request, it is one more for the same size
    obtain rfl := hsize.request? hs
    refine ⟨1, hheap, ?_⟩
    have hi : i < t.threads.length := by
      by_contra hnot
      rw [settledOf_of_le (Nat.le_of_not_lt hnot), settledOf_of_le] at hone
      · cases hone
      · rw [length_threads_step]
        exact Nat.le_of_not_lt hnot
    rw [settledAnswers, length_threads_step]
    exact flatMap_range_perm hi hone hother

/-- **A run** settles what the bump heap answers to some requests. -/
theorem run_served (ht : t.Sound requests) (hsize : Uniform requests size)
    (hregion : region.size = t.heap.region.size) (schedule : List (Nat × Bool)) :
    ∃ n, Served size t (t.run schedule) region n := by
  induction schedule generalizing t with
  | nil => exact ⟨0, Served.refl size t region⟩
  | cons s schedule ih =>
    obtain ⟨n₁, h₁⟩ := step_served ht hsize hregion s.1 s.2
    obtain ⟨n₂, h₂⟩ := ih (step_sound ht s.1 s.2) (by rw [step_region ht]; exact hregion)
    exact ⟨n₁ + n₂, h₁.trans h₂⟩

/-! ## The end of a run -/

/-- A thread that is done has no request under way and none left. -/
theorem Sound.of_isDone (ht : t.Sound requests) (hdone : t.isDone = true) {i : Nat} {r : Requester}
    (hi : t.threads[i]? = some r) :
    r.stage = none ∧ ∃ sizes, requests[i]? = some sizes ∧ r.answers.length = sizes.length := by
  obtain ⟨sizes, hsizes, hr⟩ := ht.threads hi
  have hthread := List.all_eq_true.mp hdone r (List.mem_of_getElem? hi)
  cases hs : r.stage with
  | some stage =>
    obtain ⟨_, -, hstage⟩ := hr.stage_sound hs
    cases stage with
    | faulted fault => exact hstage.elim
    | _ => simp only [Requester.isDone, hs, Bool.false_eq_true] at hthread
  | none =>
    refine ⟨rfl, sizes, hsizes, ?_⟩
    have hwaiting := hr.waiting_eq
    have hbegun := hr.begun_le
    simp only [Requester.isDone, hs, List.isEmpty_iff] at hthread
    simp only [hthread, Requester.begun, hs, Option.isSome_none, Bool.false_eq_true, ↓reduceIte,
      Nat.add_zero] at hwaiting hbegun
    exact Nat.le_antisymm hbegun (List.drop_eq_nil_iff.mp hwaiting.symm)

/-- Where every thread is done, no call is in progress. -/
theorem Sound.isQuiet_of_isDone (ht : t.Sound requests) (hdone : t.isDone = true) : t.IsQuiet := by
  intro r hr
  obtain ⟨i, hi⟩ := List.mem_iff_getElem?.mp hr
  exact .inl (ht.of_isDone hdone hi).1

/-- Where every thread is done, what is settled are the answers. -/
theorem Sound.settledAnswers_eq (ht : t.Sound requests) (hdone : t.isDone = true) :
    t.settledAnswers = t.answers := by
  rw [answers, ← flatMap_range_getElem?, settledAnswers]
  apply List.flatMap_congr
  intro i hi
  have hget := List.getElem?_eq_getElem (List.mem_range.mp hi)
  obtain ⟨hstage, -⟩ := ht.of_isDone hdone hget
  rw [settledOf, hget]
  simp only [Option.map_some, Option.getD_some, Requester.settled, hstage, Option.bind_none,
    Option.toList_none, List.append_nil]

/-- Where every thread is done, there is an answer to each request. -/
theorem Sound.length_answers (ht : t.Sound requests) (hdone : t.isDone = true)
    (hlength : t.threads.length = requests.length) :
    t.answers.length = (requests.map List.length).sum := by
  have hthread : t.threads.map (List.length ∘ Requester.answers) = requests.map List.length := by
    apply List.ext_getElem?
    intro i
    rw [List.getElem?_map, List.getElem?_map]
    cases hi : t.threads[i]? with
    | none =>
      rw [List.getElem?_eq_none_iff, hlength, ← List.getElem?_eq_none_iff] at hi
      rw [hi]
      rfl
    | some r =>
      obtain ⟨-, sizes, hsizes, heq⟩ := ht.of_isDone hdone hi
      rw [hsizes]
      exact congrArg some heq
  rw [answers, List.length_flatMap]
  exact congrArg List.sum hthread

end Team

/-- **A run of like requests**: when all threads are done, the answers are those of a bump heap to
as many requests, in some order, and the heap is that bump heap. -/
theorem Team.run_uniform {requests : List (List Int32)} {size : Int32}
    (hsize : Uniform requests size) (r : Region) (schedule : List (Nat × Bool)) :
    let final := (ofRequests (Shared.ofRegion r) requests).run schedule
    let served := (Bump.ofRegion r).serve (List.replicate (requests.map List.length).sum size)
    final.isDone = true → final.answers.Perm (served.1.map Prod.snd) ∧
      final.heap = served.2.shared := by
  intro final served hdone
  have hstart := sound_ofRequests (Shared.sound_ofRegion r) requests
  have hfinal : final.Sound requests := run_sound hstart schedule
  have hregion : r.size = (ofRequests (Shared.ofRegion r) requests).heap.region.size := rfl
  obtain ⟨n, hheap, hanswers⟩ := run_served hstart hsize hregion schedule
  rw [settled_ofRequests] at hheap hanswers
  rw [settledAnswers_ofRequests, List.nil_append, hfinal.settledAnswers_eq hdone] at hanswers
  have hn : n = (requests.map List.length).sum := by
    have hlength : final.threads.length = requests.length := by
      rw [length_threads_run, ofRequests, List.length_map]
    rw [← hfinal.length_answers hdone hlength, hanswers.length_eq, List.length_map,
      ← List.length_map Prod.fst, Bump.serve_sizes, List.length_replicate]
  subst hn
  refine ⟨hanswers, ?_⟩
  have hsame : final.heap.region = r := run_region hstart schedule
  rw [← hheap, (hfinal.isQuiet_of_isDone hdone).settled_eq, Shared.settled, Bump.shared, ← hsame]
  rfl

/-! ## What a team comes to -/

/-- The distance of the block that an answer grants. -/
def grantedOffset? : Except HeapError Handle → Option Nat
  | .ok handle => some handle.offset
  | .error _ => none

/-- The cause for which an answer refuses. -/
def refusalCause? : Except HeapError Handle → Option HeapError
  | .ok _ => none
  | .error cause => some cause

/-- What a team has come to, whoever got what: the distances that it was granted in ascending order,
the causes for which it was refused, and the heap as seen from outside. -/
structure ComesTo (t : Team) (offsets : List Nat) (causes : List HeapError) (stats : Stats) :
    Prop where
  granted : (t.answers.filterMap grantedOffset?).mergeSort = offsets
  refused : t.answers.filterMap refusalCause? = causes
  stats : t.heap.stats = .ok stats

/-- Answers that are these grants and these refusals, in some order. -/
theorem ComesTo.of_perm {t : Team} {offsets : List Nat} {m : Nat} {cause : HeapError} {b : Bump}
    (hanswers : t.answers.Perm
      (offsets.map (fun x => .ok ⟨x⟩) ++ List.replicate m (.error cause)))
    (hsorted : offsets.Pairwise (· ≤ ·)) (hheap : t.heap = b.shared) (hb : b.Sound) :
    ComesTo t offsets (List.replicate m cause) b.stats where
  granted := by
    have hperm : (t.answers.filterMap grantedOffset?).Perm offsets := by
      have h := hanswers.filterMap grantedOffset?
      simpa [List.filterMap_append, List.filterMap_map, List.filterMap_replicate,
        Function.comp_def, grantedOffset?] using h
    have hascending := @List.pairwise_mergeSort Nat (fun x y => decide (x ≤ y))
      (by simpa using fun _ _ _ => Nat.le_trans) (by simpa using Nat.le_total)
      (t.answers.filterMap grantedOffset?)
    simp only [decide_eq_true_eq] at hascending
    exact ((List.mergeSort_perm _ _).trans hperm).eq_of_pairwise
      (fun _ _ _ _ => Nat.le_antisymm) hascending hsorted
  refused := by
    have hperm := hanswers.filterMap refusalCause?
    simp only [List.filterMap_append, List.filterMap_map, List.filterMap_replicate,
      Function.comp_def, refusalCause?, List.filterMap_none, List.nil_append] at hperm
    exact List.perm_replicate.mp hperm
  stats := by
    rw [hheap]
    exact Bump.shared_stats hb

/-- What like requests that are not negative come to, if so many of them are granted. -/
theorem ComesTo.of_nonneg {t : Team} {r : Region} {size : Int32} {n granted : Nat}
    (hpos : 0 ≤ size) (hgranted : Bump.grants r.size (roundUp size) n = granted)
    (hanswers : t.answers.Perm
      (((Bump.ofRegion r).serve (List.replicate n size)).1.map Prod.snd))
    (hheap : t.heap = ((Bump.ofRegion r).serve (List.replicate n size)).2.shared) :
    ComesTo t ((List.range granted).map (· * roundUp size))
      (List.replicate (n - granted)
        (.outOfMemory (roundUp size) (r.size - granted * roundUp size)))
      ⟨r.size, granted * roundUp size, r.size - granted * roundUp size, granted, n - granted⟩ := by
  have hle := Bump.grants_mul_le r.size (roundUp size) n
  rw [Bump.serve_replicate r hpos] at hanswers hheap
  rw [hgranted] at hanswers hheap hle
  have hsound : Bump.Sound ⟨r, granted * roundUp size, granted, n - granted⟩ :=
    ⟨Nat.dvd_mul_left_of_dvd (granuleBytes_dvd_roundUp size) _, hle⟩
  refine ComesTo.of_perm ?_ ?_ hheap hsound
  · rw [List.map_append, List.map_map, List.map_replicate] at hanswers
    rw [List.map_map]
    exact hanswers
  · rw [List.pairwise_map]
    exact List.pairwise_le_range.imp (Nat.mul_le_mul_right _)

/-- What like requests that ask for something come to. -/
theorem ComesTo.of_pos {t : Team} {r : Region} {size : Int32} {n : Nat} (hpos : 0 < size)
    (hanswers : t.answers.Perm
      (((Bump.ofRegion r).serve (List.replicate n size)).1.map Prod.snd))
    (hheap : t.heap = ((Bump.ofRegion r).serve (List.replicate n size)).2.shared) :
    let bytes := roundUp size
    let room := r.size / bytes
    let granted := min n room
    ComesTo t ((List.range granted).map (· * bytes))
      (List.replicate (n - granted) (.outOfMemory bytes (r.size - room * bytes)))
      ⟨r.size, granted * bytes, r.size - granted * bytes, granted, n - granted⟩ := by
  intro bytes room granted
  have hbytes : bytes ≠ 0 := by
    have hleast : size.toInt ≤ bytes := (roundUp_isLeast size).1.2
    have hlt : 0 < size.toInt := Int32.lt_iff_toInt_lt.mp hpos
    omega
  have hgrants : Bump.grants r.size bytes n = granted := if_neg hbytes
  have hcomes := ComesTo.of_nonneg (Int32.le_of_lt hpos) hgrants hanswers hheap
  -- only where there is no refusal may less be granted than fits
  have hcauses : List.replicate (n - granted)
        (HeapError.outOfMemory bytes (r.size - granted * bytes)) =
      List.replicate (n - granted) (.outOfMemory bytes (r.size - room * bytes)) := by
    obtain hall | hsome := Nat.le_total n room
    · rw [show granted = n from Nat.min_eq_left hall, Nat.sub_self]
      rfl
    · rw [show granted = room from Nat.min_eq_right hsome]
  rw [← hcauses]
  exact hcomes

/-- **Like requests have one outcome**: for every capacity that can be reserved, any threads, any
number of requests of each, and every schedule, in which exchanges may fail without cause. The run
can always be carried to its end, and where it has ended, what it came to does not depend on the
schedule. -/
theorem uniform_outcome {host : Host} {capacity : Nat} {h : Shared} {size : Int32}
    {requests : List (List Int32)} (hh : Shared.withCapacity host capacity = .ok h)
    (hsize : Team.Uniform requests size) (schedule : List (Nat × Bool)) :
    let start := Team.ofRequests h requests
    let final := start.run schedule
    let n := (requests.map List.length).sum
    let bytes := roundUp size
    let room := capacity / bytes
    let granted := min n room
    (∃ later, (start.run (schedule ++ later)).isDone = true) ∧
    (final.isDone = true →
      (size < 0 → final.heap = h ∧
        ComesTo final [] (List.replicate n (.invalidSize size)) ⟨capacity, 0, capacity, 0, 0⟩) ∧
      (size = 0 → ComesTo final (List.replicate n 0) [] ⟨capacity, 0, capacity, n, 0⟩) ∧
      (0 < size → ComesTo final ((List.range granted).map (· * bytes))
        (List.replicate (n - granted) (.outOfMemory bytes (capacity - room * bytes)))
        ⟨capacity, granted * bytes, capacity - granted * bytes, granted, n - granted⟩)) := by
  obtain ⟨r, rfl, rfl⟩ := Shared.withCapacity_eq_ok hh
  intro start final n bytes room granted
  have hstart : start.Sound requests := Team.sound_ofRequests (Shared.sound_ofRegion r) requests
  refine ⟨?_, fun hdone => ?_⟩
  · obtain ⟨later, hlater⟩ := Team.exists_isDone (Team.run_sound hstart schedule)
    exact ⟨later, by rw [Team.run_append]; exact hlater⟩
  obtain ⟨hanswers, hheap⟩ := Team.run_uniform hsize r schedule hdone
  refine ⟨fun hneg => ?_, fun hzero => ?_, fun hpos => ?_⟩
  · rw [Bump.serve_replicate_of_neg _ hneg] at hanswers hheap
    rw [List.map_replicate] at hanswers
    exact ⟨hheap, ComesTo.of_perm hanswers .nil hheap (Bump.sound_ofRegion r)⟩
  · have hbytes : roundUp size = 0 := by
      rw [hzero]
      rfl
    have hgrants : Bump.grants r.size (roundUp size) n = n := if_pos hbytes
    have hcomes := ComesTo.of_nonneg (Int32.le_of_eq hzero.symm) hgrants hanswers hheap
    simpa [hbytes] using hcomes
  · exact ComesTo.of_pos hpos hanswers hheap

/-- Two threads with three requests on ten bytes: the first reads the cursor, the second is granted
four bytes, the exchange of the first is in vain, and its next one fails without cause. -/
theorem uniform_outcome_contended :
    ∃ h, Shared.withCapacity Host.ample 10 = .ok h ∧
      let schedule := List.replicate 4 (0, false) ++ List.replicate 6 (1, false) ++
        [(0, false), (0, false), (0, true)] ++ List.replicate 5 (0, false) ++
        List.replicate 7 (1, false)
      let final := (Team.ofRequests h [[3], [3, 3]]).run schedule
      final.isDone = true ∧ ComesTo final [0, 4] [.outOfMemory 4 2] ⟨10, 8, 2, 2, 1⟩ := by
  refine ⟨_, rfl, rfl, ?_⟩
  have hsize : Team.Uniform [[3], [3, 3]] 3 := by simp [Team.Uniform]
  have houtcome := @uniform_outcome Host.ample 10 _ 3 [[3], [3, 3]] rfl hsize
    (List.replicate 4 (0, false) ++ List.replicate 6 (1, false) ++
      [(0, false), (0, false), (0, true)] ++ List.replicate 5 (0, false) ++
      List.replicate 7 (1, false))
  exact (houtcome.2 rfl).2.2 (by decide)

end VmSupport.Heap
