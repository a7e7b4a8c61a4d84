import VmSupport.Proofs.Heap.BumpRun

/-!
# Requests that a bump heap refused

A request that is refused leaves no trace but in the counter: the cursor stays where it is, and no
later request looks at the counter. So it makes no difference to the others that it was made.

**The law** (`refusals_unseen`) says so of any requests and any of the refused ones among them
(`Unseen`): without these the other requests are answered as before, and the heap is the same but
for the counter, which falls short by the requests that did not fit. Its second part is about one
size (`StaysRefused`): where a request did not fit, no later one of the same or a larger size fits,
because what is left never grows and a larger size never rounds to less. The heap is exhausted for
such sizes only: what still fits is still granted.

Both parts hold from any state of the heap on. The first one is an induction on the requests that
follows two heaps at once, with the same numbers but for the counter (`serve_chosen`). The second one
needs no more than that the remaining bytes never grow (`remaining_serve_le`).

The counters are natural numbers here. In words they show the same as long as the requests are fewer
than the words.
-/

namespace VmSupport.Heap

/-! ## Choosing from a list -/

/-- The entries at the chosen places of a list. -/
def chosen {α : Type} (keep : Nat → Bool) : List α → List α
  | [] => []
  | a :: l =>
    let rest := chosen (fun i => keep (i + 1)) l
    if keep 0 then a :: rest else rest

section

variable {α : Type} {keep : Nat → Bool}

theorem chosen_cons_of_keep (h : keep 0 = true) (a : α) (l : List α) :
    chosen keep (a :: l) = a :: chosen (fun i => keep (i + 1)) l :=
  if_pos h

theorem chosen_cons_of_drop (h : keep 0 = false) (a : α) (l : List α) :
    chosen keep (a :: l) = chosen (fun i => keep (i + 1)) l :=
  if_neg (by rw [h]; exact Bool.false_ne_true)

/-- What is counted among the chosen entries and among the others is counted among all. -/
theorem countP_chosen (p : α → Bool) (keep : Nat → Bool) (l : List α) :
    (chosen keep l).countP p + (chosen (fun i => !keep i) l).countP p = l.countP p := by
  induction l generalizing keep with
  | nil => rfl
  | cons a l ih =>
    have hrest := ih fun i => keep (i + 1)
    cases hkeep : keep 0 with
    | true =>
      have hdrop : (fun i => !keep i) 0 = false := by simp only [hkeep, Bool.not_true]
      rw [chosen_cons_of_keep hkeep, chosen_cons_of_drop hdrop, List.countP_cons, List.countP_cons]
      omega
    | false =>
      have hdrop : (fun i => !keep i) 0 = true := by simp only [hkeep, Bool.not_false]
      rw [chosen_cons_of_drop hkeep, chosen_cons_of_keep hdrop, List.countP_cons, List.countP_cons]
      omega

end

/-! ## Two heaps with the same numbers but for the counter -/

theorem History.refusals_cons (x : Int32 × Except HeapError Handle) (h : History) :
    refusals (x :: h) = refusals [x] + refusals h := by
  rw [refusals, refusals, refusals, List.countP_cons, List.countP_singleton, Nat.add_comm]

/-- The refusals among the chosen requests and those among the others are all there are. -/
theorem History.refusals_chosen (keep : Nat → Bool) (h : History) :
    refusals (chosen keep h) + refusals (chosen (fun i => !keep i) h) = refusals h :=
  countP_chosen isOutOfMemory keep h

namespace Bump

variable {b : Bump} {size : Int32}

/-- The heap with another number of requests that did not fit. -/
def withRefusals (b : Bump) (n : Nat) : Bump :=
  { b with failedAllocations := n }

/-- **No request looks at the counter**: with another number there the answer is the same, and so is
the heap but for that number. -/
theorem allocate_withRefusals (b : Bump) (n : Nat) (size : Int32) :
    ((b.withRefusals n).allocate size).answer = (b.allocate size).answer ∧
    ((b.withRefusals n).allocate size).heap = (b.allocate size).heap.withRefusals
      (n + History.refusals [(size, (b.allocate size).answer)]) := by
  obtain ⟨hneg, hr⟩ | ⟨hpos, hfull, hr⟩ | ⟨hpos, hfits, hr⟩ := b.allocate_cases size
  · rw [hr, (b.withRefusals n).allocate_of_neg hneg]
    exact ⟨rfl, rfl⟩
  · rw [hr, (b.withRefusals n).allocate_of_full hpos hfull]
    exact ⟨rfl, rfl⟩
  · rw [hr, (b.withRefusals n).allocate_of_fits hpos hfits]
    exact ⟨rfl, rfl⟩

/-- A refused request changes that number at most. -/
theorem heap_of_refused {cause : HeapError} (h : (b.allocate size).answer = .error cause) (n : Nat) :
    (b.allocate size).heap.withRefusals n = b.withRefusals n := by
  obtain ⟨-, hr⟩ | ⟨-, -, hr⟩ | ⟨-, -, hr⟩ := b.allocate_cases size
  · rw [hr]
  · rw [hr]
    rfl
  · rw [hr] at h
    cases h

/-- All requests at these places are refused. -/
def Refuses (b : Bump) (sizes : List Int32) (places : Nat → Bool) : Prop :=
  ∀ x ∈ chosen places (b.serve sizes).1, ∃ cause, x.2 = .error cause

/-- **Without some of the refused requests** the others are answered as they were, and the counter
counts the refusals among them. -/
theorem serve_chosen {sizes : List Int32} {keep : Nat → Bool}
    (h : b.Refuses sizes fun i => !keep i) (n : Nat) :
    (b.withRefusals n).serve (chosen keep sizes) =
      (chosen keep (b.serve sizes).1,
        (b.serve sizes).2.withRefusals (n + History.refusals (chosen keep (b.serve sizes).1))) := by
  induction sizes generalizing b n keep with
  | nil => rfl
  | cons size sizes ih =>
    cases hkeep : keep 0 with
    | true =>
      have hrest : (b.allocate size).heap.Refuses sizes fun i => !keep (i + 1) := by
        rwa [Refuses, serve_cons, chosen_cons_of_drop (by simp only [hkeep, Bool.not_true])] at h
      obtain ⟨hanswer, hheap⟩ := b.allocate_withRefusals n size
      rw [chosen_cons_of_keep hkeep, serve_cons, serve_cons, hanswer, hheap, ih hrest,
        chosen_cons_of_keep hkeep, History.refusals_cons (_, _) (chosen _ _), Nat.add_assoc]
    | false =>
      rw [Refuses, serve_cons, chosen_cons_of_keep (by simp only [hkeep, Bool.not_false]),
        List.forall_mem_cons] at h
      obtain ⟨⟨cause, hcause⟩, hrest⟩ := h
      rw [chosen_cons_of_drop hkeep, serve_cons, chosen_cons_of_drop hkeep,
        ← heap_of_refused hcause, ih hrest]

/-- Requests add their refusals to the counter. -/
theorem serve_failedAllocations (b : Bump) (sizes : List Int32) :
    (b.serve sizes).2.failedAllocations =
      b.failedAllocations + History.refusals (b.serve sizes).1 := by
  induction sizes generalizing b with
  | nil => rfl
  | cons size sizes ih =>
    obtain ⟨-, hheap⟩ := b.allocate_withRefusals b.failedAllocations size
    have hone := congrArg failedAllocations hheap
    rw [serve_cons, History.refusals_cons, ih, ← Nat.add_assoc]
    exact congrArg (· + _) hone

/-! ## What is left -/

/-- What is left never grows by a request. -/
theorem remaining_allocate_le (b : Bump) (size : Int32) :
    (b.allocate size).heap.remaining ≤ b.remaining := by
  obtain ⟨-, hr⟩ | ⟨-, -, hr⟩ | ⟨-, -, hr⟩ := b.allocate_cases size
  · exact Nat.le_of_eq (congrArg (·.heap.remaining) hr)
  · exact Nat.le_of_eq (congrArg (·.heap.remaining) hr)
  · rw [hr]
    exact Nat.sub_le_sub_left (Nat.le_add_right _ _) _

/-- What is left never grows. -/
theorem remaining_serve_le (b : Bump) (sizes : List Int32) :
    (b.serve sizes).2.remaining ≤ b.remaining := by
  induction sizes generalizing b with
  | nil => exact Nat.le_refl _
  | cons size sizes ih => exact Nat.le_trans (ih _) (b.remaining_allocate_le size)

/-- A request that did not fit was not negative, and told what it needed and what was left. -/
theorem of_outOfMemory {requested remaining : Nat}
    (h : (b.allocate size).answer = .error (.outOfMemory requested remaining)) :
    0 ≤ size ∧ b.remaining < roundUp size ∧ remaining = b.remaining := by
  obtain ⟨-, hr⟩ | ⟨hpos, hfull, hr⟩ | ⟨-, -, hr⟩ := b.allocate_cases size
  · rw [hr] at h
    cases h
  · rw [hr] at h
    cases h
    exact ⟨hpos, hfull, rfl⟩
  · rw [hr] at h
    cases h

end Bump

/-- A larger size never rounds to less. -/
theorem roundUp_mono {size size' : Int32} (h : size ≤ size') : roundUp size ≤ roundUp size' := by
  have hle : size.toInt ≤ size'.toInt := Int32.le_iff_toInt_le.mp h
  simp only [roundUp, granuleBytes_eq]
  omega

/-! ## The law -/

/-- **The refused requests are not seen** where only some places of the requests are kept: the others
are answered as they were, and the heap is the same but for the counter of those that did not fit. -/
structure Unseen (b : Bump) (sizes : List Int32) (keep : Nat → Bool) : Prop where
  answers : (b.serve (chosen keep sizes)).1 = chosen keep (b.serve sizes).1
  used : (b.serve (chosen keep sizes)).2.used = (b.serve sizes).2.used
  remaining : (b.serve (chosen keep sizes)).2.remaining = (b.serve sizes).2.remaining
  allocations : (b.serve (chosen keep sizes)).2.allocations = (b.serve sizes).2.allocations
  failedAllocations : (b.serve (chosen keep sizes)).2.failedAllocations +
      History.refusals (chosen (fun i => !keep i) (b.serve sizes).1) =
    (b.serve sizes).2.failedAllocations

/-- **A size stays refused** by a heap, where so many bytes were left when it did not fit. -/
structure StaysRefused (size : Int32) (left : Nat) (b : Bump) : Prop where
  remaining_le : b.remaining ≤ left
  refused : ∀ size', size ≤ size' →
    (b.allocate size').answer = .error (.outOfMemory (roundUp size') b.remaining)
  /-- What fits is granted all the same. -/
  granted : ∀ size', 0 ≤ size' → roundUp size' ≤ b.remaining →
    (b.allocate size').answer = .ok ⟨b.used⟩

theorem Bump.unseen {b : Bump} {sizes : List Int32} {keep : Nat → Bool}
    (h : b.Refuses sizes fun i => !keep i) : Unseen b sizes keep := by
  have hserve : b.serve (chosen keep sizes) = _ := serve_chosen h b.failedAllocations
  exact
    { answers := by rw [hserve]
      used := by
        rw [hserve]
        rfl
      remaining := by
        rw [hserve]
        rfl
      allocations := by
        rw [hserve]
        rfl
      failedAllocations := by
        rw [hserve, serve_failedAllocations, ← History.refusals_chosen keep (b.serve sizes).1]
        exact Nat.add_assoc _ _ _ }

theorem Bump.staysRefused {b : Bump} {size : Int32} {requested left : Nat}
    (h : (b.allocate size).answer = .error (.outOfMemory requested left)) (sizes : List Int32) :
    StaysRefused size left (b.serve (size :: sizes)).2 := by
  obtain ⟨hpos, hfull, rfl⟩ := of_outOfMemory h
  have hle := b.remaining_serve_le (size :: sizes)
  refine ⟨hle, fun size' hsize' => ?_, fun size' hpos' hfits => ?_⟩
  · have hfull' : (b.serve (size :: sizes)).2.remaining < roundUp size' :=
      Nat.lt_of_le_of_lt hle (Nat.lt_of_lt_of_le hfull (roundUp_mono hsize'))
    rw [allocate_of_full _ (Int32.le_trans hpos hsize') hfull']
    rfl
  · rw [allocate_of_fits _ hpos' hfits]
    rfl

/-- **Refused requests are not seen, and exhaustion is a matter of the size**, on a heap of any
capacity and in any state, for any requests. -/
theorem refusals_unseen (b : Bump) (sizes : List Int32) :
    (∀ keep, b.Refuses sizes (fun i => !keep i) → Unseen b sizes keep) ∧
    ∀ done size later, sizes = done ++ size :: later → ∀ requested left,
      ((b.serve done).2.allocate size).answer = .error (.outOfMemory requested left) →
        StaysRefused size left (b.serve sizes).2 := by
  refine ⟨fun _ => Bump.unseen, ?_⟩
  rintro done size later rfl requested left h
  rw [Bump.serve_append]
  exact Bump.staysRefused h later

/-- On ten bytes a negative size and the first of two requests that do not fit are left out. After
that one six bytes are left: eight still do not fit, and four do. -/
theorem refusals_unseen_ten :
    ∃ b, Bump.withCapacity Host.ample 10 = .ok b ∧
      let sizes := [3, -1, 8, 8, 4]
      let keep := fun i => i != 1 && i != 2
      b.Refuses sizes (fun i => !keep i) ∧ Unseen b sizes keep ∧
      ((b.serve [3, -1]).2.allocate 8).answer = .error (.outOfMemory 8 6) ∧
        StaysRefused 8 6 (b.serve sizes).2 := by
  refine ⟨_, rfl, ?refuses, (refusals_unseen _ _).1 _ ?refuses, rfl,
    (refusals_unseen _ _).2 [3, -1] 8 [8, 4] rfl 8 6 rfl⟩
  rintro x (_ | ⟨_, _ | ⟨_, hx⟩⟩)
  · exact ⟨_, rfl⟩
  · exact ⟨_, rfl⟩
  · cases hx

end VmSupport.Heap
