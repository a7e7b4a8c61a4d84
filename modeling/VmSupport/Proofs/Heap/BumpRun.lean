import VmSupport.Proofs.Heap.Reservation
import VmSupport.Proofs.Heap.Rounding

/-!
# What a bump heap has handed out

A run of a bump heap leaves a **history**: each request with its answer. The blocks that it granted
are read off the history alone, and the heap's own numbers are compared with them.

**The law** (`serve_law`): after any requests, the blocks tile the used part of the region from its
beginning on, in the order in which they were granted; the counters count the grants and the
requests that did not fit; and each request was granted exactly when its rounded size fitted into
what was left at that moment. The capacity need not be a multiple of the granule: then the last
bytes of the region are never used.

The proof goes by `Tiles`, which says that blocks lie end to end. One more grant adds one block at
the end (`Tiles.snoc`); all that is said about the positions of the blocks follows from it.
-/

namespace VmSupport.Heap

/-! ## Blocks that lie end to end -/

/-- A block that was granted: where it begins, and how many bytes it takes up. -/
structure Block where
  offset : Nat
  bytes : Nat
  deriving DecidableEq, Repr

/-- The end of a block. -/
def Block.limit (k : Block) : Nat :=
  k.offset + k.bytes

/-- The number of bytes that blocks take up. -/
def totalBytes (ks : List Block) : Nat :=
  (ks.map Block.bytes).sum

/-- The blocks lie end to end from `start` to `stop`. -/
def Tiles (start stop : Nat) : List Block → Prop
  | [] => start = stop
  | k :: ks => k.offset = start ∧ Tiles k.limit stop ks

namespace Tiles

/-- One more block at the end. -/
theorem snoc {start stop : Nat} {ks : List Block} (h : Tiles start stop ks) (bytes : Nat) :
    Tiles start (stop + bytes) (ks ++ [⟨stop, bytes⟩]) := by
  induction ks generalizing start with
  | nil =>
    cases h
    exact ⟨rfl, rfl⟩
  | cons k ks ih => exact ⟨h.1, ih h.2⟩

/-- Tiled parts end where their blocks' bytes end. -/
theorem stop_eq {start stop : Nat} {ks : List Block} (h : Tiles start stop ks) :
    stop = start + totalBytes ks := by
  induction ks generalizing start with
  | nil => exact h.symm
  | cons k ks ih =>
    rw [ih h.2, Block.limit, h.1, totalBytes, totalBytes, List.map_cons, List.sum_cons]
    omega

/-- A block begins where the blocks before it end. -/
theorem offset_eq {start stop : Nat} {front back : List Block} {k : Block}
    (h : Tiles start stop (front ++ k :: back)) : k.offset = start + totalBytes front := by
  induction front generalizing start with
  | nil => exact h.1
  | cons f front ih =>
    rw [ih h.2, Block.limit, h.1, totalBytes, totalBytes, List.map_cons, List.sum_cons]
    omega

theorem start_le_stop {start stop : Nat} {ks : List Block} (h : Tiles start stop ks) :
    start ≤ stop :=
  h.stop_eq ▸ Nat.le_add_right _ _

/-- Every block lies in the tiled part. -/
theorem within {start stop : Nat} {ks : List Block} (h : Tiles start stop ks) :
    ∀ k ∈ ks, start ≤ k.offset ∧ k.limit ≤ stop := by
  induction ks generalizing start with
  | nil =>
    intro k hk
    cases hk
  | cons k ks ih =>
    intro j hj
    rcases List.mem_cons.mp hj with rfl | hj
    · exact ⟨Nat.le_of_eq h.1.symm, h.2.start_le_stop⟩
    · obtain ⟨hlow, hhigh⟩ := ih h.2 j hj
      refine ⟨?_, hhigh⟩
      rw [Block.limit, h.1] at hlow
      omega

/-- If the tiled part begins at a multiple and all sizes are multiples, so are all beginnings. -/
theorem aligned {start stop d : Nat} {ks : List Block} (h : Tiles start stop ks)
    (hstart : d ∣ start) (hbytes : ∀ k ∈ ks, d ∣ k.bytes) : ∀ k ∈ ks, d ∣ k.offset := by
  induction ks generalizing start with
  | nil =>
    intro k hk
    cases hk
  | cons k ks ih =>
    have hk : d ∣ k.offset := h.1.symm ▸ hstart
    have hrest := ih h.2 (Nat.dvd_add hk (hbytes k List.mem_cons_self))
      fun j hj => hbytes j (List.mem_cons_of_mem _ hj)
    intro j hj
    rcases List.mem_cons.mp hj with rfl | hj
    · exact hk
    · exact hrest j hj

/-- Every block ends before the next ones begin. -/
theorem apart {start stop : Nat} {ks : List Block} (h : Tiles start stop ks) :
    ks.Pairwise fun j k => j.limit ≤ k.offset := by
  induction ks generalizing start with
  | nil => exact .nil
  | cons k ks ih => exact .cons (fun j hj => (h.2.within j hj).1) (ih h.2)

/-- The blocks together hold every byte of the tiled part. -/
theorem covers {start stop : Nat} {ks : List Block} (h : Tiles start stop ks) (x : Nat) :
    (start ≤ x ∧ x < stop) ↔ ∃ k ∈ ks, k.offset ≤ x ∧ x < k.limit := by
  constructor
  · induction ks generalizing start with
    | nil =>
      cases h
      intro hx
      omega
    | cons k ks ih =>
      rintro ⟨hlow, hhigh⟩
      by_cases hx : x < k.limit
      · exact ⟨k, List.mem_cons_self, h.1 ▸ hlow, hx⟩
      · obtain ⟨j, hj, hin⟩ := ih h.2 ⟨Nat.le_of_not_lt hx, hhigh⟩
        exact ⟨j, List.mem_cons_of_mem _ hj, hin⟩
  · rintro ⟨k, hk, hlow, hhigh⟩
    obtain ⟨hstart, hstop⟩ := h.within k hk
    exact ⟨Nat.le_trans hstart hlow, Nat.lt_of_lt_of_le hhigh hstop⟩

end Tiles

/-! ## Histories -/

/-- Requests with their answers, in the order in which they were made. -/
abbrev History := List (Int32 × Except HeapError Handle)

namespace History

/-- The block that an answer granted, if it granted one. -/
def block? : Int32 × Except HeapError Handle → Option Block
  | (size, .ok handle) => some ⟨handle.offset, roundUp size⟩
  | (_, .error _) => none

/-- Whether an answer says that the request did not fit. -/
def isOutOfMemory : Int32 × Except HeapError Handle → Bool
  | (_, .error (.outOfMemory ..)) => true
  | _ => false

/-- The blocks that were granted, in their order. -/
def blocks (history : History) : List Block :=
  history.filterMap block?

/-- The number of requests that did not fit. -/
def refusals (history : History) : Nat :=
  history.countP isOutOfMemory

theorem blocks_snoc_ok (h : History) (size : Int32) (handle : Handle) :
    blocks (h ++ [(size, .ok handle)]) = blocks h ++ [⟨handle.offset, roundUp size⟩] :=
  List.filterMap_append

theorem blocks_snoc_error (h : History) (size : Int32) (cause : HeapError) :
    blocks (h ++ [(size, .error cause)]) = blocks h := by
  rw [blocks, List.filterMap_append]
  exact List.append_nil _

theorem granuleBytes_dvd_of_mem_blocks {history : History} {k : Block} (hk : k ∈ blocks history) :
    granuleBytes ∣ k.bytes := by
  obtain ⟨⟨size, answer⟩, _, hx⟩ := List.mem_filterMap.mp hk
  cases answer with
  | ok handle =>
    cases hx
    exact granuleBytes_dvd_roundUp size
  | error cause => cases hx

theorem refusals_snoc (h : History) (x : Int32 × Except HeapError Handle) :
    refusals (h ++ [x]) = refusals h + if isOutOfMemory x then 1 else 0 := by
  rw [refusals, List.countP_append, List.countP_singleton]
  rfl

/-- A request is granted, or it did not fit, or neither. -/
theorem blocks_add_refusals_le (history : History) :
    (blocks history).length + refusals history ≤ history.length := by
  induction history with
  | nil => exact Nat.le_refl 0
  | cons x rest ih =>
    obtain ⟨size, answer⟩ := x
    have hrest := ih
    simp only [blocks, refusals] at hrest ⊢
    cases answer with
    | ok handle =>
      simp only [List.filterMap_cons, block?, List.countP_cons, isOutOfMemory, List.length_cons]
      simp only [Bool.false_eq_true, ↓reduceIte]
      omega
    | error cause =>
      simp only [List.filterMap_cons, block?, List.countP_cons, List.length_cons]
      split <;> omega

end History

/-! ## One request -/

namespace Bump

/-- A negative size is refused, and changes nothing. -/
theorem allocate_of_neg (b : Bump) {size : Int32} (hneg : size < 0) :
    b.allocate size = ⟨.error (.invalidSize size), b, []⟩ := by
  rw [allocate, roundedSize_eq, if_pos hneg]

/-- A request whose rounded size does not fit is counted and refused. -/
theorem allocate_of_full (b : Bump) {size : Int32} (hpos : 0 ≤ size)
    (hfull : b.remaining < roundUp size) : b.allocate size = b.refuse (roundUp size) := by
  rw [allocate, roundedSize_eq, if_neg (Int32.not_lt.mpr hpos)]
  exact if_pos hfull

/-- A request whose rounded size fits is granted at the cursor. -/
theorem allocate_of_fits (b : Bump) {size : Int32} (hpos : 0 ≤ size)
    (hfits : roundUp size ≤ b.remaining) : b.allocate size = b.grant size (roundUp size) := by
  rw [allocate, roundedSize_eq, if_neg (Int32.not_lt.mpr hpos)]
  exact if_neg (Nat.not_lt.mpr hfits)

/-- **What one request does**, all of it. -/
theorem allocate_cases (b : Bump) (size : Int32) :
    (size < 0 ∧ b.allocate size = ⟨.error (.invalidSize size), b, []⟩) ∨
    (0 ≤ size ∧ b.remaining < roundUp size ∧ b.allocate size = b.refuse (roundUp size)) ∨
    (0 ≤ size ∧ roundUp size ≤ b.remaining ∧ b.allocate size = b.grant size (roundUp size)) := by
  by_cases hneg : size < 0
  · exact .inl ⟨hneg, b.allocate_of_neg hneg⟩
  · have hpos : 0 ≤ size := Int32.not_lt.mp hneg
    by_cases hfull : b.remaining < roundUp size
    · exact .inr (.inl ⟨hpos, hfull, b.allocate_of_full hpos hfull⟩)
    · have hfits : roundUp size ≤ b.remaining := Nat.le_of_not_lt hfull
      exact .inr (.inr ⟨hpos, hfits, b.allocate_of_fits hpos hfits⟩)

/-- A request leaves the region alone. -/
theorem allocate_region (b : Bump) (size : Int32) : (b.allocate size).heap.region = b.region := by
  obtain ⟨_, h⟩ | ⟨_, _, h⟩ | ⟨_, _, h⟩ := b.allocate_cases size <;> rw [h] <;> rfl

/-! ## Requests one after another -/

theorem serve_cons (b : Bump) (size : Int32) (sizes : List Int32) :
    b.serve (size :: sizes) = ((size, (b.allocate size).answer) ::
      ((b.allocate size).heap.serve sizes).1, ((b.allocate size).heap.serve sizes).2) := rfl

/-- Serving more requests goes on from where the first ones led to. -/
theorem serve_append (b : Bump) (xs ys : List Int32) :
    b.serve (xs ++ ys) =
      ((b.serve xs).1 ++ ((b.serve xs).2.serve ys).1, ((b.serve xs).2.serve ys).2) := by
  induction xs generalizing b with
  | nil => rfl
  | cons x xs ih => rw [List.cons_append, serve_cons, serve_cons, ih]; rfl

/-- There is one answer for each request, in the order of the requests. -/
theorem serve_sizes (b : Bump) (sizes : List Int32) : (b.serve sizes).1.map Prod.fst = sizes := by
  induction sizes generalizing b with
  | nil => rfl
  | cons size sizes ih => rw [serve_cons, List.map_cons, ih]

/-- Requests leave the region alone. -/
theorem serve_region (b : Bump) (sizes : List Int32) : (b.serve sizes).2.region = b.region := by
  induction sizes generalizing b with
  | nil => rfl
  | cons size sizes ih => rw [serve_cons, ih, allocate_region]

end Bump

/-! ## The invariant of a run -/

/-- The heap's own numbers are those of the history: the cursor stands behind blocks that lie end to
end from the beginning of the region, and the counters count. -/
structure Bump.Accounts (history : History) (b : Bump) : Prop where
  tiled : Tiles 0 b.cursor (History.blocks history)
  granular : granuleBytes ∣ b.cursor
  within : b.cursor ≤ b.region.size
  allocations_eq : b.allocations = (History.blocks history).length
  failedAllocations_eq : b.failedAllocations = History.refusals history

namespace Bump.Accounts

/-- A fresh heap has no history. -/
theorem ofRegion (r : Region) : Bump.Accounts [] (Bump.ofRegion r) where
  tiled := rfl
  granular := Nat.dvd_zero _
  within := Nat.zero_le _
  allocations_eq := rfl
  failedAllocations_eq := rfl

/-- One more request. -/
theorem allocate {history : History} {b : Bump} (h : b.Accounts history) (size : Int32) :
    (b.allocate size).heap.Accounts (history ++ [(size, (b.allocate size).answer)]) := by
  obtain ⟨_, hr⟩ | ⟨_, _, hr⟩ | ⟨_, hfits, hr⟩ := b.allocate_cases size
  · have hblocks := History.blocks_snoc_error history size (.invalidSize size)
    rw [hr]
    exact
      { tiled := hblocks ▸ h.tiled
        granular := h.granular
        within := h.within
        allocations_eq := hblocks ▸ h.allocations_eq
        failedAllocations_eq := (History.refusals_snoc ..).symm ▸ h.failedAllocations_eq }
  · have hblocks := History.blocks_snoc_error history size (.outOfMemory (roundUp size) b.remaining)
    rw [hr]
    exact
      { tiled := hblocks ▸ h.tiled
        granular := h.granular
        within := h.within
        allocations_eq := hblocks ▸ h.allocations_eq
        failedAllocations_eq :=
          (History.refusals_snoc ..).symm ▸ congrArg (· + 1) h.failedAllocations_eq }
  · have hblocks := History.blocks_snoc_ok history size ⟨b.cursor⟩
    have hlimit : b.cursor + roundUp size ≤ b.region.size := by
      have hcursor := h.within
      simp only [Bump.remaining] at hfits
      omega
    rw [hr]
    exact
      { tiled := hblocks ▸ h.tiled.snoc (roundUp size)
        granular := Nat.dvd_add h.granular (granuleBytes_dvd_roundUp size)
        within := hlimit
        allocations_eq := by
          show b.allocations + 1 = (History.blocks (history ++ [(size, .ok ⟨b.cursor⟩)])).length
          rw [hblocks, List.length_append, h.allocations_eq]
          rfl
        failedAllocations_eq := (History.refusals_snoc ..).symm ▸ h.failedAllocations_eq }

/-- Any more requests. -/
theorem serve {history : History} {b : Bump} (h : b.Accounts history) (sizes : List Int32) :
    (b.serve sizes).2.Accounts (history ++ (b.serve sizes).1) := by
  induction sizes generalizing history b with
  | nil => exact (List.append_nil history).symm ▸ h
  | cons size sizes ih =>
    have := ih (h.allocate size)
    rwa [List.append_assoc] at this

end Bump.Accounts

/-! ## The law of a run -/

/-- How a heap of some capacity is laid out after a history. -/
structure LaidOut (capacity : Nat) (history : History) (b : Bump) : Prop where
  /-- The used part is made of whole granules, and is a part of the capacity. -/
  used_granular : granuleBytes ∣ b.used
  used_le : b.used ≤ capacity
  used_add_remaining : b.used + b.remaining = capacity
  /-- A block begins at the sum of the rounded sizes that were granted before it. -/
  offset_eq : ∀ {front back : List Block} {k : Block},
    History.blocks history = front ++ k :: back → k.offset = totalBytes front
  aligned : ∀ k ∈ History.blocks history, granuleBytes ∣ k.offset
  /-- Each block ends before the later ones begin. -/
  apart : (History.blocks history).Pairwise fun j k => j.limit ≤ k.offset
  inside : ∀ k ∈ History.blocks history, k.limit ≤ capacity
  /-- A byte is used exactly when some block holds it. -/
  covers : ∀ x, x < b.used ↔ ∃ k ∈ History.blocks history, k.offset ≤ x ∧ x < k.limit
  /-- The counters count the grants and the requests that did not fit. -/
  allocations_eq : b.allocations = (History.blocks history).length
  failedAllocations_eq : b.failedAllocations = History.refusals history
  /-- They do not leave the words while the requests are fewer than the words. -/
  counters_le : b.allocations + b.failedAllocations ≤ history.length

/-- How a request is decided by a heap that has this history. -/
structure Decided (history : History) (b : Bump) (size : Int32)
    (answer : Except HeapError Handle) : Prop where
  /-- What counts is the least multiple of the granule that holds the request. -/
  rounded_isLeast :
    IsLeast {bytes : Nat | granuleBytes ∣ bytes ∧ size.toInt ≤ bytes} (roundUp size)
  granted_iff : (∃ handle, answer = .ok handle) ↔ 0 ≤ size ∧ roundUp size ≤ b.remaining
  offset_eq : ∀ {handle}, answer = .ok handle →
    handle.offset = totalBytes (History.blocks history)
  negative_iff : answer = .error (.invalidSize size) ↔ size < 0
  outOfMemory : ∀ {requested remaining}, answer = .error (.outOfMemory requested remaining) →
    requested = roundUp size ∧ remaining = b.remaining
  /-- There is no other way to be refused. -/
  refused : ∀ {cause}, answer = .error cause →
    cause = .invalidSize size ∨ cause = .outOfMemory (roundUp size) b.remaining

/-- Numbers that agree with the history lay the heap out as they should. -/
theorem Bump.Accounts.laidOut {history : History} {b : Bump} (h : b.Accounts history) :
    LaidOut b.region.size history b where
  used_granular := h.granular
  used_le := h.within
  used_add_remaining := Nat.add_sub_cancel' h.within
  offset_eq heq := by
    have htiles := h.tiled
    rw [heq] at htiles
    rw [htiles.offset_eq, Nat.zero_add]
  aligned := by
    apply h.tiled.aligned (Nat.dvd_zero _)
    intro k hk
    exact History.granuleBytes_dvd_of_mem_blocks hk
  apart := h.tiled.apart
  inside k hk := Nat.le_trans (h.tiled.within k hk).2 h.within
  covers x := by
    have := h.tiled.covers x
    rwa [and_iff_right (Nat.zero_le x)] at this
  allocations_eq := h.allocations_eq
  failedAllocations_eq := h.failedAllocations_eq
  counters_le := by
    rw [h.allocations_eq, h.failedAllocations_eq]
    exact History.blocks_add_refusals_le history

/-- A heap whose numbers agree with its history decides as it should. -/
theorem Bump.Accounts.decided {history : History} {b : Bump} (h : b.Accounts history)
    (size : Int32) : Decided history b size (b.allocate size).answer := by
  have hcursor : b.cursor = totalBytes (History.blocks history) := by
    rw [h.tiled.stop_eq, Nat.zero_add]
  obtain ⟨hneg, hr⟩ | ⟨hpos, hfull, hr⟩ | ⟨hpos, hfits, hr⟩ := b.allocate_cases size <;> rw [hr]
  · have hnot : ¬ 0 ≤ size := Int32.not_le.mpr hneg
    refine ⟨roundUp_isLeast size, ?_, ?_, ?_, ?_, ?_⟩ <;> simp [hneg, hnot]
  · have hnot : ¬ size < 0 := Int32.not_lt.mpr hpos
    refine ⟨roundUp_isLeast size, ?_, ?_, ?_, ?_, ?_⟩ <;>
      simp [Bump.refuse, hnot, Nat.not_le.mpr hfull]
  · have hnot : ¬ size < 0 := Int32.not_lt.mpr hpos
    refine ⟨roundUp_isLeast size, ?_, ?_, ?_, ?_, ?_⟩ <;>
      simp [Bump.grant, hpos, hfits, hnot, hcursor]

/-- **The law of a run.** A heap of any capacity that could be reserved has served any requests.
Then it is laid out as its history says, there is one answer for each request in order, and each
request was decided by what was left at its turn. -/
theorem serve_law {host : Host} {capacity : Nat} {b : Bump}
    (hb : Bump.withCapacity host capacity = .ok b) (sizes : List Int32) :
    LaidOut capacity (b.serve sizes).1 (b.serve sizes).2 ∧
    (b.serve sizes).1.map Prod.fst = sizes ∧
    ∀ done size rest, sizes = done ++ size :: rest →
      ∃ answer later, (b.serve sizes).1 = (b.serve done).1 ++ (size, answer) :: later ∧
        Decided (b.serve done).1 (b.serve done).2 size answer := by
  obtain ⟨r, rfl, rfl⟩ := Bump.withCapacity_eq_ok hb
  have hserve := fun sizes => (Bump.Accounts.ofRegion r).serve sizes
  refine ⟨?_, Bump.serve_sizes _ sizes, ?_⟩
  · have hlaid := (hserve sizes).laidOut
    rwa [Bump.serve_region] at hlaid
  · rintro done size rest rfl
    have heq := congrArg Prod.fst (Bump.serve_append (Bump.ofRegion r) done (size :: rest))
    rw [Bump.serve_cons] at heq
    exact ⟨_, _, heq, (hserve done).decided size⟩

/-- A capacity that is no multiple of the granule, with grants, a negative size, a request for
nothing and a request that does not fit. -/
theorem serve_law_ten :
    ∃ b, Bump.withCapacity Host.ample 10 = .ok b ∧
      LaidOut 10 (b.serve [3, -1, 0, 4, 1]).1 (b.serve [3, -1, 0, 4, 1]).2 ∧
      (b.serve [3, -1, 0, 4, 1]).1 = [(3, .ok ⟨0⟩), (-1, .error (.invalidSize (-1))), (0, .ok ⟨4⟩),
        (4, .ok ⟨4⟩), (1, .error (.outOfMemory 4 2))] :=
  ⟨_, rfl, (@serve_law Host.ample 10 _ rfl [3, -1, 0, 4, 1]).1, rfl⟩

end VmSupport.Heap
