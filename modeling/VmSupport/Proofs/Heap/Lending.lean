import VmSupport.Heap.Contents
import VmSupport.Proofs.Heap.BumpRun

/-!
# Blocks that are written to

A heap lends blocks of its region, and those who got them write to them. The heap never looks at the
memory: what it does decides who may write where, and what is written decides what is read.

**A lender** is a heap of any kind, as far as this matters: it acts, and it tells which block a call
was granted. It keeps its blocks apart (`Lender.Keeps`) if no action takes a block back or moves it,
the blocks lie in the region, and no two of them overlap.

**The law** (`Lender.Keeps.isolates`): whatever a lender that keeps its blocks apart does, and
whatever is written to its blocks in the meantime, each write succeeds and stays in the region, and
what is read from a block is what was written to it, on top of what was there before. Nothing that
is done elsewhere has an influence on it.

A write begins at the beginning of its block and is no longer than the block. It may be shorter, and
then the rest of the block stays as it is (`overlay`).
-/

namespace VmSupport.Heap

/-! ## Reading what was written -/

/-- Bytes written on top of others from the beginning on. -/
def overlay (old : List UInt8) (bytes : Array UInt8) : List UInt8 :=
  bytes.toList ++ old.drop bytes.size

namespace Contents

/-- What is read where something was written that is no longer. -/
theorem read_write_same (m : Contents) (start : Nat) {len : Nat} {bytes : Array UInt8}
    (h : bytes.size ≤ len) :
    (m.write start bytes).read start len = overlay (m.read start len) bytes := by
  apply List.ext_getElem
  · simp only [read, overlay, List.length_map, List.length_range, List.length_append,
      List.length_drop, Array.length_toList]
    omega
  · intro i hi _
    have hstart : start + i - start = i := Nat.add_sub_cancel_left start i
    simp only [read, overlay, write, List.getElem_map, List.getElem_range, List.getElem_append,
      List.getElem_drop, Array.length_toList, Nat.le_add_right, if_true, hstart]
    split
    · next hlt => simp [hlt]
    · next hge =>
      have hnone : bytes[i]? = none := Array.getElem?_eq_none (Nat.le_of_not_lt hge)
      rw [hnone, Nat.add_sub_cancel' (Nat.le_of_not_lt hge)]
      rfl

/-- What is read beside what was written. -/
theorem read_write_apart (m : Contents) {start other len : Nat} {bytes : Array UInt8}
    (h : start + bytes.size ≤ other ∨ other + len ≤ start) :
    (m.write start bytes).read other len = m.read other len := by
  apply List.map_congr_left
  intro i hi
  have hlt := List.mem_range.mp hi
  obtain hbeyond | hbelow := h
  · exact m.write_beyond bytes (by omega)
  · exact m.write_below bytes (by omega)

end Contents

/-! ## Lenders -/

/-- A heap that lends blocks of a region: what it does, and which block a call was granted by
then. -/
structure Lender (State Act Call : Type) where
  region : State → Region
  act : State → Act → State
  block? : State → Call → Option Block

/-- What happens on a heap and in its memory: the heap acts, or someone writes to the block that a
call was granted. -/
inductive Use (Act Call : Type) where
  | act (action : Act)
  | write (call : Call) (bytes : Array UInt8)

/-- What was written to the block of this call, in the order in which it was written. -/
def writesTo {Act Call : Type} [DecidableEq Call] (call : Call) (uses : List (Use Act Call)) :
    List (Array UInt8) :=
  uses.filterMap fun
    | .act _ => none
    | .write c bytes => if c = call then some bytes else none

/-- The blocks do not overlap. Blocks of no bytes may lie anywhere. -/
def Block.Apart (k j : Block) : Prop :=
  k.limit ≤ j.offset ∨ j.limit ≤ k.offset

namespace Lender

variable {State Act Call : Type}

/-- One use. A write goes through the handle of the block, and fails if there is no such block. -/
def use? (L : Lender State Act Call) (s : State) (m : Contents) :
    Use Act Call → Option (State × Contents)
  | .act a => some (L.act s a, m)
  | .write call bytes =>
    (L.block? s call).bind fun k => ((L.region s).write? m ⟨k.offset⟩ bytes).map (s, ·)

/-- Uses one after another. -/
def run? (L : Lender State Act Call) (s : State) (m : Contents) :
    List (Use Act Call) → Option (State × Contents)
  | [] => some (s, m)
  | u :: uses => (L.use? s m u).bind fun next => L.run? next.1 next.2 uses

/-- Whoever writes has got a block by then, and writes no more than it holds. -/
def Proper (L : Lender State Act Call) (s : State) : List (Use Act Call) → Prop
  | [] => True
  | .act a :: uses => L.Proper (L.act s a) uses
  | .write call bytes :: uses =>
    (∃ k, L.block? s call = some k ∧ bytes.size ≤ k.bytes) ∧ L.Proper s uses

/-- The lender keeps its blocks apart, in all states that are good. -/
structure Keeps (L : Lender State Act Call) (Good : State → Prop) : Prop where
  act : ∀ {s}, Good s → ∀ a, Good (L.act s a)
  region_act : ∀ {s}, Good s → ∀ a, L.region (L.act s a) = L.region s
  block?_act : ∀ {s}, Good s → ∀ a {call k}, L.block? s call = some k →
    L.block? (L.act s a) call = some k
  inside : ∀ {s}, Good s → ∀ {call k}, L.block? s call = some k → k.limit ≤ (L.region s).size
  apart : ∀ {s}, Good s → ∀ {call call' k j}, L.block? s call = some k →
    L.block? s call' = some j → call ≠ call' → k.Apart j

/-- **Writes are isolated**: what is true of the heap `s'` and the memory `m'` at the end of uses
that began with `s` and `m`. -/
structure Isolated [DecidableEq Call] (L : Lender State Act Call) (s : State) (m : Contents)
    (uses : List (Use Act Call)) (s' : State) (m' : Contents) : Prop where
  region_eq : L.region s' = L.region s
  /-- No block is taken back or moved. -/
  block?_kept : ∀ {call k}, L.block? s call = some k → L.block? s' call = some k
  /-- Each granted handle can be turned into an address. -/
  pointer : ∀ {call k}, L.block? s' call = some k →
    (L.region s').pointer? ⟨k.offset⟩ = some ((L.region s').base + k.offset)
  /-- Each write stayed in its block, and so in the region. -/
  inside : ∀ {call bytes}, .write call bytes ∈ uses →
    ∃ k, L.block? s' call = some k ∧ bytes.size ≤ k.bytes ∧ k.limit ≤ (L.region s').size
  /-- The memory around the region stays as it was. -/
  outside : ∀ {a}, a < (L.region s').base ∨ (L.region s').limit ≤ a → m' a = m a
  /-- A block holds what was written to it, and what was there before where nothing was. -/
  readBack : ∀ {call k}, L.block? s' call = some k →
    (L.region s').read? m' ⟨k.offset⟩ k.bytes =
      some ((writesTo call uses).foldl overlay (m.read ((L.region s').base + k.offset) k.bytes))

/-- A block keeps its bytes as long as nobody writes to it, whatever else is done. -/
def Lasting [DecidableEq Call] (L : Lender State Act Call) (s : State) (m : Contents) : Prop :=
  ∀ {call k}, L.block? s call = some k → ∀ more, L.Proper s more → writesTo call more = [] →
    ∃ s' m', L.run? s m more = some (s', m') ∧
      (L.region s').read? m' ⟨k.offset⟩ k.bytes = (L.region s).read? m ⟨k.offset⟩ k.bytes

/-- From this state on, all proper uses run, and writes are isolated at any time. -/
def Isolates [DecidableEq Call] (L : Lender State Act Call) (s : State) : Prop :=
  ∀ m uses, L.Proper s uses →
    ∃ s' m', L.run? s m uses = some (s', m') ∧ L.Isolated s m uses s' m' ∧ L.Lasting s' m'

/-! ## The law -/

section

variable {L : Lender State Act Call} {Good : State → Prop} {s : State} {m : Contents}

/-- Each handle of a good state can be turned into an address. -/
theorem Keeps.pointer? (K : L.Keeps Good) (hs : Good s) {call : Call} {k : Block}
    (hk : L.block? s call = some k) :
    (L.region s).pointer? ⟨k.offset⟩ = some ((L.region s).base + k.offset) := by
  have hinside := K.inside hs hk
  have hcontains : (L.region s).contains ⟨k.offset⟩ = true :=
    decide_eq_true (Nat.le_trans (Nat.le_add_right k.offset k.bytes) hinside)
  rw [Region.pointer?, if_pos hcontains]

/-- A write to a block that was granted succeeds. -/
theorem Keeps.use?_write (K : L.Keeps Good) (hs : Good s) {call : Call} {k : Block}
    (hk : L.block? s call = some k) (m : Contents) (bytes : Array UInt8) :
    L.use? s m (.write call bytes) =
      some (s, m.write ((L.region s).base + k.offset) bytes) := by
  rw [use?, hk, Option.bind_some, Region.write?, K.pointer? hs hk]
  rfl

variable [DecidableEq Call]

/-- Where nothing is done, nothing changes. -/
theorem Keeps.isolated_nil (K : L.Keeps Good) (hs : Good s) : L.Isolated s m [] s m where
  region_eq := rfl
  block?_kept hk := hk
  pointer hk := K.pointer? hs hk
  inside hw := by cases hw
  outside _ := rfl
  readBack hk := by
    rw [Region.read?, K.pointer? hs hk]
    rfl

/-- An action of the heap before other uses. -/
theorem Keeps.isolated_act (K : L.Keeps Good) (hs : Good s) {a : Act}
    {uses : List (Use Act Call)} {s' : State} {m' : Contents}
    (h : L.Isolated (L.act s a) m uses s' m') : L.Isolated s m (.act a :: uses) s' m' where
  region_eq := h.region_eq.trans (K.region_act hs a)
  block?_kept hk := h.block?_kept (K.block?_act hs a hk)
  pointer := h.pointer
  inside hw := by
    obtain hhead | htail := List.mem_cons.mp hw
    · cases hhead
    · exact h.inside htail
  outside := h.outside
  readBack := h.readBack

/-- A write before other uses. -/
theorem Keeps.isolated_write (K : L.Keeps Good) (hs : Good s) {call : Call} {k : Block}
    {bytes : Array UInt8} (hk : L.block? s call = some k) (hfits : bytes.size ≤ k.bytes)
    {uses : List (Use Act Call)} {s' : State} {m' : Contents} (hs' : Good s')
    (h : L.Isolated s (m.write ((L.region s).base + k.offset) bytes) uses s' m') :
    L.Isolated s m (.write call bytes :: uses) s' m' where
  region_eq := h.region_eq
  block?_kept := h.block?_kept
  pointer := h.pointer
  inside hw := by
    obtain hhead | htail := List.mem_cons.mp hw
    · cases hhead
      exact ⟨k, h.block?_kept hk, hfits, K.inside hs' (h.block?_kept hk)⟩
    · exact h.inside htail
  outside := by
    intro a ha
    have hinside := K.inside hs hk
    rw [h.outside ha]
    rw [h.region_eq] at ha
    simp only [Region.limit, Block.limit] at ha hinside
    obtain hbelow | hbeyond := ha
    · exact m.write_below bytes (by omega)
    · exact m.write_beyond bytes (by omega)
  readBack := by
    intro call' j hj
    rw [h.readBack hj, h.region_eq]
    by_cases hsame : call = call'
    · subst hsame
      obtain rfl : k = j := Option.some.inj ((h.block?_kept hk).symm.trans hj)
      rw [m.read_write_same _ hfits]
      simp only [writesTo, List.filterMap_cons, if_true, List.foldl_cons]
    · -- the other block may be granted only afterwards, so it is the last state that keeps them apart
      have hapart := K.apart hs' (h.block?_kept hk) hj hsame
      simp only [Block.Apart, Block.limit] at hapart
      rw [m.read_write_apart (by omega)]
      simp only [writesTo, List.filterMap_cons, if_neg hsame]

/-- **Any uses** of a lender that keeps its blocks apart. -/
theorem Keeps.isolated (K : L.Keeps Good) (hs : Good s) (m : Contents)
    {uses : List (Use Act Call)} (hproper : L.Proper s uses) :
    ∃ s' m', L.run? s m uses = some (s', m') ∧ Good s' ∧ L.Isolated s m uses s' m' := by
  -- from the front: the later uses begin with the memory that the first one leaves
  induction uses generalizing s m with
  | nil => exact ⟨s, m, rfl, hs, K.isolated_nil hs⟩
  | cons u uses ih =>
    cases u with
    | act a =>
      obtain ⟨s', m', hrun, hs', h⟩ := ih (K.act hs a) m hproper
      exact ⟨s', m', hrun, hs', K.isolated_act hs h⟩
    | write call bytes =>
      obtain ⟨⟨k, hk, hfits⟩, hrest⟩ := hproper
      obtain ⟨s', m', hrun, hs', h⟩ := ih hs (m.write ((L.region s).base + k.offset) bytes) hrest
      refine ⟨s', m', ?_, hs', K.isolated_write hs hk hfits hs' h⟩
      rw [run?, K.use?_write hs hk]
      exact hrun

/-- A block that nobody writes to keeps its bytes. -/
theorem Keeps.lasting (K : L.Keeps Good) (hs : Good s) (m : Contents) : L.Lasting s m := by
  intro call k hk more hproper hnone
  obtain ⟨s', m', hrun, -, h⟩ := K.isolated hs m hproper
  refine ⟨s', m', hrun, ?_⟩
  rw [h.readBack (h.block?_kept hk), hnone, h.region_eq, Region.read?, K.pointer? hs hk]
  rfl

/-- **Writes to the blocks of a lender that keeps them apart are isolated.** -/
theorem Keeps.isolates (K : L.Keeps Good) (hs : Good s) : L.Isolates s := by
  intro m uses hproper
  obtain ⟨s', m', hrun, hs', h⟩ := K.isolated hs m hproper
  exact ⟨s', m', hrun, h, K.lasting hs' m'⟩

end

end Lender

end VmSupport.Heap
