import VmSupport.Heap.Service
import VmSupport.Proofs.Heap.SharedSteps

/-!
# One step of a client on the shared heap

A client subtracts and adds on a cursor value of its own, which may be stale by then. Two things
keep this right. The value was one of the cursor's at an earlier moment, so it lies in the region;
and the cells only grow (`Shared.Grows`), so whatever was read from them is never more than they
hold now.

`past` stands for the values that the cursor has had. An errand is **sound** (`Errand.Sound`) when
each value in its hands is one of these, and when a look in progress has read no less than each
snapshot (`seen`) that the same client got before. A step keeps an errand sound
(`Errand.step_sound`) and makes the cells grow (`Errand.step_grows`), which in turn keeps all other
errands sound (`Errand.Sound.mono`).
-/

namespace VmSupport.Heap

/-! ## Cells that only grow -/

/-- The counts in a snapshot are no more than those in another. -/
structure Stats.Within (s s' : Stats) : Prop where
  used : s.used ≤ s'.used
  allocations : s.allocations ≤ s'.allocations
  failedAllocations : s.failedAllocations ≤ s'.failedAllocations

theorem Stats.Within.refl (s : Stats) : s.Within s :=
  ⟨Nat.le_refl _, Nat.le_refl _, Nat.le_refl _⟩

theorem Stats.Within.trans {s s' s'' : Stats} (h : s.Within s') (h' : s'.Within s'') :
    s.Within s'' :=
  ⟨Nat.le_trans h.used h'.used, Nat.le_trans h.allocations h'.allocations,
    Nat.le_trans h.failedAllocations h'.failedAllocations⟩

/-- The cells at one instant, as a snapshot. -/
def Shared.snapshot (h : Shared) : Stats :=
  { capacity := h.region.size, used := h.cursor, remaining := h.region.size - h.cursor
    allocations := h.allocations, failedAllocations := h.failedAllocations }

/-- The second state of the cells can come after the first. -/
structure Shared.Grows (h h' : Shared) : Prop where
  region_eq : h'.region = h.region
  within : h.snapshot.Within h'.snapshot

theorem Shared.Grows.refl (h : Shared) : h.Grows h :=
  ⟨rfl, .refl _⟩

theorem Shared.Grows.trans {h h' h'' : Shared} (hg : h.Grows h') (hg' : h'.Grows h'') :
    h.Grows h'' :=
  ⟨hg'.region_eq.trans hg.region_eq, hg.within.trans hg'.within⟩

/-! ## Requests -/

namespace Stage

/-- The value of the cursor that a request works on. -/
def held? : Stage → Option Nat
  | .check _ _ current | .exchange _ _ current _ | .countGrant _ current => some current
  | _ => none

variable {h h' : Shared} {size : Int32} {spurious : Bool} {stage stage' : Stage}

/-- A step of a request makes the cells grow. -/
theorem Moves.grows (hm : Moves h size spurious stage stage' h') : h.Grows h' := by
  refine ⟨hm.region_eq, hm.cursor_le, ?_, ?_⟩
  · cases hm with
    | countGrant hpos hle => exact Nat.le_succ _
    | _ => exact Nat.le_refl _
  · cases hm with
    | countRefusal hpos => exact Nat.le_succ _
    | _ => exact Nat.le_refl _

/-- A request gets the value that it works on from the cursor, or it had it before. -/
theorem Moves.held (hm : Moves h size spurious stage stage' h') {v : Nat}
    (hv : stage'.held? = some v) : stage.held? = some v ∨ v = h.cursor := by
  cases hm with
  | load hpos => exact .inr (Option.some.inj hv).symm
  | retry hpos hle hcause => exact .inr (Option.some.inj hv).symm
  | refuse hneg => cases hv
  | round hpos => cases hv
  | full hpos hle hfull => cases hv
  | countRefusal hpos => cases hv
  | countGrant hpos hle => cases hv
  | fits hpos hle hfits => exact .inl hv
  | claim hpos hfits => exact .inl hv
  | rest answer => exact .inl hv

end Stage

/-! ## Looks -/

/-- A reading shows that so many bytes of the capacity were used. -/
def Reading.Shows (capacity used : Nat) : Reading → Prop
  | .used bytes => bytes = used
  | .remaining bytes => used + bytes = capacity
  | .stats s => s.capacity = capacity ∧ s.used = used ∧ s.used + s.remaining = s.capacity

namespace Look

/-- What a look knows: the value of the cursor that it works on is one that the cursor has had, and
what it read is no more than the cells hold. A fault is nothing that can be known. -/
def Sound (past : Nat → Prop) (h : Shared) : Look → Prop
  | .start _ => True
  | .read _ used => past used ∧ used ≤ h.cursor
  | .grants used remaining => past used ∧ used ≤ h.cursor ∧ used + remaining = h.region.size
  | .refusals used remaining allocations =>
    past used ∧ used ≤ h.cursor ∧ used + remaining = h.region.size ∧ allocations ≤ h.allocations
  | .told reading =>
    (∃ used, past used ∧ reading.Shows h.region.size used) ∧
      ∀ s, reading = .stats s → s.Within h.snapshot
  | .faulted _ => False

/-- What a look has read so far is no less than what this snapshot shows. -/
def Follows (s : Stats) : Look → Prop
  | .read _ used | .grants used _ => s.used ≤ used
  | .refusals used _ allocations => s.used ≤ used ∧ s.allocations ≤ allocations
  | .told reading => ∀ s', reading = .stats s' → s.Within s'
  | _ => True

variable {past : Nat → Prop} {h h' : Shared} {l : Look}

/-- What a look knows stays true while the cells grow. -/
theorem Sound.mono (hl : l.Sound past h) (hg : h.Grows h') : l.Sound past h' := by
  have hregion := hg.region_eq
  have hused : h.cursor ≤ h'.cursor := hg.within.used
  have hallocations : h.allocations ≤ h'.allocations := hg.within.allocations
  cases l with
  | start view => trivial
  | read view used => exact ⟨hl.1, Nat.le_trans hl.2 hused⟩
  | grants used remaining =>
    obtain ⟨hpast, hle, hsum⟩ := hl
    exact ⟨hpast, Nat.le_trans hle hused, hregion ▸ hsum⟩
  | refusals used remaining allocations =>
    obtain ⟨hpast, hle, hsum, hcount⟩ := hl
    exact ⟨hpast, Nat.le_trans hle hused, hregion ▸ hsum, Nat.le_trans hcount hallocations⟩
  | told reading =>
    obtain ⟨hshows, hwithin⟩ := hl
    exact ⟨hregion ▸ hshows, fun s hs => (hwithin s hs).trans hg.within⟩
  | faulted f => exact hl

/-- **A step keeps a look sound.** In particular its subtraction does not fault. -/
theorem step_sound (hh : h.Sound) (hpast : past h.cursor) (hl : l.Sound past h) :
    (l.step h).Sound past h := by
  cases l with
  | start view => exact ⟨hpast, Nat.le_refl _⟩
  | read view used =>
    obtain ⟨hused, hle⟩ := hl
    have hfits : used ≤ h.region.size := Nat.le_trans hle hh.2
    have hsum : used + (h.region.size - used) = h.region.size := Nat.add_sub_cancel' hfits
    cases view with
    | used =>
      refine ⟨⟨used, hused, rfl⟩, ?_⟩
      intro s hs
      cases hs
    | remaining =>
      simp only [step, Fault.subtractWords_of_le hfits]
      refine ⟨⟨used, hused, hsum⟩, ?_⟩
      intro s hs
      cases hs
    | stats =>
      simp only [step, Fault.subtractWords_of_le hfits]
      exact ⟨hused, hle, hsum⟩
  | grants used remaining =>
    obtain ⟨hused, hle, hsum⟩ := hl
    exact ⟨hused, hle, hsum, Nat.le_refl _⟩
  | refusals used remaining allocations =>
    obtain ⟨hused, hle, hsum, hcount⟩ := hl
    refine ⟨⟨used, hused, rfl, rfl, hsum⟩, ?_⟩
    intro s hs
    cases hs
    exact ⟨hle, hcount, Nat.le_refl _⟩
  | told reading => exact hl
  | faulted f => exact hl.elim

/-- **A look never falls behind** a snapshot that was taken before it began. -/
theorem step_follows {s : Stats} (hs : s.Within h.snapshot) (hl : l.Follows s) :
    (l.step h).Follows s := by
  cases l with
  | start view => exact hs.used
  | read view used =>
    cases view with
    | used =>
      intro s' hs'
      cases hs'
    | remaining =>
      simp only [step]
      cases Fault.subtractWords h.region.size used with
      | error f => trivial
      | ok remaining =>
        intro s' hs'
        cases hs'
    | stats =>
      simp only [step]
      cases Fault.subtractWords h.region.size used with
      | error f => trivial
      | ok remaining => exact hl
  | grants used remaining => exact ⟨hl, hs.allocations⟩
  | refusals used remaining allocations =>
    intro s' hs'
    cases hs'
    exact ⟨hl.1, hl.2, hs.failedAllocations⟩
  | told reading => exact hl
  | faulted f => trivial

end Look

/-! ## Errands -/

namespace Result

/-- What a look told, if this is the result of one. -/
def reading? : Result → Option Reading
  | .reading r => some r
  | .answer _ => none

/-- The statistics, if this is the result of a look for them. -/
def snapshot? : Result → Option Stats
  | .reading (.stats s) => some s
  | _ => none

end Result

namespace Errand

/-- What a client knows in the middle of an errand, when it got these snapshots before. -/
def Sound (past : Nat → Prop) (seen : List Stats) (h : Shared) : Errand → Prop
  | .request stage =>
    (∃ size, stage.Sound h size) ∧ ∀ v, stage.held? = some v → past v
  | .look l => l.Sound past h ∧ ∀ s ∈ seen, l.Follows s

variable {past : Nat → Prop} {seen : List Stats} {h h' : Shared} {e : Errand}

theorem sound_ofTask (past : Nat → Prop) (seen : List Stats) (h : Shared) (task : Task) :
    (ofTask task).Sound past seen h := by
  cases task with
  | request size =>
    refine ⟨⟨size, rfl⟩, ?_⟩
    intro v hv
    cases hv
  | look view => exact ⟨trivial, fun _ _ => trivial⟩

/-- An errand stays sound while others work on the heap. -/
theorem Sound.mono (he : e.Sound past seen h) (hg : h.Grows h') : e.Sound past seen h' := by
  cases e with
  | request stage =>
    obtain ⟨⟨size, hstage⟩, hheld⟩ := he
    exact ⟨⟨size, hstage.mono hg.within.used hg.region_eq⟩, hheld⟩
  | look l => exact ⟨he.1.mono hg, he.2⟩

/-- What the result of a sound errand shows goes back to a value of the cursor, and a snapshot is no
more than the cells hold and no less than the snapshots before it. -/
theorem Sound.result {result : Result} (he : e.Sound past seen h) (hr : e.result? = some result) :
    (∀ reading, result.reading? = some reading →
      ∃ used, past used ∧ reading.Shows h.region.size used) ∧
    ∀ s, result.snapshot? = some s → s.Within h.snapshot ∧ ∀ s' ∈ seen, s'.Within s := by
  cases e with
  | request stage =>
    cases stage with
    | returned answer =>
      cases hr
      refine ⟨?_, ?_⟩
      · intro reading hreading
        cases hreading
      · intro s hs
        cases hs
    | _ => cases hr
  | look l =>
    cases l with
    | told told =>
      cases hr
      obtain ⟨⟨hshows, hwithin⟩, hfollows⟩ := he
      refine ⟨?_, ?_⟩
      · intro reading hreading
        cases hreading
        exact hshows
      · intro s hs
        cases told with
        | stats s' =>
          cases hs
          exact ⟨hwithin _ rfl, fun s' hs' => hfollows s' hs' _ rfl⟩
        | _ => cases hs
    | _ => cases hr

/-- A step makes the cells grow, and leaves them as they should be. -/
theorem step_grows (hh : h.Sound) (he : e.Sound past seen h) (spurious : Bool) :
    h.Grows (e.step h spurious).2.1 ∧ (e.step h spurious).2.1.Sound := by
  cases e with
  | request stage =>
    obtain ⟨⟨size, hstage⟩, -⟩ := he
    have hm := Stage.step_moves hh hstage spurious
    exact ⟨hm.grows, hm.heap_sound hh⟩
  | look l => exact ⟨.refl h, hh⟩

/-- **A step keeps an errand sound.** -/
theorem step_sound (hh : h.Sound) (hpast : past h.cursor)
    (hseen : ∀ s ∈ seen, s.Within h.snapshot) (he : e.Sound past seen h) (spurious : Bool) :
    (e.step h spurious).1.Sound past seen (e.step h spurious).2.1 := by
  cases e with
  | request stage =>
    obtain ⟨⟨size, hstage⟩, hheld⟩ := he
    have hm := Stage.step_moves hh hstage spurious
    refine ⟨⟨size, hm.sound hstage⟩, ?_⟩
    intro v hv
    obtain hold | rfl := hm.held hv
    · exact hheld v hold
    · exact hpast
  | look l =>
    obtain ⟨hl, hfollows⟩ := he
    exact ⟨Look.step_sound hh hpast hl, fun s hs => Look.step_follows (hseen s hs) (hfollows s hs)⟩

end Errand

end VmSupport.Heap
