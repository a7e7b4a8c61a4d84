import VmSupport.Proofs.Machine.CallActs

/-!
# What a process reports about one matter

Of all that a process reports, only the events about some matter may be of interest: a predicate on
events. `Machine.reported` picks them from the history of the process, and what was written can be
looked through in the same way.

**The law** (`Spares.start`): a start adds no event about a matter, neither to the history nor to what
is written, if the events with which starts report how they go are not about it.
-/

namespace VmSupport

open Heap (HeapError)
open Log (Act Event)

/-- The event is one with which a start reports how it goes. -/
def Log.Event.isAboutStart : Log.Event → Bool
  | .heapReserved .. | .initialized .. | .callRejected .. | .directiveIgnored _ => true
  | _ => false

namespace Machine

variable {w : Surroundings} {m m' m'' : Machine} {about : Event → Bool}

/-- What was reported about a matter so far. -/
def reported (about : Event → Bool) (m : Machine) : List Event :=
  (m.history.filterMap Act.event?).filter about

theorem reported_report (about : Event → Bool) (m : Machine) (e : Event) :
    (m.report e).reported about = m.reported about ++ [e].filter about := by
  simp only [reported, report, act, List.filterMap_append, List.filter_append]
  rfl

theorem reported_reportAll (about : Event → Bool) (m : Machine) (events : List Event) :
    (m.reportAll events).reported about = m.reported about ++ events.filter about := by
  induction events generalizing m with
  | nil => exact (List.append_nil _).symm
  | cons e events ih =>
    show ((m.report e).reportAll events).reported about = _
    rw [ih, reported_report, List.append_assoc, ← List.filter_append]
    rfl

/-- Between two states nothing about a matter was reported or written. -/
structure Spares (about : Event → Bool) (m m' : Machine) : Prop where
  reported : m'.reported about = m.reported about
  written : m'.logger.written.filter about = m.logger.written.filter about

namespace Spares

theorem refl (m : Machine) : Spares about m m :=
  ⟨rfl, rfl⟩

theorem trans (h : Spares about m m') (h' : Spares about m' m'') : Spares about m m'' :=
  ⟨h'.reported.trans h.reported, h'.written.trans h.written⟩

theorem record (h : Spares about m m') (thread : Nat) (status : Status) :
    Spares about m (m'.record thread status) :=
  ⟨h.reported, h.written⟩

theorem withHeap (h : Spares about m m') (heap : Heap.Shared) :
    Spares about m (m'.withHeap heap) :=
  ⟨h.reported, h.written⟩

/-- An event about something else. -/
theorem report {e : Event} (he : about e = false) (m : Machine) : Spares about m (m.report e) where
  reported := by
    rw [reported_report, List.filter_cons_of_neg (he ▸ Bool.false_ne_true), List.filter_nil,
      List.append_nil]
  written := by
    have hnone : [e].filter about = [] :=
      List.filter_cons_of_neg (he ▸ Bool.false_ne_true)
    show (m.logger.act (.event e)).written.filter about = _
    cases hreceiver : m.logger.receiver with
    | vacant => simp only [Log.Logger.act, hreceiver]
    | foreign => simp only [Log.Logger.act, hreceiver]
    | own sink =>
      simp only [Log.Logger.act, hreceiver]
      split
      · show (m.logger.written ++ [e]).filter about = _
        rw [List.filter_append, hnone, List.append_nil]
      · rfl

/-- What is no event. -/
theorem act {a : Act} (ha : a.event? = none) (m : Machine) : Spares about m (m.act a) where
  reported := by
    simp only [Machine.reported, Machine.act, List.filterMap_append, List.filterMap_cons, ha,
      List.filterMap_nil, List.append_nil]
  written := by
    show (m.logger.act a).written.filter about = _
    cases a with
    | event e => cases ha
    | occupy | install _ _ _ =>
      cases hreceiver : m.logger.receiver <;> simp only [Log.Logger.act, hreceiver]
    | flush =>
      cases hreceiver : m.logger.receiver with
      | vacant => simp only [Log.Logger.act, hreceiver]
      | foreign => simp only [Log.Logger.act, hreceiver]
      | own sink =>
        simp only [Log.Logger.act, hreceiver]
        split <;> rfl

theorem reportAll {events : List Event} (h : ∀ e ∈ events, about e = false) (m : Machine) :
    Spares about m (m.reportAll events) := by
  induction events generalizing m with
  | nil => exact refl m
  | cons e events ih =>
    obtain ⟨he, hrest⟩ := List.forall_mem_cons.mp h
    exact (report he m).trans (ih hrest _)

/-! ## Starts -/

section

variable (habout : ∀ e : Event, e.isAboutStart = true → about e = false)

include habout

theorem installLog {held b : Bool} {log : LogSettings}
    (h : installLog w held log m = .ok (b, m')) : Spares about m m' := by
  unfold Machine.installLog at h
  split at h
  · cases h
    exact refl m
  split at h
  · cases h
  · cases h
    refine (reportAll (fun e he => ?_) m).trans (act rfl _)
    obtain ⟨piece, -, rfl⟩ := List.mem_map.mp he
    exact habout _ rfl

theorem init (w : Surroundings) (capacity : Nat) (m : Machine) :
    Spares about m (init w capacity m).2 := by
  unfold Machine.init
  split
  · exact refl m
  split
  · exact refl m
  · next h _ =>
    have hplaced := (report (habout h.region.reserved rfl) m).withHeap h
    exact hplaced.trans (report (habout (.initialized h.region.base h.region.size) rfl) _)

theorem bootstrap {s : Settings} {r : Except HeapError Nat}
    (h : bootstrap w s m = .ok (r, m')) : Spares about m m' := by
  unfold Machine.bootstrap at h
  split at h
  · cases h
  · next m₁ hlog =>
    have hm' : (Machine.init w s.capacity m₁).2 = m' := congrArg Prod.snd (Except.ok.inj h)
    exact hm' ▸ (installLog habout hlog).trans (init habout w s.capacity m₁)

theorem refuseStart (thread : Nat) (status : Status) (cause : String) (m : Machine) :
    Spares about m (m.refuseStart thread status cause).2 :=
  (report (habout (.callRejected startName cause) rfl) m).record thread status

/-- **A start** adds nothing about another matter. -/
theorem start (w : Surroundings) (thread : Nat) (s : Settings) (m : Machine) :
    Spares about m (start w thread s m).2 := by
  unfold Machine.start
  split
  · exact refl m
  · next hboot => exact (bootstrap habout hboot).record thread .ok
  · next e m₁ hboot =>
    exact (bootstrap habout hboot).trans (refuseStart habout thread _ e.message m₁)

end

end Spares

end Machine

end VmSupport
