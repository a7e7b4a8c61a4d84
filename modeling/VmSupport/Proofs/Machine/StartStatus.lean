import VmSupport.Proofs.Machine.CallEnds
import VmSupport.Proofs.Machine.LastStatus
import VmSupport.Proofs.Settings.Discovery

/-!
# The status of a start with a capacity

A start with a capacity can go wrong in several ways at once: the environment may be unusable, the
capacity may be no multiple of the granule, there may be a heap already, and the region may not be
had. One status is answered, so the causes have an order: the environment, the capacity, the heap,
the region (`StartStatus`).

**The law** (`start_decided`): the start answers and records the first cause that applies, and then
leaves the heap as it was; where no cause applies, it puts a fresh heap of just the wanted capacity
in place. A complaint about the environment or the capacity comes before the log is touched. Without
a capacity of its own the start is the one with the settings that are found, if no settings file is
around and the environment is usable.

All this is so but for one case: if the start comes to install the log, and the filter in the
environment faults as it is read, the process ends.
-/

namespace VmSupport

open Heap (HeapError Region Shared)
open Settings (Overrides)

/-! ## What is said about a start -/

/-- The capacity that a start wants: its own, or if that is zero, that of the environment, or if
there is none, the default one. -/
def WantedCapacity (w : Surroundings) (capacity wanted : Nat) : Prop :=
  if capacity = 0 then
    Settings.Takes w.environment Settings.sizeVariable Settings.readCapacity
      Settings.defaultCapacity wanted
  else
    wanted = capacity

/-- The default settings can be overridden from the environment. -/
def Surroundings.Usable (w : Surroundings) : Prop :=
  ∃ s, Overrides w.environment {} s

/-- **The status of a start with a capacity**, by the first cause that applies. -/
inductive StartStatus (w : Surroundings) (m : Machine) (capacity : Nat) : Status → Prop
  | config (hunusable : ¬ w.Usable) : StartStatus w m capacity .configError
  | notGranular (husable : w.Usable) (hcapacity : ¬ Settings.capacityGranule ∣ capacity) :
    StartStatus w m capacity .invalidCapacity
  | again (husable : w.Usable) (hcapacity : Settings.capacityGranule ∣ capacity)
    (hheap : m.heap.isSome = true) : StartStatus w m capacity .alreadyInitialized
  | reserved {wanted : Nat} (husable : w.Usable) (hcapacity : Settings.capacityGranule ∣ capacity)
    (hheap : m.heap = none) (hwanted : WantedCapacity w capacity wanted) :
    StartStatus w m capacity (.ofResult (Region.reserve w.host wanted))

/-- **What a start with a capacity did** that answered this status. -/
structure StartVerdict (w : Surroundings) (thread capacity : Nat) (m : Machine) (status : Status)
    (m' : Machine) : Prop where
  /-- It is the status of the first cause, and no other. -/
  status_iff : ∀ s, StartStatus w m capacity s ↔ s = status
  /-- It is recorded for the thread that made the call. -/
  recorded : m'.statuses = (m.record thread status).statuses
  /-- A start that fails leaves the heap as it was. -/
  kept : status ≠ .ok → m'.heap = m.heap ∧ m'.heapUsed = m.heapUsed ∧ m'.stats = m.stats
  /-- A complaint about the environment or the capacity does not install the log. -/
  unlogged : ¬ w.Usable ∨ ¬ Settings.capacityGranule ∣ capacity →
    m'.logger.isInstalled = m.logger.isInstalled
  /-- A start that succeeds puts a fresh heap of the wanted capacity in place. -/
  opened : status = .ok → ∃ h, m'.heap = some h ∧ WantedCapacity w capacity h.region.size ∧
    h.used = 0

/-- No directory of a place has a settings file. -/
def Files.Place.HasNoSettings (place : Files.Place) : Prop :=
  ∀ dir ∈ place, dir.2.child? Settings.fileName = none

/-- **A start with a capacity is decided** by the first cause that applies, and one without a
capacity is the start with the settings that are found, where no file is found. -/
structure StartDecided (w : Surroundings) (thread capacity : Nat) (m : Machine) : Prop where
  verdict : ∃ status m', m.call w thread (.start capacity) = (.returned (.status status), m') ∧
    StartVerdict w thread capacity m status m'
  sameAsDefault : w.current.HasNoSettings → w.Usable →
    m.call w thread (.start 0) = m.call w thread .startDefault

/-- The start comes to install the log, and the filter faults. -/
structure FilterEndsStart (w : Surroundings) (capacity : Nat) (m : Machine) : Prop where
  usable : w.Usable
  granular : Settings.capacityGranule ∣ capacity
  notInstalled : m.logger.isInstalled = false
  faults : Machine.LogFaults w

/-! ## One status -/

section

variable {w : Surroundings} {m : Machine} {capacity : Nat}

/-- There is one capacity that a start wants. -/
theorem WantedCapacity.unique {wanted wanted' : Nat} (h : WantedCapacity w capacity wanted)
    (h' : WantedCapacity w capacity wanted') : wanted = wanted' := by
  unfold WantedCapacity Settings.Takes at h h'
  split at h
  · next hzero =>
    rw [if_pos hzero] at h'
    split at h
    · next hkey =>
      rw [hkey] at h'
      exact h.trans h'.symm
    · next hkey =>
      rw [hkey] at h'
      exact Except.ok.inj (h.symm.trans h')
  · next hzero =>
    rw [if_neg hzero] at h'
    exact h.trans h'.symm

/-- There is one first cause. -/
theorem StartStatus.unique {s s' : Status} (h : StartStatus w m capacity s)
    (h' : StartStatus w m capacity s') : s = s' := by
  cases h with
  | config hunusable =>
    cases h' with
    | config _ => rfl
    | notGranular husable _ | again husable _ _ | reserved husable _ _ _ =>
      exact absurd husable hunusable
  | notGranular husable hcapacity =>
    cases h' with
    | config hunusable => exact absurd husable hunusable
    | notGranular _ _ => rfl
    | again _ hdvd _ | reserved _ hdvd _ _ => exact absurd hdvd hcapacity
  | again husable hcapacity hheap =>
    cases h' with
    | config hunusable => exact absurd husable hunusable
    | notGranular _ hnot => exact absurd hcapacity hnot
    | again _ _ _ => rfl
    | reserved _ _ hnone _ =>
      rw [hnone] at hheap
      cases hheap
  | reserved husable hcapacity hnone hwanted =>
    cases h' with
    | config hunusable => exact absurd husable hunusable
    | notGranular _ hnot => exact absurd hcapacity hnot
    | again _ _ hheap =>
      rw [hnone] at hheap
      cases hheap
    | reserved _ _ _ hwanted' => rw [hwanted.unique hwanted']

/-- So a status that is that of the first cause is the only one. -/
theorem StartStatus.iff_eq {status : Status} (h : StartStatus w m capacity status) (s : Status) :
    StartStatus w m capacity s ↔ s = status :=
  ⟨fun hs => hs.unique h, fun heq => heq ▸ h⟩

end

/-! ## The settings of a start -/

namespace Machine

variable {w : Surroundings} {thread capacity : Nat} {m : Machine}

theorem startSettings_of_unusable (h : ¬ w.Usable) (capacity : Nat) :
    ∃ cause, startSettings w capacity = .error (.configError, cause) := by
  unfold startSettings
  cases hs : Settings.override w.environment {} with
  | error r => exact ⟨_, rfl⟩
  | ok s => exact absurd ⟨s, Settings.override_eq_ok_iff.mp hs⟩ h

theorem startSettings_of_not_dvd (h : w.Usable) (hdvd : ¬ Settings.capacityGranule ∣ capacity) :
    ∃ cause, startSettings w capacity = .error (.invalidCapacity, cause) := by
  obtain ⟨s, hs⟩ := h
  have hzero : capacity ≠ 0 := by
    rintro rfl
    exact hdvd (Nat.dvd_zero _)
  unfold startSettings
  rw [Settings.override_eq_ok_iff.mpr hs]
  simp only [if_neg hzero]
  cases hr : ({ s with capacity } : Settings).rejection? with
  | some r => exact ⟨_, rfl⟩
  | none =>
    obtain ⟨-, hmod⟩ := (Settings.rejection?_eq_none_iff _).mp hr
    exact absurd (Nat.dvd_of_mod_eq_zero hmod) hdvd

theorem startSettings_of_dvd (h : w.Usable) (hdvd : Settings.capacityGranule ∣ capacity) :
    ∃ s, startSettings w capacity = .ok s ∧ WantedCapacity w capacity s.capacity := by
  obtain ⟨s, hs⟩ := h
  unfold startSettings WantedCapacity
  rw [Settings.override_eq_ok_iff.mpr hs]
  by_cases hzero : capacity = 0
  · simp only [if_pos hzero]
    exact ⟨s, rfl, hs.capacity⟩
  · have husable : ({ s with capacity } : Settings).rejection? = none :=
      (Settings.rejection?_eq_none_iff _).mpr
        ⟨Nat.pos_of_ne_zero hzero, Nat.mod_eq_zero_of_dvd hdvd⟩
    simp only [if_neg hzero, husable]
    exact ⟨_, rfl, rfl⟩

/-! ## A start with settings -/

theorem record_statuses_congr {m' : Machine} (h : m'.statuses = m.statuses) (status : Status) :
    (m'.record thread status).statuses = (m.record thread status).statuses := by
  simp only [record, h]

/-- What depends on the heap alone stays as the heap does. -/
theorem kept_of_heap {m' : Machine} (h : m'.heap = m.heap) :
    m'.heap = m.heap ∧ m'.heapUsed = m.heapUsed ∧ m'.stats = m.stats := by
  refine ⟨h, ?_, ?_⟩
  · unfold heapUsed
    rw [h]
  · unfold stats
    rw [h]

/-- The log is installed where it was before, and where the filter does not fault. -/
theorem exists_installLog (h : m.logger.isInstalled = true ∨ ¬ LogFaults w) (held : Bool)
    (log : LogSettings) : ∃ b m₁, installLog w held log m = .ok (b, m₁) := by
  cases hlog : installLog w held log m with
  | ok r => exact ⟨r.1, r.2, rfl⟩
  | error fault =>
    obtain hinstalled | hnot := h
    · rw [installLog, if_pos hinstalled] at hlog
      cases hlog
    · exact absurd (logFaults_of_installLog hlog) hnot

/-- Where no heap can be put in place, the start says why and leaves the place as it is. -/
theorem start_of_error {s : Settings} {b : Bool} {m₁ : Machine} {e : HeapError}
    (hlog : installLog w true s.log m = .ok (b, m₁))
    (hinit : init w s.capacity m₁ = (.error e, m₁)) (thread : Nat) :
    ∃ m', start w thread s m = (.returned (.ofHeapError e), m') ∧ m'.heap = m.heap ∧
      m'.statuses = (m.record thread (.ofHeapError e)).statuses := by
  have hheap : m₁.heap = m.heap := Frame.installLog_heap hlog
  refine ⟨(m₁.refuseStart thread (.ofHeapError e) e.message).2, ?_, hheap,
    record_statuses_congr (installLog_statuses hlog) _⟩
  rw [start, bootstrap, hlog]
  simp only [hinit]
  rfl

/-- Where there is a heap, a start is refused. -/
theorem start_of_present {s : Settings} {b : Bool} {m₁ : Machine}
    (hlog : installLog w true s.log m = .ok (b, m₁)) (hheap : m.heap.isSome = true) (thread : Nat) :
    ∃ m', start w thread s m = (.returned .alreadyInitialized, m') ∧ m'.heap = m.heap ∧
      m'.statuses = (m.record thread .alreadyInitialized).statuses := by
  obtain ⟨h, hh⟩ := Option.isSome_iff_exists.mp hheap
  have hinit : init w s.capacity m₁ = (.error .alreadyInitialized, m₁) := by
    rw [init, Frame.installLog_heap hlog, hh]
  exact start_of_error hlog hinit thread

/-- Where there is none, it comes to what reserving the region comes to. -/
theorem start_of_absent {s : Settings} {b : Bool} {m₁ : Machine}
    (hlog : installLog w true s.log m = .ok (b, m₁)) (hheap : m.heap = none) (thread : Nat) :
    let reserved := Region.reserve w.host s.capacity
    ∃ m', start w thread s m = (.returned (.ofResult reserved), m') ∧
      m'.heap = reserved.toOption.map Shared.ofRegion ∧
      m'.statuses = (m.record thread (.ofResult reserved)).statuses := by
  intro reserved
  have hm₁ : m₁.heap = none := (Frame.installLog_heap hlog).trans hheap
  cases hr : Region.reserve w.host s.capacity with
  | error e =>
    have hinit : init w s.capacity m₁ = (.error e, m₁) := by
      simp only [init, hm₁, Shared.withCapacity, hr, Except.map]
    obtain ⟨m', hstart, hkept, hrecorded⟩ := start_of_error hlog hinit thread
    simp only [reserved, hr]
    exact ⟨m', hstart, hkept.trans hheap, hrecorded⟩
  | ok r =>
    obtain ⟨m₂, hinit, hopened, hstatuses⟩ : ∃ m₂, init w s.capacity m₁ = (.ok r.size, m₂) ∧
        m₂.heap = some (Shared.ofRegion r) ∧ m₂.statuses = m₁.statuses := by
      simp only [init, hm₁, Shared.withCapacity, hr, Except.map]
      exact ⟨_, rfl, rfl, rfl⟩
    simp only [reserved, hr]
    refine ⟨m₂.record thread .ok, ?_, hopened,
      record_statuses_congr (hstatuses.trans (installLog_statuses hlog)) _⟩
    rw [start, bootstrap, hlog]
    simp only [hinit]
    rfl

/-! ## A start with a capacity -/

/-- A complaint about the environment or the capacity. -/
theorem verdict_of_refused {status : Status} {cause : String}
    (hsettings : startSettings w capacity = .error (status, cause))
    (hstatus : StartStatus w m capacity status) (hne : status ≠ .ok) (thread : Nat) :
    ∃ m', m.call w thread (.start capacity) = (.returned (.status status), m') ∧
      StartVerdict w thread capacity m status m' := by
  refine ⟨(m.refuseStart thread status cause).2, ?_, ?_⟩
  · simp only [call, startWith, hsettings]
    rfl
  · exact
      { status_iff := hstatus.iff_eq
        recorded := rfl
        kept := fun _ => kept_of_heap rfl
        unlogged := fun _ => ((Reports.report m _).record thread status).isInstalled
        opened := fun h => absurd h hne }

/-- A start with settings answers as it should. -/
theorem verdict_of_started {s : Settings} (hsettings : startSettings w capacity = .ok s)
    (husable : w.Usable) (hcapacity : Settings.capacityGranule ∣ capacity)
    (hwanted : WantedCapacity w capacity s.capacity)
    (hlog : m.logger.isInstalled = true ∨ ¬ LogFaults w) (thread : Nat) :
    ∃ status m', m.call w thread (.start capacity) = (.returned (.status status), m') ∧
      StartVerdict w thread capacity m status m' := by
  obtain ⟨b, m₁, hinstall⟩ := exists_installLog hlog true s.log
  have hcall {status : Status} {m' : Machine}
      (hstart : start w thread s m = (.returned status, m')) :
      m.call w thread (.start capacity) = (.returned (.status status), m') := by
    simp only [call, startWith, hsettings, hstart]
    rfl
  have hunlogged (h : ¬ w.Usable ∨ ¬ Settings.capacityGranule ∣ capacity) : False :=
    h.elim (fun hnot => hnot husable) fun hnot => hnot hcapacity
  cases hheap : m.heap with
  | some h =>
    have hpresent : m.heap.isSome = true := by
      rw [hheap]
      rfl
    have hstatus : StartStatus w m capacity .alreadyInitialized :=
      .again husable hcapacity hpresent
    obtain ⟨m', hstart, hkept, hrecorded⟩ := start_of_present hinstall hpresent thread
    exact ⟨_, m', hcall hstart,
      { status_iff := hstatus.iff_eq
        recorded := hrecorded
        kept := fun _ => kept_of_heap hkept
        unlogged := fun h => (hunlogged h).elim
        opened := fun h => by cases h }⟩
  | none =>
    have hstatus := StartStatus.reserved husable hcapacity hheap hwanted
    obtain ⟨m', hstart, hplaced, hrecorded⟩ := start_of_absent hinstall hheap thread
    refine ⟨_, m', hcall hstart,
      { status_iff := hstatus.iff_eq
        recorded := hrecorded
        kept := fun hne => kept_of_heap ?_
        unlogged := fun h => (hunlogged h).elim
        opened := fun hok => ?_ }⟩
    · cases hr : Region.reserve w.host s.capacity with
      | error e =>
        rw [hplaced, hr, hheap]
        rfl
      | ok r =>
        rw [hr] at hne
        exact absurd rfl hne
    · cases hr : Region.reserve w.host s.capacity with
      | error e =>
        rw [hr] at hok
        exact absurd hok (Status.ofHeapError_ne_ok e)
      | ok r =>
        rw [hr] at hplaced
        refine ⟨Shared.ofRegion r, hplaced, ?_, rfl⟩
        rw [← Region.reserve_size hr] at hwanted
        exact hwanted

/-- **A start with a capacity answers as it should**, unless the filter ends it. -/
theorem exists_verdict (h : ¬ FilterEndsStart w capacity m) (thread : Nat) :
    ∃ status m', m.call w thread (.start capacity) = (.returned (.status status), m') ∧
      StartVerdict w thread capacity m status m' := by
  -- the log is touched only behind both checks
  by_cases husable : w.Usable
  · by_cases hcapacity : Settings.capacityGranule ∣ capacity
    · obtain ⟨s, hsettings, hwanted⟩ := startSettings_of_dvd husable hcapacity
      have hlog : m.logger.isInstalled = true ∨ ¬ LogFaults w := by
        by_contra hnot
        obtain ⟨hinstalled, hfaults⟩ := not_or.mp hnot
        exact h ⟨husable, hcapacity, (Bool.not_eq_true _).mp hinstalled, not_not.mp hfaults⟩
      exact verdict_of_started hsettings husable hcapacity hwanted hlog thread
    · obtain ⟨cause, hsettings⟩ := startSettings_of_not_dvd husable hcapacity
      exact ⟨_, verdict_of_refused hsettings (.notGranular husable hcapacity)
        (fun h => by cases h) thread⟩
  · obtain ⟨cause, hsettings⟩ := startSettings_of_unusable husable capacity
    exact ⟨_, verdict_of_refused hsettings (.config husable) (fun h => by cases h) thread⟩

/-- Where the filter ends the start, the process is aborted. -/
theorem call_of_filterEnds (h : FilterEndsStart w capacity m) (thread : Nat) :
    m.call w thread (.start capacity) = (.aborted, m) := by
  obtain ⟨s, hsettings, -⟩ := startSettings_of_dvd h.usable h.granular
  obtain ⟨-, hstart⟩ | ⟨hnot, -⟩ := start_ends (w := w) (fun _ => h.notInstalled) thread s
  · simp only [call, startWith, hsettings, hstart]
    rfl
  · exact absurd h.faults hnot

/-! ## The start with the settings that are found -/

/-- Where there are no files, there is nothing to find and nothing to report. -/
theorem searchUp_of_hasNoSettings {place : Files.Place} (h : place.HasNoSettings) :
    Settings.searchUp place = (none, []) := by
  induction place with
  | nil => rfl
  | cons dir up ih =>
    have hdir := h dir List.mem_cons_self
    rw [Settings.searchUp, hdir]
    exact ih fun d hd => h d (List.mem_cons_of_mem _ hd)

/-- So the settings are the default ones, overridden from the environment. -/
theorem start_eq_startDefault (hplace : w.current.HasNoSettings) (husable : w.Usable)
    (thread : Nat) (m : Machine) :
    m.call w thread (.start 0) = m.call w thread .startDefault := by
  obtain ⟨s, hs⟩ := husable
  have hoverride := Settings.override_eq_ok_iff.mpr hs
  have hsettings : startSettings w 0 = .ok s := by
    rw [startSettings, hoverride]
    rfl
  have hdiscover : discover w m = (s, m) := by
    simp only [discover, Settings.discover, searchUp_of_hasNoSettings hplace, Option.getD_none,
      Settings.tryOverride, hoverride]
    rfl
  simp only [call, startWith, startDefault, hsettings, hdiscover]

end Machine

/-! ## The law -/

/-- **A start with a capacity is decided by the first cause that applies**, in every process and any
surroundings, exactly if the filter does not end it. If it does, the process is aborted. -/
theorem start_decided (w : Surroundings) (thread capacity : Nat) (m : Machine) :
    (StartDecided w thread capacity m ↔ ¬ FilterEndsStart w capacity m) ∧
    (FilterEndsStart w capacity m → m.call w thread (.start capacity) = (.aborted, m)) ∧
    (w.current.HasNoSettings → w.Usable →
      m.call w thread (.start 0) = m.call w thread .startDefault) := by
  have hdefault (hplace : w.current.HasNoSettings) (husable : w.Usable) :=
    Machine.start_eq_startDefault hplace husable thread m
  refine ⟨⟨fun hdecided hends => ?_, fun h => ?_⟩, fun h => Machine.call_of_filterEnds h thread,
    hdefault⟩
  · obtain ⟨⟨status, m', hcall, -⟩, -⟩ := hdecided
    rw [Machine.call_of_filterEnds hends] at hcall
    cases hcall
  · exact ⟨Machine.exists_verdict h thread, hdefault⟩

/-- With a blank of two bytes in front of the filter, a start with 64 bytes on a fresh process does
not answer at all. -/
theorem not_startDecided_indented : ¬ StartDecided .indented 0 64 .fresh := by
  rintro ⟨⟨status, m', hcall, -⟩, -⟩
  have husable : Surroundings.indented.Usable :=
    ⟨{}, Settings.override_eq_ok_iff.mp rfl⟩
  rw [Machine.call_of_filterEnds ⟨husable, by decide, rfl, Machine.logFaults_indented⟩] at hcall
  cases hcall

end VmSupport
