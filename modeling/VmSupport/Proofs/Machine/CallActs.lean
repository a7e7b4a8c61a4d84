import VmSupport.Proofs.Log.Window
import VmSupport.Proofs.Machine.HeapLedger

/-!
# What a call does to the log

Everything that is done to the logger of a process goes through `Machine.act`, and is kept in the
history of the process. `Did m acts m'` says what was done between two states.

**The law** (`Machine.call_acts`): a call does one of four things to the log. It reports events; or
it starts the log, which offers the place of the receiver to the library's logger with the filter
for the settings of the call, and reports events before and after that; or it offers the place to a
foreign receiver; or it reports its last words and flushes. Only three calls flush: the one that is
there for it, the end from outside, and a division by zero, right before it ends the process.

Whether the library's logger was put in place is what the start of the log says
(`Machine.installLog_eq_true_iff`).
-/

namespace VmSupport

open Heap (Bump)
open Log (Act)

/-- Behind the check of the divisor there is no second one. -/
theorem Long.perform_ne_zeroDivisor (memory : Long.Memory) (c : Long.Call) :
    c.perform memory ≠ .zeroDivisor := by
  unfold Long.Call.perform
  split
  · split <;> exact fun h => by cases h
  all_goals exact fun h => by cases h

namespace Call

/-- The settings with which a call starts the log, unless it is refused before it comes to that. -/
def logSettings? (w : Surroundings) : Call → Option LogSettings
  | start capacity => (Machine.startSettings w capacity).toOption.map (·.log)
  | startDefault => some (Settings.discover w.current w.environment).1.log
  | bootstrap s => some s.log
  | installLog log => some log
  | _ => none

/-- The library holds the logger that the call installs; otherwise the caller does. -/
def holdsLog : Call → Bool
  | installLog _ => false
  | _ => true

/-- What a call that flushes reports before it does. -/
def lastWords? (m : Machine) : Call → Option (List Log.Event)
  | flushLog => some []
  | shutdown => some (m.heap.elim [] fun h => [.shuttingDown h.used h.allocations])
  | long memory c =>
    if c.hasZeroDivisor memory then some [.arithmeticFault c.name "division by zero"] else none
  | _ => none

end Call

namespace Machine

/-! ## Sound processes -/

/-- What is invariably true of a process while no call is under way: its heap is a bump heap. -/
def Sound (m : Machine) : Prop :=
  ∃ l : Ledger, l.Sound ∧ m.heap = l.heap.map Bump.shared

variable {w : Surroundings} {thread : Nat} {m m' m'' : Machine} {acts more : List Act}

theorem Sound.agrees (hm : m.Sound) (thread : Nat) : ∃ l, Ledger.Agrees thread m l := by
  obtain ⟨l, hl, hheap⟩ := hm
  exact ⟨⟨l.heap, m.statuses thread⟩, hheap, rfl, hl⟩

theorem sound_of_agrees {l : Ledger} (h : Ledger.Agrees thread m l) : m.Sound :=
  ⟨l, h.sound, h.heap⟩

theorem sound_fresh : Sound fresh :=
  sound_of_agrees (Ledger.agrees_fresh 0)

/-- A call that returns leaves a sound process behind. -/
theorem Sound.call (hm : m.Sound) {c : Call} {answer : Answer}
    (h : m.call w thread c = (.returned answer, m')) : m'.Sound := by
  obtain ⟨l, hl⟩ := hm.agrees thread
  exact sound_of_agrees (call_agrees hl h).2

/-! ## What was done -/

/-- Between two states of a process, this was done to the logger, and nothing else. -/
structure Did (m : Machine) (acts : List Act) (m' : Machine) : Prop where
  logger : m'.logger = m.logger.actAll acts
  history : m'.history = m.history ++ acts

namespace Did

theorem refl (m : Machine) : Did m [] m :=
  ⟨rfl, (List.append_nil _).symm⟩

theorem trans (h : Did m acts m') (h' : Did m' more m'') : Did m (acts ++ more) m'' where
  logger := by rw [Log.Logger.actAll_append, ← h.logger, h'.logger]
  history := by rw [h'.history, h.history, List.append_assoc]

theorem act (m : Machine) (a : Act) : Did m [a] (m.act a) :=
  ⟨rfl, rfl⟩

theorem reportAll (m : Machine) (events : List Log.Event) :
    Did m (events.map .event) (m.reportAll events) := by
  induction events generalizing m with
  | nil => exact refl m
  | cons e events ih => exact (act m (.event e)).trans (ih (m.report e))

theorem record (h : Did m acts m') (thread : Nat) (s : Status) :
    Did m acts (m'.record thread s) :=
  ⟨h.logger, h.history⟩

end Did

/-- Reports do not change a logger whose place is vacant. -/
theorem reportAll_logger (hvacant : m.logger.receiver = .vacant) (events : List Log.Event) :
    (m.reportAll events).logger = m.logger := by
  rw [(Did.reportAll m events).logger, Log.Logger.actAll_events_vacant hvacant]

/-- Between two states of a process, nothing but events was reported. -/
def Reports (m m' : Machine) : Prop :=
  ∃ events : List Log.Event, Did m (events.map .event) m'

namespace Reports

theorem refl (m : Machine) : Reports m m :=
  ⟨[], .refl m⟩

theorem report (m : Machine) (e : Log.Event) : Reports m (m.report e) :=
  ⟨[e], .act m (.event e)⟩

theorem trans (h : Reports m m') (h' : Reports m' m'') : Reports m m'' := by
  obtain ⟨events, hdid⟩ := h
  obtain ⟨more, hmore⟩ := h'
  exact ⟨events ++ more, by simpa only [List.map_append] using hdid.trans hmore⟩

theorem record (h : Reports m m') (thread : Nat) (s : Status) : Reports m (m'.record thread s) := by
  obtain ⟨events, hdid⟩ := h
  exact ⟨events, hdid.record thread s⟩

/-- Reports do not bring anybody to the place of the receiver. -/
theorem isInstalled (h : Reports m m') : m'.logger.isInstalled = m.logger.isInstalled := by
  obtain ⟨events, hdid⟩ := h
  rw [hdid.logger]
  exact Log.Logger.isInstalled_actAll_of_no_install fun filter layout held =>
    Act.install_not_mem_events filter layout held events

end Reports

/-! ## Starting the log -/

/-- What may be done to the logger when the log is started with some settings: events are reported,
and somewhere between them the library's logger is offered the place, unless it has it already. -/
inductive Opening (w : Surroundings) (log : LogSettings) (held : Bool) (m : Machine) :
    List Act → Prop
  | reports (events : List Log.Event) : Opening w log held m (events.map .event)
  | offers {filter : Log.Filter} {refused : List String} (early late : List Log.Event)
    (hbuild : Log.Filter.build w.patterns (w.environment filterVariable) log.level log.filter =
      .ok (filter, refused))
    (hnot : m.logger.isInstalled = false) :
    Opening w log held m (early.map .event ++ .install filter log.layout held :: late.map .event)

variable {log : LogSettings} {held : Bool}

/-- Events may be reported in front. -/
theorem Opening.after (hreports : Reports m m') (hdid : Did m' acts m'')
    (h : Opening w log held m' acts) :
    ∃ acts, Did m acts m'' ∧ Opening w log held m acts := by
  have hinstalled := hreports.isInstalled
  obtain ⟨events, hevents⟩ := hreports
  refine ⟨events.map .event ++ acts, hevents.trans hdid, ?_⟩
  cases h with
  | reports more =>
    rw [← List.map_append]
    exact .reports _
  | offers early late hbuild hnot =>
    rw [← List.append_assoc, ← List.map_append]
    exact .offers _ late hbuild (hinstalled ▸ hnot)

/-- And behind. -/
theorem Opening.before (hdid : Did m acts m') (h : Opening w log held m acts)
    (hreports : Reports m' m'') : ∃ acts, Did m acts m'' ∧ Opening w log held m acts := by
  obtain ⟨events, hevents⟩ := hreports
  refine ⟨acts ++ events.map .event, hdid.trans hevents, ?_⟩
  cases h with
  | reports more =>
    rw [← List.map_append]
    exact .reports _
  | offers early late hbuild hnot =>
    rw [List.append_assoc, List.cons_append, ← List.map_append]
    exact .offers early _ hbuild hnot

theorem installLog_acts {b : Bool} (h : installLog w held log m = .ok (b, m')) :
    ∃ acts, Did m acts m' ∧ Opening w log held m acts := by
  unfold installLog at h
  by_cases hinstalled : m.logger.isInstalled = true
  · rw [if_pos hinstalled] at h
    cases h
    exact ⟨[], .refl m, .reports []⟩
  rw [if_neg hinstalled] at h
  cases hbuild :
    Log.Filter.build w.patterns (w.environment filterVariable) log.level log.filter with
  | error f =>
    rw [hbuild] at h
    cases h
  | ok built =>
    obtain ⟨filter, refused⟩ := built
    rw [hbuild] at h
    cases h
    exact ⟨_, (Did.reportAll m _).trans (.act _ _),
      .offers _ [] hbuild ((Bool.not_eq_true _).mp hinstalled)⟩

/-- The start of the log says whether it has put the library's logger in place. -/
theorem installLog_eq_true_iff {b : Bool} (h : installLog w held log m = .ok (b, m')) :
    b = true ↔ m.logger.isInstalled = false ∧ m'.logger.isInstalled = true := by
  unfold installLog at h
  by_cases hinstalled : m.logger.isInstalled = true
  · rw [if_pos hinstalled] at h
    cases h
    simp [hinstalled]
  rw [if_neg hinstalled] at h
  split at h
  · cases h
  next filter refused _ =>
  cases h
  -- the reports in between leave the place as it is
  have hsame := Reports.isInstalled ⟨_, Did.reportAll m (refused.map .directiveIgnored)⟩
  rw [Bool.not_eq_true] at hinstalled
  show _ ↔ _ ∧ (Log.Logger.act _ _).isInstalled = true
  rw [Log.Logger.isInstalled_act_install_iff, hsame, hinstalled]
  simp

/-! ## The parts of a process -/

theorem takeBlock_reports {size : Int32} {r : Except Heap.HeapError Nat}
    (h : m.takeBlock size = .ok (r, m')) : Reports m m' := by
  unfold takeBlock at h
  split at h
  · cases h
    exact .refl m
  split at h
  · cases h
  next heap _ _ reply _ =>
  have hreports : Reports m ((m.withHeap reply.heap).reportAll reply.events) := by
    obtain ⟨hlogger, hhistory⟩ := Did.reportAll (m.withHeap reply.heap) reply.events
    exact ⟨reply.events, hlogger, hhistory⟩
  simp only at h
  split at h
  · cases h
    exact hreports
  split at h
  · cases h
  · cases h
    exact hreports

theorem allocate_reports (thread : Nat) (size : Int32) (m : Machine) :
    Reports m (m.allocate thread size).2 := by
  unfold allocate
  split
  · exact .refl m
  · next htake => exact (takeBlock_reports htake).record thread _
  · next htake => exact (takeBlock_reports htake).record thread _

theorem allocateChecked_reports (thread : Nat) (isNull : Bool) (size : Int32) (m : Machine) :
    Reports m (m.allocateChecked thread isNull size).2 := by
  unfold allocateChecked
  split
  · exact (Reports.report m _).record thread _
  split
  · exact .refl m
  · next htake => exact (takeBlock_reports htake).record thread _
  · next htake => exact (takeBlock_reports htake).record thread _

theorem init_reports (w : Surroundings) (capacity : Nat) (m : Machine) :
    Reports m (init w capacity m).2 := by
  unfold init
  split
  · exact .refl m
  split
  · exact .refl m
  · next h _ =>
    exact ⟨[h.region.reserved, .initialized h.region.base h.region.size],
      (Did.act m _).trans ⟨rfl, rfl⟩⟩

theorem refuseStart_reports (thread : Nat) (s : Status) (cause : String) (m : Machine) :
    Reports m (m.refuseStart thread s cause).2 :=
  (Reports.report m _).record thread s

theorem bootstrap_acts {s : Settings} {r : Except Heap.HeapError Nat}
    (h : bootstrap w s m = .ok (r, m')) :
    ∃ acts, Did m acts m' ∧ Opening w s.log true m acts := by
  unfold bootstrap at h
  split at h
  · cases h
  next m₁ hlog =>
  obtain ⟨acts, hdid, hopening⟩ := installLog_acts hlog
  have hm' : (init w s.capacity m₁).2 = m' := congrArg Prod.snd (Except.ok.inj h)
  exact hopening.before hdid (hm' ▸ init_reports w s.capacity m₁)

theorem start_acts (w : Surroundings) (thread : Nat) (s : Settings) (m : Machine) :
    ∃ acts, Did m acts (start w thread s m).2 ∧ Opening w s.log true m acts := by
  unfold start
  split
  · exact ⟨[], .refl m, .reports []⟩
  · next hboot =>
    obtain ⟨acts, hdid, hopening⟩ := bootstrap_acts hboot
    exact ⟨acts, hdid.record thread .ok, hopening⟩
  · next hboot =>
    obtain ⟨acts, hdid, hopening⟩ := bootstrap_acts hboot
    exact hopening.before hdid (refuseStart_reports thread _ _ _)

end Machine

/-! ## One call -/

/-- **What a call may do to the logger** of a process in this state. -/
inductive Call.Acts (w : Surroundings) (m : Machine) (c : Call) : List Act → Prop
  | reports (hnot : c.lastWords? m = none) (events : List Log.Event) :
    Acts w m c (events.map .event)
  | opens {log : LogSettings} {acts : List Act} (hlog : c.logSettings? w = some log)
    (h : Machine.Opening w log c.holdsLog m acts) : Acts w m c acts
  | occupies (hc : c = .occupyLog) : Acts w m c [.occupy]
  | flushes {events : List Log.Event} (h : c.lastWords? m = some events) :
    Acts w m c (events.map .event ++ [.flush])

/-- Only a start of the log offers the place to the library's logger, and once at most. -/
theorem Call.Acts.opens_of_mem {w : Surroundings} {m : Machine} {c : Call} {acts : List Act}
    {filter : Log.Filter} {layout : Log.Layout} {held : Bool} (h : c.Acts w m acts)
    (hmem : .install filter layout held ∈ acts) :
    ∃ (log : LogSettings) (refused : List String) (early late : List Log.Event),
      c.logSettings? w = some log ∧
      Log.Filter.build w.patterns (w.environment filterVariable) log.level log.filter =
        .ok (filter, refused) ∧
      layout = log.layout ∧ held = c.holdsLog ∧
      acts = early.map .event ++ .install filter layout held :: late.map .event := by
  have hnot := Act.install_not_mem_events filter layout held
  cases h with
  | reports _ events => exact absurd hmem (hnot events)
  | opens hlog hopening =>
    cases hopening with
    | reports events => exact absurd hmem (hnot events)
    | offers early late hbuild _ =>
      obtain hearly | hhere | hlate := by
        simpa only [List.mem_append, List.mem_cons] using hmem
      · exact absurd hearly (hnot early)
      · cases hhere
        exact ⟨_, _, early, late, hlog, hbuild, rfl, rfl, rfl⟩
      · exact absurd hlate (hnot late)
  | occupies _ => simp at hmem
  | flushes _ =>
    obtain hwords | hflush := List.mem_append.mp hmem
    · exact absurd hwords (hnot _)
    · simp at hflush

namespace Machine

variable {w : Surroundings} {m : Machine}

/-- A start from outside starts the log, or is refused before that. -/
theorem startWith_acts (w : Surroundings) (thread capacity : Nat) (m : Machine) :
    ∃ acts, Did m acts (startWith w thread capacity m).2 ∧
      (Call.start capacity).Acts w m acts := by
  unfold startWith
  cases hs : startSettings w capacity with
  | error refusal =>
    obtain ⟨events, hdid⟩ := refuseStart_reports thread refusal.1 refusal.2 m
    exact ⟨_, hdid, .reports rfl events⟩
  | ok s =>
    obtain ⟨acts, hdid, hopening⟩ := start_acts w thread s m
    have hlog : (Call.start capacity).logSettings? w = some s.log := by
      rw [Call.logSettings?, hs]
      rfl
    exact ⟨acts, hdid, .opens hlog hopening⟩

/-- The end from outside has last words if there is a heap. -/
theorem shutdown_acts (hm : m.Sound) :
    ∃ acts, Did m acts m.shutdown.2 ∧ Call.shutdown.Acts w m acts := by
  obtain ⟨l, hl, hheap⟩ := hm
  unfold shutdown
  cases hb : l.heap with
  | none =>
    rw [hb] at hheap
    have hwords : Call.shutdown.lastWords? m = some [] := by
      rw [Call.lastWords?, hheap]
      rfl
    rw [hheap]
    exact ⟨_, .act m .flush, .flushes hwords⟩
  | some b =>
    rw [hb] at hheap
    have hwords : Call.shutdown.lastWords? m = some [.shuttingDown b.used b.allocations] := by
      rw [Call.lastWords?, hheap]
      rfl
    rw [hheap]
    simp only [Option.map_some, Bump.shared_stats (hl b hb)]
    exact ⟨_, (Did.act m _).trans (.act _ .flush), .flushes hwords⟩

/-- A zero divisor flushes the log; other calls of long arithmetic do not. -/
theorem long_acts (memory : Long.Memory) (c : Long.Call) (m : Machine) :
    ∃ acts, Did m acts (m.long memory c).2 ∧ (Call.long memory c).Acts w m acts := by
  unfold long Long.Call.run
  by_cases hzero : c.hasZeroDivisor memory = true
  · have hwords : (Call.long memory c).lastWords? m =
        some [.arithmeticFault c.name "division by zero"] := if_pos hzero
    rw [if_pos hzero]
    exact ⟨_, (Did.act m _).trans (.act _ .flush), .flushes hwords⟩
  · have hnot : (Call.long memory c).lastWords? m = none := if_neg hzero
    rw [if_neg hzero]
    cases hp : c.perform memory with
    | wrote after => exact ⟨[], .refl m, .reports hnot []⟩
    | rejected =>
      exact ⟨_, .act m _, .reports hnot [.callRejected c.name "null pointer argument"]⟩
    | zeroDivisor => exact absurd hp (Long.perform_ne_zeroDivisor memory c)
    | faulted f => exact ⟨[], .refl m, .reports hnot []⟩

/-- **One call** does one of these things to the logger. -/
theorem call_acts (hm : m.Sound) (thread : Nat) (c : Call) :
    ∃ acts, Did m acts (m.call w thread c).2 ∧ c.Acts w m acts := by
  have of_reports (hnot : c.lastWords? m = none) (h : Reports m (m.call w thread c).2) :
      ∃ acts, Did m acts (m.call w thread c).2 ∧ c.Acts w m acts := by
    obtain ⟨events, hdid⟩ := h
    exact ⟨_, hdid, .reports hnot events⟩
  cases c with
  | start capacity => exact startWith_acts w thread capacity m
  | startDefault =>
    obtain ⟨acts, hdid, hopening⟩ := start_acts w thread (discover w m).1 (discover w m).2
    obtain ⟨acts, hdid, hopening⟩ := hopening.after ⟨_, .reportAll m _⟩ hdid
    exact ⟨acts, hdid, .opens rfl hopening⟩
  | shutdown => exact shutdown_acts hm
  | flushLog =>
    have hwords : Call.flushLog.lastWords? m = some [] := rfl
    exact ⟨_, .act m .flush, .flushes hwords⟩
  | init capacity => exact of_reports rfl (init_reports w capacity m)
  | bootstrap s =>
    simp only [call]
    split
    · next hboot =>
      obtain ⟨acts, hdid, hopening⟩ := bootstrap_acts hboot
      exact ⟨acts, hdid, .opens rfl hopening⟩
    · exact ⟨[], .refl m, .reports rfl []⟩
  | allocate size => exact of_reports rfl (allocate_reports thread size m)
  | allocateChecked isNull size =>
    exact of_reports rfl (allocateChecked_reports thread isNull size m)
  | long memory c => exact long_acts memory c m
  | discover => exact of_reports rfl ⟨_, .reportAll m _⟩
  | installLog log =>
    simp only [call]
    split
    · next hinstall =>
      obtain ⟨acts, hdid, hopening⟩ := installLog_acts hinstall
      exact ⟨acts, hdid, .opens rfl hopening⟩
    · exact ⟨[], .refl m, .reports rfl []⟩
  | occupyLog => exact ⟨_, .act m .occupy, .occupies rfl⟩
  | report e => exact of_reports rfl (.report m e)
  | heapBase | heapUsed | heapCapacity | lastStatus | stats | load _ | override _
  | isLogInstalled => exact of_reports rfl (.refl m)

end Machine

end VmSupport
