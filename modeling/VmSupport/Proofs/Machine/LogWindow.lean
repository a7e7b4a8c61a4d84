import VmSupport.Proofs.Machine.CallEnds

/-!
# The log of a run

**The law** (`log_window`): where a start is the first to bring the library's logger to its place,
the log that is written when the run ends holds the events between that and the first flush that the
filter shows, each once and in order. The filter is the one for the settings of that start and the
variable of the environment, and it stays, as the layout does, whatever later starts ask for.

**Which start it is.** One that comes to the log while the place of the receiver is vacant; nothing
but a filter that faults as it is read keeps it from the place.

**What counts as between** is read off the history of the process: the events that the start itself
reports behind the installation belong to it, those that it reports before that do not. What each
call adds to the history is the subject of `Machine.call_acts`: a flush is the last thing that its
call does, so the last words of a call that flushes belong to the window.

**Once at most.** A process brings the library's logger to its place at most once, and never when a
foreign receiver came first.
-/

namespace VmSupport

open Log (Act window)

namespace Machine

variable {w : Surroundings} {thread thread' : Nat} {c c' : Call} {m before before' : Machine}
  {calls : List (Nat × Call)} {k k' : Nat}

/-- The call brings the library's logger to the place of the receiver. -/
def Installs (w : Surroundings) (m : Machine) (thread : Nat) (c : Call) : Prop :=
  m.logger.isInstalled = false ∧ (m.call w thread c).2.logger.isInstalled = true

/-! ## What a run does to the log -/

/-- A run does to the log what its calls do. -/
theorem run_did (hm : m.Steady w) (calls : List (Nat × Call)) :
    ∃ acts, Did m acts (m.run w calls).2.2 := by
  induction calls generalizing m with
  | nil => exact ⟨[], .refl m⟩
  | cons first rest ih =>
    obtain ⟨thread, c⟩ := first
    obtain ⟨acts, hdid, -⟩ := call_acts (w := w) hm.sound thread c
    unfold run
    rcases hcall : m.call w thread c with ⟨outcome, m₁⟩
    rw [hcall] at hdid
    cases outcome with
    | returned answer =>
      obtain ⟨more, hmore⟩ := ih (hm.call hcall)
      exact ⟨acts ++ more, hdid.trans hmore⟩
    | aborted => exact ⟨acts, hdid⟩
    | faulted fault => exact ⟨acts, hdid⟩

namespace Makes

/-- What was done before a call. -/
theorem did_before (h : Makes w m calls k thread c before) (hm : m.Steady w) :
    ∃ acts, Did m acts before := by
  induction h with
  | first => exact ⟨[], .refl _⟩
  | @later m m₁ _ thread₀ c₀ _ _ _ _ _ hreturned _ ih =>
    obtain ⟨acts, hdid, -⟩ := call_acts (w := w) hm.sound thread₀ c₀
    rw [hreturned] at hdid
    obtain ⟨more, hmore⟩ := ih (hm.call hreturned)
    exact ⟨acts ++ more, hdid.trans hmore⟩

/-- What was done between two calls. -/
theorem did_between (h : Makes w m calls k thread c before)
    (h' : Makes w m calls k' thread' c' before') (hm : m.Steady w) (hlt : k < k') :
    ∃ acts, Did (before.call w thread c).2 acts before' := by
  induction h generalizing k' with
  | first =>
    cases h' with
    | first => exact absurd hlt (Nat.lt_irrefl 0)
    | later hreturned hrest =>
      rw [hreturned]
      exact hrest.did_before (hm.call hreturned)
  | later hreturned _ ih =>
    cases h' with
    | first => exact absurd hlt (Nat.not_lt_zero _)
    | later hreturned' hrest' =>
      cases hreturned.symm.trans hreturned'
      exact ih hrest' (hm.call hreturned) (Nat.lt_of_succ_lt_succ hlt)

/-- What was done behind a call. -/
theorem did_after (h : Makes w m calls k thread c before) (hm : m.Steady w) :
    ∃ acts, Did (before.call w thread c).2 acts (m.run w calls).2.2 := by
  induction h with
  | @first m thread c rest =>
    unfold run
    rcases hcall : m.call w thread c with ⟨outcome, m₁⟩
    cases outcome with
    | returned answer => exact run_did (hm.call hcall) rest
    | aborted => exact ⟨[], .refl _⟩
    | faulted fault => exact ⟨[], .refl _⟩
  | later hreturned _ ih =>
    rw [run, hreturned]
    exact ih (hm.call hreturned)

end Makes

/-! ## The installation -/

/-- The library's logger comes to its place when a call starts the log, finds the place vacant, and
the filter does not fault. -/
theorem Installs.opens (hm : m.Steady w) (h : Installs w m thread c) :
    ∃ (log : LogSettings) (filter : Log.Filter) (refused : List String)
      (early late : List Log.Event), m.logger.receiver = .vacant ∧
      c.logSettings? w = some log ∧
      Log.Filter.build w.patterns (w.environment filterVariable) log.level log.filter =
        .ok (filter, refused) ∧
      Did m (early.map .event ++ .install filter log.layout c.holdsLog :: late.map .event)
        (m.call w thread c).2 := by
  obtain ⟨hnot, hinstalled⟩ := h
  obtain ⟨acts, hdid, hacts⟩ := call_acts (w := w) hm.sound thread c
  have hvacant : m.logger.receiver = .vacant := by
    cases hr : m.logger.receiver with
    | vacant => rfl
    | foreign =>
      rw [hdid.logger, Log.Logger.actAll_foreign hr, hnot] at hinstalled
      cases hinstalled
    | own sink =>
      rw [Log.Logger.isInstalled, hr] at hnot
      cases hnot
  rw [hdid.logger] at hinstalled
  obtain ⟨filter, layout, held, hmem⟩ := Log.Logger.exists_install_mem hnot hinstalled
  obtain ⟨log, refused, early, late, hlog, hbuild, rfl, rfl, rfl⟩ := hacts.opens_of_mem hmem
  exact ⟨log, filter, refused, early, late, hvacant, hlog, hbuild, hdid⟩

/-- Starting the log brings the library's logger to a vacant place, unless the filter faults. -/
theorem installLog_vacant (hvacant : m.logger.receiver = .vacant) (hnot : ¬ LogFaults w)
    (held : Bool) (log : LogSettings) :
    ∃ b m', installLog w held log m = .ok (b, m') ∧ m'.logger.isInstalled = true := by
  cases hlog : installLog w held log m with
  | error fault => exact absurd (logFaults_of_installLog hlog) hnot
  | ok r =>
    obtain ⟨b, m'⟩ := r
    refine ⟨b, m', rfl, ?_⟩
    have hfree : m.logger.isInstalled = false := by
      rw [Log.Logger.isInstalled, hvacant]
    rw [installLog, if_neg (by rw [hfree]; exact Bool.false_ne_true)] at hlog
    split at hlog
    · cases hlog
    next filter refused _ =>
    cases hlog
    show (Log.Logger.act (m.reportAll _).logger _).isInstalled = true
    rw [reportAll_logger hvacant, Log.Logger.isInstalled_act_install_iff, Log.Logger.isVacant,
      hvacant]
    exact .inl rfl

theorem bootstrap_vacant (hvacant : m.logger.receiver = .vacant) (hnot : ¬ LogFaults w)
    (s : Settings) : ∃ r m', bootstrap w s m = .ok (r, m') ∧ m'.logger.isInstalled = true := by
  obtain ⟨b, m₁, hlog, hinstalled⟩ := installLog_vacant hvacant hnot true s.log
  refine ⟨_, _, by rw [bootstrap, hlog], ?_⟩
  rw [(init_reports w s.capacity m₁).isInstalled, hinstalled]

theorem start_vacant (hvacant : m.logger.receiver = .vacant) (hnot : ¬ LogFaults w) (thread : Nat)
    (s : Settings) : (start w thread s m).2.logger.isInstalled = true := by
  obtain ⟨r, m₁, hboot, hinstalled⟩ := bootstrap_vacant hvacant hnot s
  rw [start, hboot]
  cases r with
  | ok size => exact hinstalled
  | error e =>
    show (m₁.refuseStart thread _ _).2.logger.isInstalled = true
    rw [(refuseStart_reports thread _ _ m₁).isInstalled, hinstalled]

/-- **A call that starts the log** where the place is vacant brings the library's logger there
exactly if the filter does not fault. -/
theorem installs_iff (hm : m.Steady w) (hvacant : m.logger.receiver = .vacant)
    (hopens : c.opensLog w = true) : Installs w m thread c ↔ ¬ LogFaults w := by
  constructor
  · intro hinstalls hfaults
    obtain ⟨log, _, _, _, _, -, -, hbuild, -⟩ := hinstalls.opens hm
    obtain ⟨fault, hfault⟩ := hfaults.build log.level log.filter
    cases hfault.symm.trans hbuild
  · intro hnot
    refine ⟨by rw [Log.Logger.isInstalled, hvacant], ?_⟩
    cases c with
    | start capacity =>
      obtain ⟨log, hlog⟩ := Option.isSome_iff_exists.mp hopens
      rw [Call.logSettings?] at hlog
      cases hs : startSettings w capacity with
      | error refusal =>
        rw [hs] at hlog
        cases hlog
      | ok s =>
        simp only [call, startWith, hs]
        exact start_vacant hvacant hnot thread s
    | startDefault =>
      have hkept : (discover w m).2.logger = m.logger := reportAll_logger hvacant _
      exact start_vacant (hkept ▸ hvacant) hnot thread _
    | bootstrap s =>
      obtain ⟨r, m', hboot, hinstalled⟩ := bootstrap_vacant hvacant hnot s
      simp only [call, hboot]
      exact hinstalled
    | installLog log =>
      obtain ⟨b, m', hlog, hinstalled⟩ := installLog_vacant hvacant hnot false log
      simp only [call, hlog]
      exact hinstalled
    | _ => cases hopens

/-- A logger that was brought to its place stays there. -/
theorem isInstalled_of_did {acts : List Act} (h : Did m acts before)
    (hm : m.logger.isInstalled = true) : before.logger.isInstalled = true := by
  rw [h.logger]
  exact Log.Logger.isInstalled_actAll hm acts

/-- No call behind an installation makes another. -/
theorem Installs.not_again (h : Installs w before thread c)
    (hmakes : Makes w m calls k thread c before) (hmakes' : Makes w m calls k' thread' c' before')
    (hm : m.Steady w) (hlt : k < k') : ¬ Installs w before' thread' c' := by
  intro h'
  obtain ⟨acts, hdid⟩ := hmakes.did_between hmakes' hm hlt
  have hstill := isInstalled_of_did hdid h.2
  rw [h'.1] at hstill
  cases hstill

/-- What is written behind an installation on a fresh process is the window, as the filter shows it:
the events that its call reports before it leave the place of the receiver vacant. -/
theorem logger_of_install {front later : List Act} {early : List Log.Event} {filter : Log.Filter}
    {layout : Log.Layout} {last : Machine} (hvacant : before.logger.receiver = .vacant)
    (hfront : Did .fresh front before)
    (hrest : Did before (early.map .event ++ .install filter layout true :: later) last) :
    last.logger =
      { receiver := .own { filter, layout, held := true, isOpen := !later.any Act.isFlush }
        written := (window later).filter filter.shows } := by
  have hplace : (before.logger.actAll (early.map .event)).receiver = .vacant := by
    rw [Log.Logger.actAll_events_vacant hvacant]
    exact hvacant
  rw [hfront.logger, ← Log.Logger.actAll_append] at hplace
  rw [hrest.logger, hfront.logger, ← Log.Logger.actAll_append, ← List.append_assoc]
  exact Log.Logger.written_install hplace filter layout later

/-- A flush closes the logger that the library holds. -/
theorem written_of_flush {sink : Log.Sink} (hm : m.Steady w)
    (hreceiver : m.logger.receiver = .own sink) (hheld : sink.held = true)
    (hwords : (c.lastWords? m).isSome = true) {later : List Act} {last : Machine}
    (hlater : Did (m.call w thread c).2 later last) :
    last.logger = (m.call w thread c).2.logger := by
  obtain ⟨acts, hdid, hacts⟩ := call_acts (w := w) hm.sound thread c
  have hflush : acts.any Act.isFlush = true := by
    cases hacts with
    | reports hnone events =>
      rw [hnone] at hwords
      cases hwords
    | opens hlog hopening =>
      -- no start of the log flushes
      cases c with
      | start _ | startDefault | bootstrap _ | installLog _ => cases hwords
      | _ => cases hlog
    | occupies hc =>
      cases hc
      cases hwords
    | flushes _ => simp [Act.isFlush]
  rw [hlater.logger]
  cases hopen : sink.isOpen with
  | false =>
    have hsame : (m.call w thread c).2.logger = m.logger := by
      rw [hdid.logger, Log.Logger.actAll_closed hreceiver hopen]
    exact Log.Logger.actAll_closed (hsame ▸ hreceiver) hopen later
  | true =>
    have hclosed := Log.Logger.actAll_held hreceiver hheld hopen acts
    rw [← hdid.logger, hflush] at hclosed
    refine Log.Logger.actAll_closed (by rw [hclosed]) rfl later

end Machine

/-! ## The law -/

open Machine (Makes Installs)

/-- **What the log of a run is**: of these calls, made one after another on a fresh process that is
in this state at the end. -/
structure LogWindow (w : Surroundings) (calls : List (Nat × Call)) (last : Machine) : Prop where
  /-- Each call adds to the history what it may do to the log. -/
  acts : ∀ {k thread c before}, Makes w .fresh calls k thread c before →
    ∃ acts, (before.call w thread c).2.history = before.history ++ acts ∧ c.Acts w before acts
  /-- A start that comes to the log and finds the place of the receiver vacant brings the library's
  logger there exactly if the filter in the environment does not fault. -/
  installs : ∀ {k thread c before}, Makes w .fresh calls k thread c before →
    c.opensLog w = true → before.logger.receiver = .vacant →
    (Installs w before thread c ↔ ¬ Machine.LogFaults w)
  /-- If a start brings the library's logger to its place, the log is what the filter for its
  settings shows of the window behind that. The filter and the layout are still there at the end. -/
  written : ∀ {k thread c before}, Makes w .fresh calls k thread c before →
    Installs w before thread c → c.holdsLog = true →
    ∃ (log : LogSettings) (filter : Log.Filter) (refused : List String) (early : List Log.Event)
      (later : List Act), c.logSettings? w = some log ∧
      Log.Filter.build w.patterns (w.environment filterVariable) log.level log.filter =
        .ok (filter, refused) ∧
      last.history = before.history ++ early.map .event ++
        .install filter log.layout true :: later ∧
      last.logger =
        { receiver := .own { filter, layout := log.layout, held := true
                             isOpen := !later.any Act.isFlush }
          written := (window later).filter filter.shows }
  /-- Nothing is written to the log of a start after a flush. -/
  closed : ∀ {k thread c before sink}, Makes w .fresh calls k thread c before →
    before.logger.receiver = .own sink → sink.held = true → (c.lastWords? before).isSome = true →
    last.logger = (before.call w thread c).2.logger
  /-- The library's logger comes to its place once at most. -/
  once : ∀ {k thread c before k' thread' c' before'}, Makes w .fresh calls k thread c before →
    Makes w .fresh calls k' thread' c' before' → Installs w before thread c →
    Installs w before' thread' c' → k = k'
  /-- It does not when a foreign receiver came first. -/
  foreign : ∀ {k thread before after k' thread' c before'},
    Makes w .fresh calls k thread .occupyLog before →
    before.call w thread .occupyLog = (.returned (.flag true), after) →
    Makes w .fresh calls k' thread' c before' → k < k' → ¬ Installs w before' thread' c
  /-- Whether it does is what the start of the log says. -/
  reported : ∀ {held log m m' b}, Machine.installLog w held log m = .ok (b, m') →
    (b = true ↔ m.logger.isInstalled = false ∧ m'.logger.isInstalled = true)

/-- **The log of every run** is the window behind the first installation, as its filter shows it. -/
theorem log_window (w : Surroundings) (calls : List (Nat × Call)) :
    LogWindow w calls (Machine.run w .fresh calls).2.2 := by
  have hfresh := Machine.steady_fresh w
  constructor
  · intro k thread c before hmakes
    obtain ⟨acts, hdid, hacts⟩ :=
      Machine.call_acts (w := w) (hmakes.steady hfresh).sound thread c
    exact ⟨acts, hdid.history, hacts⟩
  · intro k thread c before hmakes hopens hvacant
    exact Machine.installs_iff (hmakes.steady hfresh) hvacant hopens
  · intro k thread c before hmakes hinstalls hheld
    obtain ⟨log, filter, refused, early, late, hvacant, hlog, hbuild, hdid⟩ :=
      hinstalls.opens (hmakes.steady hfresh)
    obtain ⟨front, hfront⟩ := hmakes.did_before hfresh
    obtain ⟨rest, hrest⟩ := hmakes.did_after hfresh
    rw [hheld] at hdid
    have hall := hdid.trans hrest
    rw [List.append_assoc, List.cons_append] at hall
    refine ⟨log, filter, refused, early, late.map .event ++ rest, hlog, hbuild, ?_,
      Machine.logger_of_install hvacant hfront hall⟩
    rw [hall.history, List.append_assoc]
  · intro k thread c before sink hmakes hreceiver hheld hwords
    obtain ⟨rest, hrest⟩ := hmakes.did_after hfresh
    exact Machine.written_of_flush (hmakes.steady hfresh) hreceiver hheld hwords hrest
  · intro k thread c before k' thread' c' before' hmakes hmakes' hinstalls hinstalls'
    obtain hlt | heq | hgt := Nat.lt_trichotomy k k'
    · exact absurd hinstalls' (hinstalls.not_again hmakes hmakes' hfresh hlt)
    · exact heq
    · exact absurd hinstalls (hinstalls'.not_again hmakes' hmakes hfresh hgt)
  · intro k thread before after k' thread' c before' hmakes hcall hmakes' hlt hinstalls
    obtain ⟨acts, hdid⟩ := hmakes.did_between hmakes' hfresh hlt
    obtain ⟨_, _, _, _, _, hvacant, -⟩ := hinstalls.opens (hmakes'.steady hfresh)
    obtain ⟨hanswer, rfl⟩ := Prod.mk.inj hcall
    have hforeign : (before.call w thread .occupyLog).2.logger.receiver = .foreign :=
      Log.Logger.receiver_act_occupy (Answer.flag.inj (Outcome.returned.inj hanswer))
    rw [hdid.logger, Log.Logger.actAll_foreign hforeign, hforeign] at hvacant
    cases hvacant
  · intro held log m m' b h
    exact Machine.installLog_eq_true_iff h

/-- Two starts, of which the first has a level that hides the block, and the second has not; then a
report, a flush, and another report. -/
def restartedCalls : List (Nat × Call) :=
  [(0, .bootstrap { capacity := 64 }), (0, .bootstrap { log := { level := .trace } }),
    (0, .allocate 8), (0, .report (.callRejected "f" "early")), (0, .shutdown),
    (0, .report (.callRejected "f" "late"))]

/-- The first start installs the logger, and what its level shows is written up to the flush. -/
theorem log_window_restarted :
    Installs .quiet .fresh 0 (.bootstrap { capacity := 64 }) ∧
    ∃ (early : List Log.Event) (later : List Act),
      (Machine.run .quiet .fresh restartedCalls).2.2.history =
        early.map .event ++ .install (.ofLevel .info) .compact true :: later ∧
      (window later).filter (Log.Filter.ofLevel .info).shows =
        [.initialized 4096 64, .callRejected "f" "early", .shuttingDown 8 1] := by
  have hlaw := log_window .quiet restartedCalls
  have hinstalls : Installs .quiet .fresh 0 (.bootstrap { capacity := 64 }) :=
    (hlaw.installs .first rfl rfl).mpr Machine.not_logFaults_quiet
  refine ⟨hinstalls, ?_⟩
  obtain ⟨log, filter, refused, early, later, hlog, hbuild, hhistory, hlogger⟩ :=
    hlaw.written .first hinstalls rfl
  cases hlog
  cases hbuild
  have hwritten : (Machine.run .quiet .fresh restartedCalls).2.2.logger.written =
      [.initialized 4096 64, .callRejected "f" "early", .shuttingDown 8 1] := by
    decide +kernel
  exact ⟨early, later, hhistory, (congrArg Log.Logger.written hlogger).symm.trans hwritten⟩

end VmSupport
