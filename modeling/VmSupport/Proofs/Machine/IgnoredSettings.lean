import Mathlib.Data.List.Infix
import VmSupport.Proofs.Log.DecidingDirective
import VmSupport.Proofs.Machine.LogWindow
import VmSupport.Proofs.Machine.Reported
import VmSupport.Proofs.Settings.Discovery

/-!
# What becomes of the reports about ignored settings

Looking for settings reports each file that is passed over, and overrides that cannot be used. What
there is to report is said here without the search (`ignoredFiles`, `ignoredOverrides`), and the
search does report it, each once and the nearest first (`discover_snd`).

A start with the settings that are found would have these reports in its log. But it can put the
library's logger in place only when it knows the settings of the log, which is after the search.

**The law** (`ignored_lost`): on a fresh process such a start reports all that it ignores, and writes
none of it. So its log has the reports that it should have exactly if nothing was ignored. It is not
the filter that holds them back: where the settings that are found do not hide warnings, the logger
that is put in place would show every one of them.
-/

namespace VmSupport

open Log (Act Event Filter)

/-! ## What is to be reported -/

/-- The event says that a settings file is ignored. -/
def Log.Event.isIgnoredFile (e : Event) : Bool :=
  e.message == "ignoring config file"

/-- The event says that the overrides in the environment are ignored. -/
def Log.Event.isIgnoredOverrides (e : Event) : Bool :=
  e.message == "ignoring environment overrides"

namespace Settings

/-- No settings load from a directory. -/
def isBarren (dir : String × Files.Node) : Bool :=
  (loadedFrom? dir.2).isNone

/-- The directories in front of the nearest one from which settings load, or all of them if there is
none; each with the directories above it. -/
def inFront (place : Files.Place) : List Files.Place :=
  place.tails.take (place.takeWhile isBarren).length

/-- The report about the settings file of a directory, if there is one and it does not load. -/
def ignoredAt? : Files.Place → Option Event
  | [] => none
  | (name, node) :: up =>
    (node.child? fileName).bind fun file =>
      match parseFile file.readText with
      | .ok _ => none
      | .error e =>
        some (.fileIgnored (Files.Place.name ((fileName, file) :: (name, node) :: up)) e.message)

/-- **The reports about files that are ignored**, the nearest first. -/
def ignoredFiles (place : Files.Place) : List Event :=
  (inFront place).filterMap ignoredAt?

/-- **The report about overrides that are ignored**, if they are. -/
def ignoredOverrides (lookup : Lookup) (base : Settings) : List Event :=
  match base.override lookup with
  | .ok _ => []
  | .error r => [.overridesIgnored r.message]

/-- A directory from which nothing loads comes in front of those above it. -/
theorem ignoredFiles_barren {dir : String × Files.Node} (hdir : isBarren dir = true)
    (up : Files.Place) :
    ignoredFiles (dir :: up) = (ignoredAt? (dir :: up)).toList ++ ignoredFiles up := by
  rw [ignoredFiles, inFront, List.takeWhile_cons_of_pos hdir, List.tails_cons, List.length_cons,
    List.take_succ_cons, List.filterMap_cons]
  cases ignoredAt? (dir :: up) <;> rfl

/-- Behind a directory from which settings load nothing is ignored. -/
theorem ignoredFiles_loaded {dir : String × Files.Node} (hdir : isBarren dir = false)
    (up : Files.Place) : ignoredFiles (dir :: up) = [] := by
  rw [ignoredFiles, inFront, List.takeWhile_cons_of_neg (hdir ▸ Bool.false_ne_true)]
  rfl

/-- The search reports the files that are ignored. -/
theorem searchUp_snd (place : Files.Place) : (searchUp place).2 = ignoredFiles place := by
  induction place with
  | nil => rfl
  | cons dir up ih =>
    obtain ⟨name, node⟩ := dir
    cases hfile : node.child? fileName with
    | none =>
      have hdir : isBarren (name, node) = true := by
        simp only [isBarren, loadedFrom?, hfile, Option.bind_none, Option.isNone_none]
      rw [ignoredFiles_barren hdir]
      simp only [searchUp, ignoredAt?, hfile, Option.bind_none, Option.toList_none, List.nil_append,
        ih]
    | some file =>
      cases hload : parseFile file.readText with
      | ok s =>
        have hdir : isBarren (name, node) = false := by
          simp only [isBarren, loadedFrom?, hfile, hload, Option.bind_some, Except.toOption,
            Option.isNone_some]
        rw [ignoredFiles_loaded hdir]
        simp only [searchUp, hfile, hload]
      | error e =>
        have hdir : isBarren (name, node) = true := by
          simp only [isBarren, loadedFrom?, hfile, hload, Option.bind_some, Except.toOption,
            Option.isNone_none]
        rw [ignoredFiles_barren hdir]
        simp only [searchUp, ignoredAt?, hfile, hload, Option.bind_some, Option.toList_some,
          List.singleton_append, ih]

/-- **Discovery reports what it ignores**, the files first. -/
theorem discover_snd (place : Files.Place) (lookup : Lookup) :
    (discover place lookup).2 =
      ignoredFiles place ++ ignoredOverrides lookup ((searchUp place).1.getD {}) := by
  rw [← searchUp_snd]
  cases hover : ((searchUp place).1.getD {}).override lookup with
  | ok s => simp only [discover, tryOverride, ignoredOverrides, hover, List.append_nil]
  | error r => simp only [discover, tryOverride, ignoredOverrides, hover]

theorem isIgnored_of_mem_ignoredFiles {place : Files.Place} {e : Event}
    (he : e ∈ ignoredFiles place) : e.isIgnoredFile = true ∧ e.isIgnoredOverrides = false := by
  obtain ⟨dirs, -, hdirs⟩ := List.mem_filterMap.mp he
  cases dirs with
  | nil => cases hdirs
  | cons dir up =>
    obtain ⟨file, -, hreport⟩ := Option.bind_eq_some_iff.mp hdirs
    split at hreport
    · cases hreport
    · cases hreport
      exact ⟨rfl, rfl⟩

theorem isIgnored_of_mem_ignoredOverrides {lookup : Lookup} {base : Settings} {e : Event}
    (he : e ∈ ignoredOverrides lookup base) :
    e.isIgnoredFile = false ∧ e.isIgnoredOverrides = true := by
  unfold ignoredOverrides at he
  split at he
  · cases he
  · obtain rfl := List.mem_singleton.mp he
    exact ⟨rfl, rfl⟩

/-- What discovery reports about files. -/
theorem filter_discover_files (place : Files.Place) (lookup : Lookup) :
    (discover place lookup).2.filter Event.isIgnoredFile = ignoredFiles place := by
  rw [discover_snd, List.filter_append,
    List.filter_eq_self.mpr fun e he => (isIgnored_of_mem_ignoredFiles he).1,
    List.filter_eq_nil_iff.mpr fun e he =>
      (isIgnored_of_mem_ignoredOverrides he).1 ▸ Bool.false_ne_true,
    List.append_nil]

/-- What discovery reports about the overrides. -/
theorem filter_discover_overrides {place : Files.Place} {base : Settings} (hbase : IsBase place base)
    (lookup : Lookup) :
    (discover place lookup).2.filter Event.isIgnoredOverrides = ignoredOverrides lookup base := by
  rw [discover_snd, ← isBase_iff.mp hbase, List.filter_append,
    List.filter_eq_self.mpr fun e he => (isIgnored_of_mem_ignoredOverrides he).2,
    List.filter_eq_nil_iff.mpr fun e he =>
      (isIgnored_of_mem_ignoredFiles he).2 ▸ Bool.false_ne_true,
    List.nil_append]

end Settings

/-! ## What is said about a start -/

open Settings (IsBase ignoredFiles ignoredOverrides)

/-- A log has the reports that it should have about what was ignored, each once, and those about
files in the order of the search. -/
structure IgnoredReported (w : Surroundings) (written : List Event) : Prop where
  files : written.filter Event.isIgnoredFile = ignoredFiles w.current
  overrides : ∀ base, IsBase w.current base →
    written.filter Event.isIgnoredOverrides = ignoredOverrides w.environment base

/-- Nothing is ignored. -/
def NothingIgnored (w : Surroundings) : Prop :=
  ignoredFiles w.current = [] ∧ ∀ base, IsBase w.current base →
    ignoredOverrides w.environment base = []

/-- The log that is started with the settings that are found shows warnings. -/
structure Surroundings.ShowsWarnings (w : Surroundings) : Prop where
  unset : w.environment filterVariable = none
  unfiltered : (Settings.discover w.current w.environment).1.log.filter = none
  level : (Settings.discover w.current w.environment).1.log.level.rank ≤ Log.Level.warn.rank

/-- A fresh process that was started with the settings that are found, and then told to flush. -/
def startedAndFlushed (w : Surroundings) : Machine :=
  (Machine.run w .fresh [(0, .startDefault), (0, .flushLog)]).2.2

/-! ## The start -/

namespace Machine

variable {w : Surroundings} {m m' : Machine} {about : Event → Bool}

/-- A run that starts and flushes adds to what the start did a flush at most. -/
theorem startedAndFlushed_cases (w : Surroundings) :
    startedAndFlushed w = (startDefault w 0 fresh).2 ∨
    startedAndFlushed w = (startDefault w 0 fresh).2.flushLog := by
  unfold startedAndFlushed run call
  rcases startDefault w 0 fresh with ⟨outcome, m⟩
  cases outcome with
  | returned status => exact .inr rfl
  | aborted => exact .inl rfl
  | faulted fault => exact .inl rfl

/-- **Behind the search a start says nothing more** about a matter of the search, and writes nothing
about it at all. -/
theorem startedAndFlushed_spares (habout : ∀ e : Event, e.isAboutStart = true → about e = false)
    (w : Surroundings) :
    (startedAndFlushed w).reported about =
      (Settings.discover w.current w.environment).2.filter about ∧
    (startedAndFlushed w).logger.written.filter about = [] := by
  have hstart := Spares.start habout w 0 (discover w fresh).1 (discover w fresh).2
  have hall : Spares about (discover w fresh).2 (startedAndFlushed w) := by
    obtain heq | heq := startedAndFlushed_cases w <;> rw [heq]
    · exact hstart
    · exact hstart.trans (.act rfl _)
  have hlogger : (discover w fresh).2.logger = .fresh := reportAll_logger rfl _
  constructor
  · rw [hall.reported]
    exact reported_reportAll about fresh _
  · rw [hall.written, hlogger]
    rfl

/-- A start that finds the place vacant and the variable unset returns, and puts a logger for the
level of its settings there, which stays. -/
theorem start_receiver (hvacant : m.logger.receiver = .vacant)
    (hunset : w.environment filterVariable = none) (thread : Nat) {s : Settings}
    (hfilter : s.log.filter = none) :
    ∃ status m' isOpen, start w thread s m = (.returned status, m') ∧ m'.logger.receiver =
      .own { filter := Filter.ofLevel s.log.level, layout := s.log.layout, held := true, isOpen } := by
  let m₁ := m.act (.install (Filter.ofLevel s.log.level) s.log.layout true)
  have hinstall : installLog w true s.log m = .ok (m.logger.isVacant, m₁) := by
    have hnot : m.logger.isInstalled ≠ true := by
      rw [Log.Logger.isInstalled, hvacant]
      exact Bool.false_ne_true
    rw [installLog, if_neg hnot, hunset, hfilter]
    rfl
  have hreceiver : m₁.logger.receiver = .own
      { filter := Filter.ofLevel s.log.level, layout := s.log.layout, held := true
        isOpen := true } := by
    show (m.logger.act _).receiver = _
    simp only [Log.Logger.act, hvacant]
  have hreports : ∃ status m', start w thread s m = (.returned status, m') ∧ Reports m₁ m' := by
    have hinit := init_reports w s.capacity m₁
    rcases hr : init w s.capacity m₁ with ⟨result, m₂⟩
    rw [hr] at hinit
    cases result with
    | ok size =>
      simp only [start, bootstrap, hinstall, hr]
      exact ⟨_, _, rfl, hinit.record thread .ok⟩
    | error e =>
      simp only [start, bootstrap, hinstall, hr]
      exact ⟨_, _, rfl, Reports.trans hinit (refuseStart_reports thread (.ofHeapError e) e.message m₂)⟩
  obtain ⟨status, m', hreturns, events, hdid⟩ := hreports
  have hkept := Log.Logger.actAll_held hreceiver rfl rfl (events.map .event)
  rw [← hdid.logger] at hkept
  exact ⟨status, m', _, hreturns, congrArg Log.Logger.receiver hkept⟩

/-- Where the settings that are found show warnings, the start returns and the log is flushed. -/
theorem startedAndFlushed_receiver (hw : w.ShowsWarnings) :
    ∃ layout, (startedAndFlushed w).logger.receiver =
      .own { filter := Filter.ofLevel (Settings.discover w.current w.environment).1.log.level
             layout, held := true, isOpen := false } := by
  have hvacant : (discover w fresh).2.logger.receiver = .vacant := by
    show ((fresh.reportAll _).logger).receiver = _
    rw [reportAll_logger rfl]
    rfl
  obtain ⟨status, m, isOpen, hstart, hreceiver⟩ :=
    start_receiver hvacant hw.unset 0 (s := (discover w fresh).1) hw.unfiltered
  have hflushed : startedAndFlushed w = m.flushLog := by
    simp only [startedAndFlushed, run, call, startDefault, hstart, Outcome.map]
  refine ⟨(discover w fresh).1.log.layout, ?_⟩
  rw [hflushed]
  show (m.logger.act .flush).receiver = _
  simp only [Log.Logger.act, hreceiver]
  rfl

end Machine

/-- What says that something is ignored is a warning. -/
theorem Log.Event.level_of_ignored {e : Event}
    (he : e.isIgnoredFile = true ∨ e.isIgnoredOverrides = true) : e.level = .warn := by
  cases e with
  | fileIgnored path cause => rfl
  | overridesIgnored cause => rfl
  | _ => exact absurd he (by simp [isIgnoredFile, isIgnoredOverrides, message])

/-! ## The law -/

open Machine

/-- **What becomes of the reports** about what a start ignores. -/
structure IgnoredLost (w : Surroundings) (last : Machine) : Prop where
  /-- They are made, each once, and those about files in the order of the search. -/
  files : last.reported Event.isIgnoredFile = ignoredFiles w.current
  overrides : ∀ base, IsBase w.current base →
    last.reported Event.isIgnoredOverrides = ignoredOverrides w.environment base
  /-- None of them is written. -/
  unwritten : ∀ e ∈ last.logger.written, e.isIgnoredFile = false ∧ e.isIgnoredOverrides = false
  /-- So the log has those that it should have exactly if there should be none. -/
  onlyNone : IgnoredReported w last.logger.written ↔ NothingIgnored w
  /-- Where warnings are shown, the filter is not the cause: the logger that was put in place, and
  that the flush closed, shows all of them. -/
  notFiltered : w.ShowsWarnings → ∃ filter layout,
    last.logger.receiver = .own { filter, layout, held := true, isOpen := false } ∧
      ∀ e : Event, e.isIgnoredFile = true ∨ e.isIgnoredOverrides = true → filter.shows e = true

theorem isAboutStart_spares {e : Event} (he : e.isAboutStart = true) :
    e.isIgnoredFile = false ∧ e.isIgnoredOverrides = false := by
  cases e with
  | heapReserved _ _ | initialized _ _ | callRejected _ _ | directiveIgnored _ => exact ⟨rfl, rfl⟩
  | _ => cases he

/-- A log without a report about what was ignored has those that it should have exactly if there
should be none. -/
theorem ignoredReported_iff {w : Surroundings} {written : List Event}
    (hfiles : written.filter Event.isIgnoredFile = [])
    (hoverrides : written.filter Event.isIgnoredOverrides = []) :
    IgnoredReported w written ↔ NothingIgnored w := by
  constructor
  · intro h
    exact ⟨h.files.symm.trans hfiles, fun base hbase =>
      (h.overrides base hbase).symm.trans hoverrides⟩
  · rintro ⟨hnone, hkept⟩
    exact ⟨hfiles.trans hnone.symm, fun base hbase => hoverrides.trans (hkept base hbase).symm⟩

/-- **A start loses its reports about what it ignores**: it makes them all, and writes none. -/
theorem ignored_lost (w : Surroundings) : IgnoredLost w (startedAndFlushed w) := by
  obtain ⟨hfiles, hnofiles⟩ := startedAndFlushed_spares (fun e he => (isAboutStart_spares he).1) w
  obtain ⟨hoverrides, hnooverrides⟩ :=
    startedAndFlushed_spares (fun e he => (isAboutStart_spares he).2) w
  refine ⟨?_, ?_, ?_, ignoredReported_iff hnofiles hnooverrides, ?_⟩
  · rw [hfiles, Settings.filter_discover_files]
  · intro base hbase
    rw [hoverrides, Settings.filter_discover_overrides hbase]
  · intro e he
    exact ⟨Bool.eq_false_iff.mpr (List.filter_eq_nil_iff.mp hnofiles e he),
      Bool.eq_false_iff.mpr (List.filter_eq_nil_iff.mp hnooverrides e he)⟩
  · intro hw
    obtain ⟨layout, hreceiver⟩ := startedAndFlushed_receiver hw
    refine ⟨_, layout, hreceiver, fun e he => (Filter.shows_ofLevel_iff _ e).mpr ?_⟩
    rw [Log.Event.level_of_ignored he]
    exact hw.level

/-- Here both can be seen: the settings file is a directory, and the capacity is no number. -/
def Surroundings.littered : Surroundings :=
  { Surroundings.quiet with
    current := [("/", .directory [(Settings.fileName, .empty)])]
    environment := fun key => if key = Settings.sizeVariable then some "x" else none }

theorem searchUp_littered : (Settings.searchUp Surroundings.littered.current).1 = none := rfl

theorem override_littered :
    ∃ r, Settings.override Surroundings.littered.environment {} = .error r := by
  have hraw : Surroundings.littered.environment Settings.sizeVariable = some "x" := by
    decide
  have hread : Settings.readSize? "x" = none := by decide +kernel
  simp only [Settings.override, Settings.overridden, hraw, Settings.readCapacity, hread]
  exact ⟨_, rfl⟩

/-- There a start shows warnings, ignores something, and says nothing about it in its log. -/
theorem not_ignoredReported_littered :
    Surroundings.littered.ShowsWarnings ∧
      ¬ IgnoredReported .littered (startedAndFlushed .littered).logger.written := by
  have hfound : (Settings.discover Surroundings.littered.current
      Surroundings.littered.environment).1 = {} := by
    obtain ⟨r, hr⟩ := override_littered
    rw [Settings.discover_fst, searchUp_littered, Option.getD_none, Settings.tryOverride, hr]
  refine ⟨⟨by decide, by rw [hfound], by rw [hfound]; decide⟩, fun hreported => ?_⟩
  have hnone := (startedAndFlushed_spares (fun e he => (isAboutStart_spares he).1) .littered).2
  have hignored : ignoredFiles Surroundings.littered.current ≠ [] := by
    rw [← Settings.searchUp_snd]
    exact List.cons_ne_nil _ _
  exact hignored (hreported.files.symm.trans hnone)

end VmSupport
