import VmSupport.Log.Logger

/-!
# The window of the log

What is done to a logger is a list of acts. Some report an event, some take the place of the
receiver, and some flush. The **window** of such a list is what it reports before its first flush.

**The law** (`Logger.written_install`): where the library's logger is the first to take the place,
and is held by the library, it has written the events of the window behind its installation that its
filter shows: each once, in the order in which they were reported, and nothing else.

**What comes later** makes no difference. Once the place is taken, whoever has it keeps it
(`Logger.actAll_foreign`, `Logger.actAll_held`): a second logger with another filter or another
layout has no effect, nor has a foreign receiver.
-/

namespace VmSupport.Log

namespace Act

/-- The event that is reported, if one is. -/
def event? : Act → Option Event
  | .event e => some e
  | _ => none

/-- The act writes out what is held, and closes it. -/
def isFlush : Act → Bool
  | .flush => true
  | _ => false

/-- The act takes the place of the receiver, if it is vacant. -/
def takesPlace : Act → Bool
  | .occupy | .install .. => true
  | _ => false

/-- An event is no installation. -/
theorem install_not_mem_events (filter : Filter) (layout : Layout) (held : Bool)
    (events : List Event) : install filter layout held ∉ events.map event := by
  intro hmem
  obtain ⟨e, -, he⟩ := List.mem_map.mp hmem
  cases he

end Act

/-- The filter shows an event. -/
def Filter.shows (f : Filter) (e : Event) : Bool :=
  f.passes e.target e.names e.level

/-- The events that are reported before the first flush. -/
def window (acts : List Act) : List Event :=
  (acts.takeWhile (!·.isFlush)).filterMap Act.event?

@[simp] theorem window_nil : window [] = [] := rfl

@[simp] theorem window_event (e : Event) (acts : List Act) :
    window (.event e :: acts) = e :: window acts := rfl

@[simp] theorem window_occupy (acts : List Act) : window (.occupy :: acts) = window acts := rfl

@[simp] theorem window_install (filter : Filter) (layout : Layout) (held : Bool)
    (acts : List Act) : window (.install filter layout held :: acts) = window acts := rfl

@[simp] theorem window_flush (acts : List Act) : window (.flush :: acts) = [] := rfl

namespace Logger

/-- The logger after several acts. -/
def actAll (l : Logger) (acts : List Act) : Logger :=
  acts.foldl act l

@[simp] theorem actAll_nil (l : Logger) : l.actAll [] = l := rfl

@[simp] theorem actAll_cons (l : Logger) (a : Act) (acts : List Act) :
    l.actAll (a :: acts) = (l.act a).actAll acts := rfl

theorem actAll_append (l : Logger) (acts more : List Act) :
    l.actAll (acts ++ more) = (l.actAll acts).actAll more :=
  List.foldl_append

variable {l : Logger} {sink : Sink}

/-- A foreign receiver keeps the place, and the log stays as it is. -/
theorem actAll_foreign (hl : l.receiver = .foreign) (acts : List Act) : l.actAll acts = l := by
  induction acts with
  | nil => rfl
  | cons a acts ih =>
    have hact : l.act a = l := by cases a <;> simp only [act, hl]
    rw [actAll_cons, hact, ih]

/-- A vacant place stays vacant until somebody takes it. -/
theorem actAll_vacant (hl : l.receiver = .vacant) {acts : List Act}
    (hacts : ∀ a ∈ acts, a.takesPlace = false) : l.actAll acts = l := by
  induction acts with
  | nil => rfl
  | cons a acts ih =>
    obtain ⟨ha, hrest⟩ := List.forall_mem_cons.mp hacts
    have hact : l.act a = l := by
      cases a with
      | event e => simp only [act, hl]
      | flush => simp only [act, hl]
      | occupy => cases ha
      | install filter layout held => cases ha
    rw [actAll_cons, hact, ih hrest]

/-- Events that find the place vacant are gone. -/
theorem actAll_events_vacant (hl : l.receiver = .vacant) (events : List Event) :
    l.actAll (events.map .event) = l := by
  refine actAll_vacant hl fun a ha => ?_
  obtain ⟨e, -, rfl⟩ := List.mem_map.mp ha
  rfl

/-- A closed logger keeps its place and writes nothing more. -/
theorem actAll_closed (hl : l.receiver = .own sink) (hclosed : sink.isOpen = false)
    (acts : List Act) : l.actAll acts = l := by
  obtain ⟨receiver, written⟩ := l
  obtain ⟨filter, layout, held, isOpen⟩ := sink
  cases hl
  cases hclosed
  induction acts with
  | nil => rfl
  | cons a acts ih =>
    have hact : (⟨.own ⟨filter, layout, held, false⟩, written⟩ : Logger).act a =
        ⟨.own ⟨filter, layout, held, false⟩, written⟩ := by
      cases a with
      | flush => cases held <;> rfl
      | _ => rfl
    rw [actAll_cons, hact, ih]

/-- **An open logger that the library holds** writes what its filter shows of the window, and a
flush closes it. -/
theorem actAll_held (hl : l.receiver = .own sink) (hheld : sink.held = true)
    (hopen : sink.isOpen = true) (acts : List Act) :
    l.actAll acts = { receiver := .own { sink with isOpen := !acts.any Act.isFlush }
                      written := l.written ++ (window acts).filter sink.filter.shows } := by
  obtain ⟨receiver, written⟩ := l
  obtain ⟨filter, layout, held, isOpen⟩ := sink
  cases hl
  cases hheld
  cases hopen
  induction acts generalizing written with
  | nil => simp
  | cons a acts ih =>
    rw [actAll_cons]
    cases a with
    | event e =>
      rw [window_event, List.filter_cons]
      by_cases hshown : filter.shows e = true
      · have hact : (⟨.own ⟨filter, layout, true, true⟩, written⟩ : Logger).act (.event e) =
            ⟨.own ⟨filter, layout, true, true⟩, written ++ [e]⟩ := by
          simp only [act, Bool.true_and]
          exact if_pos hshown
        rw [hact, ih, if_pos hshown, List.append_assoc]
        rfl
      · have hact : (⟨.own ⟨filter, layout, true, true⟩, written⟩ : Logger).act (.event e) =
            ⟨.own ⟨filter, layout, true, true⟩, written⟩ := by
          simp only [act, Bool.true_and]
          exact if_neg hshown
        rw [hact, ih, if_neg hshown]
        rfl
    | occupy => exact ih written
    | install _ _ _ => exact ih written
    | flush =>
      -- from here on the logger is closed
      have hclosed : (⟨.own ⟨filter, layout, true, true⟩, written⟩ : Logger).act .flush =
          ⟨.own ⟨filter, layout, true, false⟩, written⟩ := rfl
      rw [hclosed, actAll_closed rfl rfl]
      simp [Act.isFlush]

/-! ## Who has the place -/

/-- A foreign receiver takes a vacant place. -/
theorem receiver_act_occupy (h : l.isVacant = true) : (l.act .occupy).receiver = .foreign := by
  obtain ⟨receiver, written⟩ := l
  cases receiver with
  | vacant => rfl
  | foreign => cases h
  | own sink => cases h

/-- The library's logger keeps the place. -/
theorem isInstalled_act (h : l.isInstalled = true) (a : Act) : (l.act a).isInstalled = true := by
  obtain ⟨receiver, written⟩ := l
  cases receiver with
  | vacant => cases h
  | foreign => cases h
  | own sink =>
    cases a with
    | event e =>
      simp only [act]
      split <;> rfl
    | occupy => rfl
    | install _ _ _ => rfl
    | flush =>
      simp only [act]
      split <;> rfl

theorem isInstalled_actAll (h : l.isInstalled = true) (acts : List Act) :
    (l.actAll acts).isInstalled = true := by
  induction acts generalizing l with
  | nil => exact h
  | cons a acts ih => exact ih (isInstalled_act h a)

/-- The library's logger has the place once it was offered, unless somebody else has it. -/
theorem isInstalled_act_install_iff (filter : Filter) (layout : Layout) (held : Bool) :
    (l.act (.install filter layout held)).isInstalled = true ↔
      l.isVacant = true ∨ l.isInstalled = true := by
  obtain ⟨receiver, written⟩ := l
  cases receiver <;> simp [act, isInstalled, isVacant]

/-- Nobody but an installation brings the library's logger to the place. -/
theorem isInstalled_actAll_of_no_install {acts : List Act}
    (hacts : ∀ filter layout held, Act.install filter layout held ∉ acts) :
    (l.actAll acts).isInstalled = l.isInstalled := by
  induction acts generalizing l with
  | nil => rfl
  | cons a acts ih =>
    have hact : (l.act a).isInstalled = l.isInstalled := by
      obtain ⟨receiver, written⟩ := l
      cases receiver with
      | own sink => exact isInstalled_act rfl a
      | vacant =>
        cases a with
        | install filter layout held =>
          exact absurd List.mem_cons_self (hacts filter layout held)
        | _ => rfl
      | foreign => cases a <;> rfl
    rw [actAll_cons, ih fun filter layout held h => hacts filter layout held (.tail _ h), hact]

/-- So where it came to the place, it was offered the place. -/
theorem exists_install_mem {acts : List Act} (hnot : l.isInstalled = false)
    (h : (l.actAll acts).isInstalled = true) :
    ∃ filter layout held, Act.install filter layout held ∈ acts := by
  refine Classical.byContradiction fun hnone => ?_
  rw [isInstalled_actAll_of_no_install fun filter layout held hmem =>
    hnone ⟨filter, layout, held, hmem⟩, hnot] at h
  cases h

/-- Before the library's logger has the place, nothing is written. -/
theorem written_of_not_installed {acts : List Act}
    (h : (fresh.actAll acts).isInstalled = false) : (fresh.actAll acts).written = [] := by
  suffices hgeneral : ∀ l : Logger, (l.isInstalled = false → l.written = []) →
      (l.actAll acts).isInstalled = false → (l.actAll acts).written = [] from
    hgeneral fresh (fun _ => rfl) h
  clear h
  induction acts with
  | nil => exact fun _ hl => hl
  | cons a acts ih =>
    intro l hl
    refine ih _ ?_
    obtain ⟨receiver, written⟩ := l
    cases receiver with
    | own sink =>
      intro hnot
      rw [isInstalled_act rfl a] at hnot
      cases hnot
    | vacant =>
      cases a with
      | install filter layout held =>
        intro hnot
        cases hnot
      | _ => exact fun _ => hl rfl
    | foreign => cases a <;> exact fun _ => hl rfl

/-- **The law of the window**: the log of a logger that took a vacant place, and is held, is what its
filter shows of the window behind its installation. -/
theorem written_install {acts : List Act} (hvacant : (fresh.actAll acts).receiver = .vacant)
    (filter : Filter) (layout : Layout) (later : List Act) :
    fresh.actAll (acts ++ .install filter layout true :: later) =
      { receiver := .own { filter, layout, held := true, isOpen := !later.any Act.isFlush }
        written := (window later).filter filter.shows } := by
  have hwritten : (fresh.actAll acts).written = [] :=
    written_of_not_installed (by rw [isInstalled, hvacant])
  have hinstalled : (fresh.actAll acts).act (.install filter layout true) =
      ⟨.own ⟨filter, layout, true, true⟩, []⟩ := by
    simp only [act, hvacant, hwritten]
  rw [actAll_append, actAll_cons, hinstalled, actAll_held rfl rfl rfl, List.nil_append]

end Logger

end VmSupport.Log
