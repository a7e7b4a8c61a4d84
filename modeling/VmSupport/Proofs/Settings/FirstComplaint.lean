import VmSupport.Proofs.Log.NamesInAnyCase
import VmSupport.Proofs.Settings.Overriding
import VmSupport.Proofs.Settings.SizeText

/-!
# Overriding settings as a whole or not at all

Four things may go wrong when settings are overridden: each of the three variables may hold a text
that means nothing, and the outcome may not be usable.

What the texts mean is said without the readers (`Variable`): a byte size is a text of the grammar
`SizeText` whose size is a machine word, a level or a layout is its name in any case of the letters.
From there on it is stated what the settings are with the variables in place (`Placed`), and what
each of the four has to complain about (`Complains`). Neither knows in which order the variables are
read.

**The law** (`tryOverride_decided`): the attempt fails exactly if one of the four complains, the
complaint reported is the first in the order capacity, level, layout, use, and the settings are
then the ones from before, whatever the variables in front of the failing one said. If none
complains, the outcome has every variable that is present in place, nothing else is changed, and it
can be used.

The settings from before need not be usable. They may be mended by an override, and if they are not
they are refused like any other outcome, also if no variable is present.
-/

namespace VmSupport.Settings

open Text (EqUpToCase lower)

/-! ## What a variable may hold -/

/-- **A variable**: its name, which text means which value, and what is said of a text that means
nothing. -/
structure Variable (α : Type) where
  key : String
  means : String → α → Prop
  reason : String → String

namespace Variable

/-- The variable for the capacity. -/
def capacity : Variable Nat where
  key := sizeVariable
  means raw n := SizeText raw.toList n ∧ n < 2 ^ 64
  reason raw := "'" ++ raw ++ "' is not a byte size"

/-- The variable for the level. -/
def level : Variable Log.Level where
  key := levelVariable
  means raw l := EqUpToCase raw l.name
  reason raw := "unknown log level '" ++ lower raw ++ "'"

/-- The variable for the layout. -/
def layout : Variable Log.Layout where
  key := layoutVariable
  means raw l := EqUpToCase raw l.name
  reason raw := "unknown log format '" ++ lower raw ++ "'"

variable {α : Type}

/-- The value that a variable leads to: what its text means, and the present one if it is absent. -/
def Gives (v : Variable α) (lookup : Lookup) (present value : α) : Prop :=
  match lookup v.key with
  | none => value = present
  | some raw => v.means raw value

/-- The complaint about a variable whose text means nothing. It names the variable. -/
def Complains (v : Variable α) (lookup : Lookup) (r : Rejection) : Prop :=
  ∃ raw, lookup v.key = some raw ∧ (∀ a, ¬ v.means raw a) ∧ r = ⟨v.key, v.reason raw⟩

/-- A reader finds what the texts of a variable mean, and says so of those that mean nothing. -/
structure ReadBy (v : Variable α) (read : String → Except String α) : Prop where
  ok_iff : ∀ raw a, read raw = .ok a ↔ v.means raw a
  error_iff : ∀ raw m, read raw = .error m ↔ (∀ a, ¬ v.means raw a) ∧ m = v.reason raw

end Variable

/-! ## All of them -/

/-- What may go wrong. -/
inductive Stage where
  | capacity
  | level
  | layout
  | use
  deriving DecidableEq, Repr

/-- The order in which complaints are reported. -/
def Stage.all : List Stage := [capacity, level, layout, use]

theorem Stage.mem_all (stage : Stage) : stage ∈ all := by cases stage <;> decide

/-- **The second settings are the first with the variables in place**; nothing else is changed. -/
structure Placed (lookup : Lookup) (s s' : Settings) : Prop where
  capacity : Variable.capacity.Gives lookup s.capacity s'.capacity
  level : Variable.level.Gives lookup s.log.level s'.log.level
  layout : Variable.layout.Gives lookup s.log.layout s'.log.layout
  spanEvents : s'.log.spanEvents = s.log.spanEvents
  filter : s'.log.filter = s.log.filter

/-- **What each stage complains about.** -/
def Complains (lookup : Lookup) (s : Settings) : Stage → Rejection → Prop
  | .capacity, r => Variable.capacity.Complains lookup r
  | .level, r => Variable.level.Complains lookup r
  | .layout, r => Variable.layout.Complains lookup r
  | .use, r => ∃ s', Placed lookup s s' ∧ s'.rejection? = some r

/-- A complaint is the first of some stages: those in front of it have none. -/
def IsFirst (complains : Stage → Rejection → Prop) : List Stage → Rejection → Prop
  | [], _ => False
  | stage :: rest, r =>
    complains stage r ∨ (∀ other, ¬ complains stage other) ∧ IsFirst complains rest r

/-! ## Readers -/

/-- **A capacity** reads exactly as the byte size does. -/
theorem readCapacity_eq_ok_iff {raw : String} {n : Nat} :
    readCapacity raw = .ok n ↔ readSize? raw = some n := by
  unfold readCapacity
  cases readSize? raw with
  | none => simp only [reduceCtorEq]
  | some m => simp only [Except.ok.injEq, Option.some.injEq]

/-- What is no byte size is quoted in the complaint. -/
theorem readCapacity_eq_error_iff {raw m : String} :
    readCapacity raw = .error m ↔
      readSize? raw = none ∧ m = "'" ++ raw ++ "' is not a byte size" := by
  unfold readCapacity
  cases readSize? raw with
  | none =>
    constructor
    · intro h
      cases h
      exact ⟨rfl, rfl⟩
    · rintro ⟨-, rfl⟩
      rfl
  | some n => simp only [reduceCtorEq, false_and]

/-- What reads as a byte size is what the grammar says, if it is a machine word. -/
theorem readSize?_eq_some_iff {raw : String} {n : Nat} :
    readSize? raw = some n ↔ SizeText raw.toList n ∧ n < 2 ^ 64 :=
  ⟨sizeText_of_readSizeChars?, fun h => readSizeChars?_of_sizeText h.1 h.2⟩

namespace Variable

theorem capacity_readBy : capacity.ReadBy readCapacity where
  ok_iff _ _ := readCapacity_eq_ok_iff.trans readSize?_eq_some_iff
  error_iff raw m := by
    rw [readCapacity_eq_error_iff, Option.eq_none_iff_forall_ne_some]
    exact and_congr_left' (forall_congr' fun n => not_congr readSize?_eq_some_iff)

theorem level_readBy : level.ReadBy Log.Level.read := by
  rw [Log.Level.read_eq_readName]
  exact ⟨fun _ _ => Log.Level.apt.readName_eq_ok_iff, fun _ _ => Log.Level.apt.readName_eq_error_iff⟩

theorem layout_readBy : layout.ReadBy Log.Layout.read := by
  rw [Log.Layout.read_eq_readName]
  exact ⟨fun _ _ => Log.Layout.apt.readName_eq_ok_iff,
    fun _ _ => Log.Layout.apt.readName_eq_error_iff⟩

variable {α : Type} {v : Variable α} {read : String → Except String α} {lookup : Lookup}
  {present value value' : α} {r r' : Rejection}

theorem ReadBy.overridden_eq_ok_iff (h : v.ReadBy read) :
    overridden lookup v.key read present = .ok value ↔ v.Gives lookup present value := by
  rw [Settings.overridden_eq_ok_iff, Takes, Gives]
  cases lookup v.key with
  | none => rfl
  | some raw => exact h.ok_iff raw value

theorem ReadBy.overridden_eq_error_iff (h : v.ReadBy read) :
    overridden lookup v.key read present = .error r ↔ v.Complains lookup r := by
  unfold overridden Complains
  cases lookup v.key with
  | none => simp only [reduceCtorEq, false_and, exists_false]
  | some raw =>
    simp only [mapError_eq_error_iff, h.error_iff, Option.some.injEq, exists_eq_left']
    constructor
    · rintro ⟨_, ⟨hnone, rfl⟩, rfl⟩
      exact ⟨hnone, rfl⟩
    · rintro ⟨hnone, rfl⟩
      exact ⟨_, ⟨hnone, rfl⟩, rfl⟩

/-- A text means one thing at most. -/
theorem ReadBy.gives_unique (h : v.ReadBy read) (hgives : v.Gives lookup present value)
    (hgives' : v.Gives lookup present value') : value = value' := by
  have hvalue := h.overridden_eq_ok_iff.mpr hgives
  rw [h.overridden_eq_ok_iff.mpr hgives'] at hvalue
  cases hvalue
  rfl

theorem Complains.unique (h : v.Complains lookup r) (h' : v.Complains lookup r') : r = r' := by
  obtain ⟨raw, hraw, -, rfl⟩ := h
  obtain ⟨raw', hraw', -, rfl⟩ := h'
  cases hraw.symm.trans hraw'
  rfl

/-- A variable that gives a value does not complain. -/
theorem Gives.not_complains (h : v.Gives lookup present value) : ¬ v.Complains lookup r := by
  rintro ⟨raw, hraw, hnone, -⟩
  rw [Gives, hraw] at h
  exact hnone value h

end Variable

/-! ## Stages -/

section

variable {lookup : Lookup} {s s' s'' : Settings} {stage : Stage} {r r' : Rejection}
  {complains : Stage → Rejection → Prop} {rest : List Stage}

/-- Nothing else has the variables in place. -/
theorem Placed.unique (h : Placed lookup s s') (h' : Placed lookup s s'') : s' = s'' := by
  obtain ⟨capacity, level, layout, spanEvents, filter⟩ := s'
  obtain ⟨hcapacity, hlevel, hlayout, rfl, rfl⟩ := h
  obtain ⟨capacity', level', layout', spanEvents', filter'⟩ := s''
  obtain ⟨hcapacity', hlevel', hlayout', rfl, rfl⟩ := h'
  cases Variable.capacity_readBy.gives_unique hcapacity hcapacity'
  cases Variable.level_readBy.gives_unique hlevel hlevel'
  cases Variable.layout_readBy.gives_unique hlayout hlayout'
  rfl

/-- What overrides settings is what has the variables in place and can be used. -/
theorem overrides_iff : Overrides lookup s s' ↔ Placed lookup s s' ∧ s'.rejection? = none := by
  have hcapacity : Takes lookup sizeVariable readCapacity s.capacity s'.capacity ↔ _ :=
    overridden_eq_ok_iff.symm.trans Variable.capacity_readBy.overridden_eq_ok_iff
  have hlevel : Takes lookup levelVariable Log.Level.read s.log.level s'.log.level ↔ _ :=
    overridden_eq_ok_iff.symm.trans Variable.level_readBy.overridden_eq_ok_iff
  have hlayout : Takes lookup layoutVariable Log.Layout.read s.log.layout s'.log.layout ↔ _ :=
    overridden_eq_ok_iff.symm.trans Variable.layout_readBy.overridden_eq_ok_iff
  constructor
  · rintro ⟨hc, hl, hf, hspan, hfilter, husable⟩
    exact ⟨⟨hcapacity.mp hc, hlevel.mp hl, hlayout.mp hf, hspan, hfilter⟩, husable⟩
  · rintro ⟨⟨hc, hl, hf, hspan, hfilter⟩, husable⟩
    exact ⟨hcapacity.mpr hc, hlevel.mpr hl, hlayout.mpr hf, hspan, hfilter, husable⟩

/-- A stage has one complaint at most. -/
theorem Complains.unique (h : Complains lookup s stage r) (h' : Complains lookup s stage r') :
    r = r' := by
  cases stage with
  | capacity | level | layout => exact Variable.Complains.unique h h'
  | use =>
    obtain ⟨next, hplaced, hr⟩ := h
    obtain ⟨next', hplaced', hr'⟩ := h'
    cases hplaced.unique hplaced'
    cases hr.symm.trans hr'
    rfl

/-- Where the first stage has a complaint, this is the first of all. -/
theorem eq_error_iff_isFirst {α : Type} {x : Except Rejection α} (hx : x = .error r)
    (h : Complains lookup s stage r) :
    x = .error r' ↔ IsFirst (Complains lookup s) (stage :: rest) r' := by
  rw [hx]
  constructor
  · intro heq
    cases heq
    exact .inl h
  · rintro (h' | ⟨hnone, -⟩)
    · rw [h.unique h']
    · exact absurd h (hnone r)

/-- Where it has none, the first is that of the stages behind it. -/
theorem isFirst_cons_iff_rest (h : ∀ other, ¬ complains stage other) :
    IsFirst complains (stage :: rest) r ↔ IsFirst complains rest r :=
  ⟨fun hfirst => (hfirst.resolve_left (h r)).2, fun hrest => .inr ⟨h, hrest⟩⟩

/-- There is a first complaint if there is any. -/
theorem exists_isFirst_iff (stages : List Stage) :
    (∃ r, IsFirst complains stages r) ↔ ∃ stage ∈ stages, ∃ r, complains stage r := by
  induction stages with
  | nil => simp only [IsFirst, exists_false, List.not_mem_nil, false_and]
  | cons stage rest ih =>
    rw [List.exists_mem_cons_iff, ← ih]
    by_cases h : ∃ r, complains stage r
    · exact iff_of_true (h.imp fun _ hr => .inl hr) (.inl h)
    · rw [or_iff_right h]
      exact exists_congr fun r => isFirst_cons_iff_rest (not_exists.mp h)

/-- **Overriding fails with the first complaint.** -/
theorem override_eq_error_iff :
    s.override lookup = .error r ↔ IsFirst (Complains lookup s) Stage.all r := by
  unfold override Stage.all
  cases hc : overridden lookup sizeVariable readCapacity s.capacity with
  | error r₁ =>
    exact eq_error_iff_isFirst rfl (Variable.capacity_readBy.overridden_eq_error_iff.mp hc)
  | ok capacity =>
  have hcapacity := Variable.capacity_readBy.overridden_eq_ok_iff.mp hc
  rw [isFirst_cons_iff_rest fun _ => hcapacity.not_complains]
  cases hl : overridden lookup levelVariable Log.Level.read s.log.level with
  | error r₁ =>
    exact eq_error_iff_isFirst rfl (Variable.level_readBy.overridden_eq_error_iff.mp hl)
  | ok level =>
  have hlevel := Variable.level_readBy.overridden_eq_ok_iff.mp hl
  rw [isFirst_cons_iff_rest fun _ => hlevel.not_complains]
  cases hf : overridden lookup layoutVariable Log.Layout.read s.log.layout with
  | error r₁ =>
    exact eq_error_iff_isFirst rfl (Variable.layout_readBy.overridden_eq_error_iff.mp hf)
  | ok layout =>
  have hlayout := Variable.layout_readBy.overridden_eq_ok_iff.mp hf
  rw [isFirst_cons_iff_rest fun _ => hlayout.not_complains]
  -- all three variables are in place, and what is left is the check
  let next : Settings := { capacity, log := { s.log with level, layout } }
  have hplaced : Placed lookup s next := ⟨hcapacity, hlevel, hlayout, rfl, rfl⟩
  have huse : Complains lookup s .use r ↔ next.rejection? = some r := by
    refine ⟨?_, fun h => ⟨next, hplaced, h⟩⟩
    rintro ⟨next', hplaced', h⟩
    rwa [hplaced.unique hplaced']
  show next.checked = .error r ↔ _
  rw [checked_eq_error_iff, IsFirst, IsFirst, and_false, or_false, huse]

end

/-! ## The law -/

/-- **What comes of an attempt to override settings**: these settings, and this complaint if it
failed. -/
structure Decided (lookup : Lookup) (s after : Settings) (complaint : Option Rejection) : Prop where
  /-- It fails exactly if a stage complains. -/
  fails_iff : complaint.isSome = true ↔ ∃ stage r, Complains lookup s stage r
  /-- The complaint is the first in the order of the stages. -/
  first_iff : ∀ r, complaint = some r ↔ IsFirst (Complains lookup s) Stage.all r
  /-- A failure leaves the settings as they were. -/
  kept : complaint.isSome = true → after = s
  /-- A success has the variables in place, as nothing else has, and can be used. -/
  placed : complaint = none → Placed lookup s after ∧
    (∀ other, Placed lookup s other → other = after) ∧ after.rejection? = none

/-- **An attempt to override is decided by what the variables mean**: it reports the first complaint
and changes nothing, or there is none, and the outcome has the variables in place. -/
theorem tryOverride_decided (lookup : Lookup) (s : Settings) :
    Decided lookup s (s.tryOverride lookup).1 (s.tryOverride lookup).2 := by
  have hfirst (r : Rejection) :
      (s.tryOverride lookup).2 = some r ↔ IsFirst (Complains lookup s) Stage.all r := by
    rw [← override_eq_error_iff, tryOverride]
    cases s.override lookup with
    | ok next => simp only [reduceCtorEq]
    | error r' => simp only [Option.some.injEq, Except.error.injEq]
  refine ⟨?_, hfirst, ?_, ?_⟩
  · rw [Option.isSome_iff_exists, exists_congr hfirst, exists_isFirst_iff]
    exact exists_congr fun stage => and_iff_right stage.mem_all
  · unfold tryOverride
    cases s.override lookup with
    | ok next => exact fun h => by cases h
    | error r => exact fun _ => rfl
  · unfold tryOverride
    cases ho : s.override lookup with
    | error r => exact fun h => by cases h
    | ok next =>
      obtain ⟨hplaced, husable⟩ := overrides_iff.mp (override_eq_ok_iff.mp ho)
      exact fun _ => ⟨hplaced, fun other hother => hother.unique hplaced, husable⟩

/-- A capacity that reads counts for nothing where the level does not. -/
example (s : Settings) :
    s.tryOverride (fun key =>
      if key = sizeVariable then some "2m" else if key = levelVariable then some "Loud" else none) =
      (s, some ⟨levelVariable, "unknown log level 'loud'"⟩) := by
  rfl

end VmSupport.Settings
