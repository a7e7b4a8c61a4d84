import VmSupport.Settings.Override

/-!
# What it takes to override settings

The three variables are read one after another, and the outcome is checked at the end. What comes to
the same is stated without an order: `Overrides lookup s s'` says that `s'` is `s` with every
variable that is present in place, and that it can be used.

**The law** (`override_eq_ok_iff`): overriding gives `s'` exactly if `s'` overrides `s`. So it fails
exactly if one of the variables cannot be read, or if the outcome cannot be used.
-/

namespace VmSupport.Settings

theorem mapError_eq_ok_iff {ε ε' α : Type} {x : Except ε α} {f : ε → ε'} {a : α} :
    x.mapError f = .ok a ↔ x = .ok a := by
  cases x with
  | error e =>
    constructor <;>
    · intro h
      cases h
  | ok b =>
    constructor <;>
    · intro h
      cases h
      rfl

theorem mapError_eq_error_iff {ε ε' α : Type} {x : Except ε α} {f : ε → ε'} {e : ε'} :
    x.mapError f = .error e ↔ ∃ e₀, x = .error e₀ ∧ f e₀ = e := by
  cases x with
  | error e₀ =>
    constructor
    · intro h
      cases h
      exact ⟨e₀, rfl, rfl⟩
    · rintro ⟨_, ⟨⟩, rfl⟩
      rfl
  | ok a =>
    constructor
    · intro h
      cases h
    · rintro ⟨_, ⟨⟩, -⟩

/-- Settings pass the check as they are, if they can be used. -/
theorem checked_eq_ok_iff {s s' : Settings} :
    s.checked = .ok s' ↔ s = s' ∧ s'.rejection? = none := by
  unfold checked
  cases hr : s.rejection? with
  | none =>
    constructor
    · intro h
      cases h
      exact ⟨rfl, hr⟩
    · rintro ⟨rfl, -⟩
      rfl
  | some r =>
    constructor
    · intro h
      cases h
    · rintro ⟨rfl, hnone⟩
      rw [hr] at hnone
      cases hnone

theorem checked_eq_error_iff {s : Settings} {r : Rejection} :
    s.checked = .error r ↔ s.rejection? = some r := by
  unfold checked
  cases s.rejection? with
  | none => simp only [reduceCtorEq]
  | some r' => simp only [Except.error.injEq, Option.some.injEq]

/-- The value that a variable leads to: what its text reads as, and the present value if it is
absent. -/
def Takes {α : Type} (lookup : Lookup) (key : String) (read : String → Except String α)
    (present value : α) : Prop :=
  match lookup key with
  | none => value = present
  | some raw => read raw = .ok value

theorem overridden_eq_ok_iff {α : Type} {lookup : Lookup} {key : String}
    {read : String → Except String α} {present value : α} :
    overridden lookup key read present = .ok value ↔ Takes lookup key read present value := by
  unfold overridden Takes
  cases lookup key with
  | none =>
    constructor
    · intro h
      cases h
      rfl
    · rintro rfl
      rfl
  | some raw => exact mapError_eq_ok_iff

/-- **The second settings override the first**: every variable that is present is in place, nothing
else is changed, and the outcome can be used. -/
structure Overrides (lookup : Lookup) (s s' : Settings) : Prop where
  capacity : Takes lookup sizeVariable readCapacity s.capacity s'.capacity
  level : Takes lookup levelVariable Log.Level.read s.log.level s'.log.level
  layout : Takes lookup layoutVariable Log.Layout.read s.log.layout s'.log.layout
  spanEvents : s'.log.spanEvents = s.log.spanEvents
  filter : s'.log.filter = s.log.filter
  usable : s'.rejection? = none

/-- **Overriding gives what overrides the settings**, and nothing else. -/
theorem override_eq_ok_iff {lookup : Lookup} {s s' : Settings} :
    s.override lookup = .ok s' ↔ Overrides lookup s s' := by
  constructor
  · intro h
    unfold override at h
    cases hc : overridden lookup sizeVariable readCapacity s.capacity with
    | error r => rw [hc] at h; cases h
    | ok capacity =>
    cases hl : overridden lookup levelVariable Log.Level.read s.log.level with
    | error r => rw [hc, hl] at h; cases h
    | ok level =>
    cases hf : overridden lookup layoutVariable Log.Layout.read s.log.layout with
    | error r => rw [hc, hl, hf] at h; cases h
    | ok layout =>
    rw [hc, hl, hf] at h
    obtain ⟨rfl, husable⟩ := checked_eq_ok_iff.mp h
    exact ⟨overridden_eq_ok_iff.mp hc, overridden_eq_ok_iff.mp hl, overridden_eq_ok_iff.mp hf, rfl,
      rfl, husable⟩
  · intro h
    have hsame : (⟨s'.capacity, ⟨s'.log.level, s'.log.layout, s.log.spanEvents, s.log.filter⟩⟩ :
        Settings) = s' := by
      rw [← h.spanEvents, ← h.filter]
    unfold override
    rw [overridden_eq_ok_iff.mpr h.capacity, overridden_eq_ok_iff.mpr h.level,
      overridden_eq_ok_iff.mpr h.layout]
    exact checked_eq_ok_iff.mpr ⟨hsame, h.usable⟩

/-- An attempt to override gives what overrides the settings, if anything does, and else leaves them
as they are. -/
theorem tryOverride_cases (lookup : Lookup) (s : Settings) :
    Overrides lookup s (s.tryOverride lookup).1 ∨
    (¬ ∃ s', Overrides lookup s s') ∧ (s.tryOverride lookup).1 = s := by
  unfold tryOverride
  cases ho : s.override lookup with
  | ok s' => exact .inl (override_eq_ok_iff.mp ho)
  | error r =>
    refine .inr ⟨?_, rfl⟩
    rintro ⟨s', hs'⟩
    rw [override_eq_ok_iff.mpr hs'] at ho
    cases ho

end VmSupport.Settings
