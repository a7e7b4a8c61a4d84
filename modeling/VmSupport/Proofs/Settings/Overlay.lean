import VmSupport.Proofs.Settings.Overriding

/-!
# Overriding settings again and again

Settings that were overridden can be overridden again. What was said last counts, so two overrides
come to a single one: with the variables of both, where the later text stands for a variable that
both have (`Lookup.over`).

**The law** (`overrides_act`): once the first override has gone through, the second one goes through
exactly if the single one does, and they lead to the same settings. That the single one does not
read the texts that were replaced makes no difference then. In particular nothing is gained by
overriding twice with the same variables. And if no variable is in both lookups, the order of two
overrides does not show in what they lead to, as long as both orders go through.

Both orders need not go through together: settings that cannot be used may be mended by one of the
two overrides, and then the other one is refused if it comes first.

The proof goes variable by variable (`Takes.over_iff`). Whether settings can be used is asked of the
outcome alone, and the outcome is the same either way.
-/

namespace VmSupport.Settings

/-! ## Lookups -/

/-- The variables that override settings. -/
def overridingKeys : List String := [sizeVariable, levelVariable, layoutVariable]

/-- The variables of two lookups; what both have is taken from the later one. -/
def Lookup.over (later earlier : Lookup) : Lookup :=
  fun key => (later key).or (earlier key)

/-- No variable that overrides settings is in both lookups. -/
def Lookup.Disjoint (lookup lookup' : Lookup) : Prop :=
  ∀ key ∈ overridingKeys, lookup key = none ∨ lookup' key = none

instance (lookup lookup' : Lookup) : Decidable (lookup.Disjoint lookup') :=
  inferInstanceAs (Decidable (∀ key ∈ overridingKeys, lookup key = none ∨ lookup' key = none))

/-- The lookup that has these texts for the capacity, the level and the layout. -/
def Lookup.ofTexts (size level layout : Option String) : Lookup := fun key =>
  if key = sizeVariable then size
  else if key = levelVariable then level
  else if key = layoutVariable then layout
  else none

/-- A lookup says nothing new over itself. -/
theorem Lookup.over_self (lookup : Lookup) : lookup.over lookup = lookup :=
  funext fun _ => Option.or_self

/-- Over one another, lookups without a variable in common say the same either way. -/
theorem Lookup.Disjoint.over_comm {lookup lookup' : Lookup} (h : lookup.Disjoint lookup')
    {key : String} (hkey : key ∈ overridingKeys) :
    lookup'.over lookup key = lookup.over lookup' key := by
  unfold Lookup.over
  rcases h key hkey with hnone | hnone <;> rw [hnone, Option.none_or, Option.or_none]

/-! ## One variable -/

section

variable {α : Type} {lookup lookup' : Lookup} {key : String} {read : String → Except String α}
  {present value value' : α}

/-- A variable leads to one value. -/
theorem Takes.unique (h : Takes lookup key read present value)
    (h' : Takes lookup key read present value') : value = value' := by
  unfold Takes at h h'
  cases htext : lookup key with
  | none =>
    rw [htext] at h h'
    exact h.trans h'.symm
  | some raw =>
    rw [htext] at h h'
    exact Except.ok.inj (h.symm.trans h')

/-- It leads to the same value by its text alone. -/
theorem Takes.congr (hsame : lookup key = lookup' key) (h : Takes lookup key read present value) :
    Takes lookup' key read present value := by
  unfold Takes at h ⊢
  rwa [← hsame]

/-- **A variable that is taken twice** is taken once, from the lookup that has it last. -/
theorem Takes.over_iff (h : Takes lookup key read present value) :
    Takes lookup' key read value value' ↔ Takes (lookup'.over lookup) key read present value' := by
  cases htext : lookup' key with
  | none =>
    have hover : lookup'.over lookup key = lookup key := by rw [Lookup.over, htext, Option.none_or]
    have hkept : Takes lookup' key read value value' ↔ value' = value := by rw [Takes, htext]
    rw [hkept]
    constructor
    · rintro rfl
      exact h.congr hover.symm
    · intro hvalue'
      exact (hvalue'.congr hover).unique h
  | some raw =>
    have hover : lookup'.over lookup key = some raw := by rw [Lookup.over, htext, Option.some_or]
    rw [Takes, Takes, htext, hover]

end

/-! ## All of them -/

section

variable {lookup lookup' : Lookup} {s s₁ s₂ : Settings}

/-- An attempt to override goes through exactly to what overrides the settings. -/
theorem tryOverride_eq_iff : s.tryOverride lookup = (s₁, none) ↔ Overrides lookup s s₁ := by
  rw [← override_eq_ok_iff, tryOverride]
  cases s.override lookup with
  | ok next =>
    constructor
    · intro h
      cases h
      rfl
    · intro h
      cases h
      rfl
  | error r =>
    constructor
    · intro h
      cases h
    · intro h
      cases h

theorem Overrides.unique (h₁ : Overrides lookup s s₁) (h₂ : Overrides lookup s s₂) : s₁ = s₂ :=
  Except.ok.inj ((override_eq_ok_iff.mpr h₁).symm.trans (override_eq_ok_iff.mpr h₂))

/-- Only the three variables count. -/
theorem Overrides.congr (hsame : ∀ key ∈ overridingKeys, lookup key = lookup' key)
    (h : Overrides lookup s s₁) : Overrides lookup' s s₁ where
  capacity := h.capacity.congr (hsame _ (by simp [overridingKeys]))
  level := h.level.congr (hsame _ (by simp [overridingKeys]))
  layout := h.layout.congr (hsame _ (by simp [overridingKeys]))
  spanEvents := h.spanEvents
  filter := h.filter
  usable := h.usable

/-- **Two overrides are one**, once the first has gone through. -/
theorem Overrides.over_iff (h : Overrides lookup s s₁) :
    Overrides lookup' s₁ s₂ ↔ Overrides (lookup'.over lookup) s s₂ := by
  constructor
  · intro hsecond
    exact
      { capacity := h.capacity.over_iff.mp hsecond.capacity
        level := h.level.over_iff.mp hsecond.level
        layout := h.layout.over_iff.mp hsecond.layout
        spanEvents := hsecond.spanEvents.trans h.spanEvents
        filter := hsecond.filter.trans h.filter
        usable := hsecond.usable }
  · intro hsingle
    exact
      { capacity := h.capacity.over_iff.mpr hsingle.capacity
        level := h.level.over_iff.mpr hsingle.level
        layout := h.layout.over_iff.mpr hsingle.layout
        spanEvents := hsingle.spanEvents.trans h.spanEvents.symm
        filter := hsingle.filter.trans h.filter.symm
        usable := hsingle.usable }

/-- An override that has gone through goes through again, and changes nothing. -/
theorem Overrides.again (h : Overrides lookup s s₁) : Overrides lookup s₁ s₁ := by
  rw [h.over_iff, Lookup.over_self]
  exact h

/-- Where no variable is in both lookups, two orders that go through lead to the same settings. -/
theorem Overrides.comm {s₁' s₂' : Settings} (hdisjoint : lookup.Disjoint lookup')
    (h₁ : Overrides lookup s s₁) (h₂ : Overrides lookup' s₁ s₂)
    (h₁' : Overrides lookup' s s₁') (h₂' : Overrides lookup s₁' s₂') : s₂ = s₂' := by
  have hsingle : Overrides (lookup'.over lookup) s s₂ := h₁.over_iff.mp h₂
  have hsingle' : Overrides (lookup.over lookup') s s₂' := h₁'.over_iff.mp h₂'
  exact (hsingle.congr fun _ hkey => hdisjoint.over_comm hkey).unique hsingle'

end

/-- **Overrides act by what was said last**, on any settings, usable or not: two that go through are
one, the same one again changes nothing, and the order of two without a variable in common does not
show. -/
theorem overrides_act (lookup lookup' : Lookup) (s : Settings) :
    (∀ s₁ s₂, s.tryOverride lookup = (s₁, none) →
      (s₁.tryOverride lookup' = (s₂, none) ↔ s.tryOverride (lookup'.over lookup) = (s₂, none))) ∧
    (∀ s₁, s.tryOverride lookup = (s₁, none) → s₁.tryOverride lookup = (s₁, none)) ∧
    (lookup.Disjoint lookup' → ∀ s₁ s₂ s₁' s₂',
      s.tryOverride lookup = (s₁, none) → s₁.tryOverride lookup' = (s₂, none) →
      s.tryOverride lookup' = (s₁', none) → s₁'.tryOverride lookup = (s₂', none) → s₂ = s₂') := by
  simp only [tryOverride_eq_iff]
  exact ⟨fun _ _ => Overrides.over_iff, fun _ => Overrides.again,
    fun hdisjoint _ _ _ _ => Overrides.comm hdisjoint⟩

/-- A capacity that cannot be used is mended, and the level is said twice. -/
theorem overrides_act_mended :
    Settings.tryOverride (.ofTexts (some "1k") (some "Warn") none) { capacity := 6 } =
      ({ capacity := 1024, log := { level := .warn } }, none) ∧
    Settings.tryOverride (.ofTexts (some "1k") (some "Warn") none)
        { capacity := 1024, log := { level := .warn } } =
      ({ capacity := 1024, log := { level := .warn } }, none) ∧
    Settings.tryOverride
        (Lookup.over (.ofTexts none (some "debug") none) (.ofTexts (some "1k") (some "Warn") none))
        { capacity := 6 } =
      ({ capacity := 1024, log := { level := .debug } }, none) ∧
    -- where there is nothing to mend, the layout can as well come first
    Lookup.Disjoint (.ofTexts (some "1k") (some "Warn") none) (.ofTexts none none (some "json")) ∧
    ∃ s s', Settings.tryOverride (.ofTexts none none (some "json"))
        { capacity := 1024, log := { level := .warn } } = (s, none) ∧
      Settings.tryOverride (.ofTexts (some "1k") (some "Warn") none)
        { log := { layout := .json } } = (s', none) ∧ s = s' := by
  have hmended : Settings.tryOverride (.ofTexts (some "1k") (some "Warn") none) { capacity := 6 } =
      ({ capacity := 1024, log := { level := .warn } }, none) := by decide
  have hlater : Settings.tryOverride (.ofTexts none none (some "json"))
        { capacity := 1024, log := { level := .warn } } =
      ({ capacity := 1024, log := { level := .warn, layout := .json } }, none) := by decide
  have hearlier : Settings.tryOverride (.ofTexts (some "1k") (some "Warn") none)
        { log := { layout := .json } } =
      ({ capacity := 1024, log := { level := .warn, layout := .json } }, none) := by decide
  obtain ⟨hsingle, hagain, -⟩ := overrides_act (.ofTexts (some "1k") (some "Warn") none)
    (.ofTexts none (some "debug") none) { capacity := 6 }
  obtain ⟨-, -, horder⟩ := overrides_act (.ofTexts (some "1k") (some "Warn") none)
    (.ofTexts none none (some "json")) {}
  exact ⟨hmended, hagain _ hmended, (hsingle _ _ hmended).mp (by decide), by decide, _, _, hlater,
    hearlier, horder (by decide) _ _ _ _ (by decide) hlater (by decide) hearlier⟩

end VmSupport.Settings
