import VmSupport.Proofs.Settings.Discovery

/-!
# Overriding the settings of the log

Of the three variables that override settings, two are about the log. As settings are overridden as
a whole or not at all, these two can keep a capacity from being overridden: if one of them cannot be
read, nothing is.

**The law** (`override_capacity`): that is all they can do. In two environments that have the same
text for the capacity, and texts for the log that can be read, overriding comes to the same capacity,
or to the same complaint. So does looking for settings (`discover_capacity`).
-/

namespace VmSupport.Settings

/-- A variable can be read, if it is there. -/
def Readable {α : Type} (read : String → Except String α) (text : Option String) : Prop :=
  ∀ raw, text = some raw → ∃ value, read raw = .ok value

theorem readable_none {α : Type} (read : String → Except String α) : Readable read none :=
  fun _ h => by cases h

theorem readable_some {α : Type} {read : String → Except String α} {raw : String} {value : α}
    (h : read raw = .ok value) : Readable read (some raw) := by
  rintro _ ⟨⟩
  exact ⟨value, h⟩

/-- A variable has the same text in two environments, or it can be read in both. -/
def SameUse {α : Type} (read : String → Except String α) (text text' : Option String) : Prop :=
  text = text' ∨ (Readable read text ∧ Readable read text')

/-- Two environments differ in the settings of the log that they lead to, and not in what can be
read. -/
structure SameButLog (lookup lookup' : Lookup) : Prop where
  size : lookup' sizeVariable = lookup sizeVariable
  level : SameUse Log.Level.read (lookup levelVariable) (lookup' levelVariable)
  layout : SameUse Log.Layout.read (lookup layoutVariable) (lookup' layoutVariable)

section

variable {lookup lookup' : Lookup} {s s' : Settings}

theorem overridden_of_readable {α : Type} {key : String} {read : String → Except String α}
    (h : Readable read (lookup key)) (present : α) :
    ∃ value, overridden lookup key read present = .ok value := by
  unfold overridden
  cases hkey : lookup key with
  | none => exact ⟨present, rfl⟩
  | some raw =>
    obtain ⟨value, hvalue⟩ := h raw hkey
    exact ⟨value, congrArg (Except.mapError (Rejection.mk key)) hvalue⟩

/-- A variable that is used alike gives a value in both environments, or the same complaint. -/
theorem overridden_cases {α : Type} {key : String} {read : String → Except String α}
    (h : SameUse read (lookup key) (lookup' key)) (present present' : α) :
    (∃ r, overridden lookup key read present = .error r ∧
      overridden lookup' key read present' = .error r) ∨
    ∃ value value', overridden lookup key read present = .ok value ∧
      overridden lookup' key read present' = .ok value' := by
  obtain hsame | ⟨hread, hread'⟩ := h
  · unfold overridden
    rw [← hsame]
    cases lookup key with
    | none => exact .inr ⟨_, _, rfl, rfl⟩
    | some raw =>
      cases hraw : read raw with
      | error e =>
        have herror := congrArg (Except.mapError (Rejection.mk key)) hraw
        exact .inl ⟨⟨key, e⟩, herror, herror⟩
      | ok value =>
        have hvalue := congrArg (Except.mapError (Rejection.mk key)) hraw
        exact .inr ⟨value, value, hvalue, hvalue⟩
  · obtain ⟨value, hvalue⟩ := overridden_of_readable hread present
    obtain ⟨value', hvalue'⟩ := overridden_of_readable hread' present'
    exact .inr ⟨value, value', hvalue, hvalue'⟩

/-- Only the capacity decides whether settings can be used. -/
theorem rejection?_eq (h : s'.capacity = s.capacity) : s'.rejection? = s.rejection? := by
  unfold rejection?
  rw [h]

theorem checked_capacity (h : s'.capacity = s.capacity) :
    s'.checked.map (·.capacity) = s.checked.map (·.capacity) := by
  unfold checked
  rw [rejection?_eq h]
  cases s.rejection? with
  | some r => rfl
  | none => exact congrArg Except.ok h

/-- **Overriding** comes to the same capacity or to the same complaint. -/
theorem override_capacity (h : SameButLog lookup lookup') (hs : s'.capacity = s.capacity) :
    (s'.override lookup').map (·.capacity) = (s.override lookup).map (·.capacity) := by
  have hsize : overridden lookup' sizeVariable readCapacity s'.capacity =
      overridden lookup sizeVariable readCapacity s.capacity := by
    unfold overridden
    rw [h.size, hs]
  unfold override
  rw [hsize]
  cases overridden lookup sizeVariable readCapacity s.capacity with
  | error r => rfl
  | ok capacity =>
    obtain ⟨r, hl, hl'⟩ | ⟨level, level', hl, hl'⟩ :=
      overridden_cases h.level s.log.level s'.log.level
    · rw [hl, hl']
      rfl
    obtain ⟨r, hf, hf'⟩ | ⟨layout, layout', hf, hf'⟩ :=
      overridden_cases h.layout s.log.layout s'.log.layout
    · rw [hl, hl', hf, hf']
      rfl
    · rw [hl, hl', hf, hf']
      exact checked_capacity rfl

/-- An attempt to override comes to the same capacity, and to the same complaint if it fails. -/
theorem tryOverride_capacity (h : SameButLog lookup lookup') (hs : s'.capacity = s.capacity) :
    (s'.tryOverride lookup').1.capacity = (s.tryOverride lookup).1.capacity ∧
      (s'.tryOverride lookup').2 = (s.tryOverride lookup).2 := by
  have hover := override_capacity h hs
  unfold tryOverride
  cases ho : s.override lookup with
  | ok next =>
    cases ho' : s'.override lookup' with
    | ok next' =>
      rw [ho, ho'] at hover
      exact ⟨Except.ok.inj hover, rfl⟩
    | error r' =>
      rw [ho, ho'] at hover
      cases hover
  | error r =>
    cases ho' : s'.override lookup' with
    | ok next' =>
      rw [ho, ho'] at hover
      cases hover
    | error r' =>
      rw [ho, ho'] at hover
      cases hover
      exact ⟨hs, rfl⟩

/-- **Looking for settings** comes to the same capacity. -/
theorem discover_capacity (h : SameButLog lookup lookup') (current : Files.Place) :
    (discover current lookup').1.capacity = (discover current lookup).1.capacity := by
  rw [discover_fst, discover_fst]
  exact (tryOverride_capacity h rfl).1

end

end VmSupport.Settings
