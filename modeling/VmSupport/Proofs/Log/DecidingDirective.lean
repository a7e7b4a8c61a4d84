import Mathlib.Data.List.Induction
import VmSupport.Proofs.Log.Window

/-!
# Which directive decides

A filter is made by adding directives one after another. Which of them decides about a target is said
here from the directives alone, in the order in which they are added: those count that no later one
replaces (`InForce`), and of those that count and whose text the target begins with, the one with the
longest text decides (`Decides`).

**The law** (`Filter.passes_ofDirectives_iff`): the filter shows an event if and only if there is a
directive that decides about its target, and its threshold allows the level. There is no more than
one (`Decides.unique`), since two texts of one length that a target begins with are the same.

The law is about directives that ask for nothing but a target (`Directive.OnlyTarget`). A bare level,
which is for every target, and directives about spans and fields have no part in this.
-/

namespace VmSupport.Log

variable {ds : List Directive} {d d' e : Directive} {target text text' : String}
  {fields : List String}

/-- The directive asks for nothing but that a target begins with its text. -/
structure Directive.OnlyTarget (d : Directive) : Prop where
  hasTarget : d.target.isSome
  noSpan : d.span = none
  noFields : d.fields = []

theorem Directive.OnlyTarget.isPlain (h : d.OnlyTarget) : d.isPlain = true := by
  rw [Directive.isPlain, h.noSpan, h.noFields]
  rfl

theorem Directive.OnlyTarget.names_eq (h : d.OnlyTarget) : d.names = [] := by
  rw [Directive.names, h.noFields]
  rfl

/-! ## Which directives count -/

/-- A directive counts if no later one has the same text. -/
def InForce (ds : List Directive) (d : Directive) : Prop :=
  ∃ earlier later, ds = earlier ++ d :: later ∧ ∀ other ∈ later, other.target ≠ d.target

theorem not_inForce_nil : ¬ InForce [] d := by
  rintro ⟨earlier, later, heq, -⟩
  cases earlier <;> cases heq

/-- One more directive counts itself, and replaces what has its text. -/
theorem inForce_concat :
    InForce (ds ++ [e]) d ↔ d = e ∨ InForce ds d ∧ d.target ≠ e.target := by
  constructor
  · rintro ⟨earlier, later, heq, hlater⟩
    obtain rfl | ⟨later, last, rfl⟩ := later.eq_nil_or_concat
    · obtain ⟨-, hlast⟩ := List.append_inj' heq rfl
      cases hlast
      exact .inl rfl
    · rw [List.concat_eq_append] at heq hlater
      rw [← List.cons_append, ← List.append_assoc] at heq
      obtain ⟨rfl, hlast⟩ := List.append_inj' heq rfl
      cases hlast
      obtain ⟨hrest, hne⟩ := List.forall_mem_append.mp hlater
      exact .inr ⟨⟨earlier, later, rfl, hrest⟩, (hne e (List.mem_singleton.mpr rfl)).symm⟩
  · rintro (rfl | ⟨⟨earlier, later, rfl, hlater⟩, hne⟩)
    · exact ⟨ds, [], rfl, nofun⟩
    · refine ⟨earlier, later ++ [e], by rw [List.append_assoc, List.cons_append], ?_⟩
      refine List.forall_mem_append.mpr ⟨hlater, fun other hother => ?_⟩
      rw [List.mem_singleton.mp hother]
      exact hne.symm

theorem InForce.mem (h : InForce ds d) : d ∈ ds := by
  obtain ⟨earlier, later, rfl, -⟩ := h
  exact List.mem_append_right _ List.mem_cons_self

/-- Only one directive counts for each text. -/
theorem InForce.unique (h : InForce ds d) (h' : InForce ds d') (hsame : d.target = d'.target) :
    d = d' := by
  induction ds using List.reverseRecOn with
  | nil => exact absurd h not_inForce_nil
  | append_singleton ds e ih =>
    obtain rfl | ⟨h, hne⟩ := inForce_concat.mp h
    · obtain rfl | ⟨-, hne'⟩ := inForce_concat.mp h'
      · rfl
      · exact absurd hsame.symm hne'
    · obtain rfl | ⟨h', -⟩ := inForce_concat.mp h'
      · exact absurd hsame hne
      · exact ih h h'

/-! ## Which directive decides -/

/-- **A directive decides about a target**: it counts, the target begins with its text, and no
directive of which that is true has a longer text. -/
structure Decides (ds : List Directive) (target : String) (d : Directive) (text : String) :
    Prop where
  inForce : InForce ds d
  isFor : d.target = some text
  begins : text.toList <+: target.toList
  longest : ∀ other otherText, InForce ds other → other.target = some otherText →
    otherText.toList <+: target.toList → otherText.length ≤ text.length

/-- There is one that decides, and it allows the level. -/
def Shows (ds : List Directive) (target : String) (level : Level) : Prop :=
  ∃ d text, Decides ds target d text ∧ d.threshold.allows level = true

theorem Decides.unique (h : Decides ds target d text) (h' : Decides ds target d' text') : d = d' := by
  have hlength : text.toList.length = text'.toList.length := by
    rw [String.length_toList, String.length_toList]
    exact Nat.le_antisymm (h'.longest d text h.inForce h.isFor h.begins)
      (h.longest d' text' h'.inForce h'.isFor h'.begins)
  have htext : text = text' :=
    String.toList_inj.mp ((List.prefix_of_prefix_length_le h.begins h'.begins
      (Nat.le_of_eq hlength)).eq_of_length hlength)
  exact h.inForce.unique h'.inForce (h.isFor.trans (htext ▸ h'.isFor.symm))

namespace Filter

/-! ## The filter -/

theorem ofDirectives_concat (ds : List Directive) (d : Directive) :
    ofDirectives (ds ++ [d]) = (ofDirectives ds).add d :=
  List.foldl_append

/-- The filter holds the directives that count. -/
theorem mem_ofDirectives_iff (hds : ∀ d ∈ ds, d.OnlyTarget) :
    d ∈ (ofDirectives ds).directives ↔ InForce ds d := by
  induction ds using List.reverseRecOn generalizing d with
  | nil => exact iff_of_false List.not_mem_nil not_inForce_nil
  | append_singleton ds e ih =>
    obtain ⟨hrest, he⟩ := List.forall_mem_append.mp hds
    have he : e.OnlyTarget := he e (List.mem_singleton.mpr rfl)
    have hreplaced : InForce ds d → (d.target ≠ e.target ∨ d.names ≠ e.names ↔
        d.target ≠ e.target) := by
      intro hd
      rw [(hrest d hd.mem).names_eq, he.names_eq]
      exact or_iff_left (absurd rfl)
    rw [ofDirectives_concat, inForce_concat, add, if_pos he.isPlain]
    simp only [List.mem_append, List.mem_filter, decide_eq_true_eq, List.mem_singleton, ih hrest,
      and_congr_right_iff.mpr hreplaced]
    exact Or.comm

/-- Of two directives that ask for nothing but a target, the one with the longer text takes
precedence. -/
theorem yieldsTo_iff (hd : d.OnlyTarget) (he : e.OnlyTarget) :
    d.yieldsTo e = true ↔ d.specificity ≤ e.specificity := by
  rw [Directive.yieldsTo, hd.names_eq, he.names_eq]
  cases hcompare : compare d.specificity e.specificity with
  | lt => exact iff_of_true rfl (Nat.le_of_lt (Nat.compare_eq_lt.mp hcompare))
  | eq => exact iff_of_true (by decide) (Nat.le_of_eq (Nat.compare_eq_eq.mp hcompare))
  | gt => exact iff_of_false nofun (Nat.not_le_of_lt (Nat.compare_eq_gt.mp hcompare))

/-- What a search for the most specific directive has of those that it has looked at: one that no
other surpasses, and nothing only if there is none. -/
structure Best (ds : List Directive) (best : Option Directive) : Prop where
  mem : ∀ b ∈ best, b ∈ ds
  above : ∀ d ∈ ds, ∃ b ∈ best, d.specificity ≤ b.specificity

/-- A directive that none of those before surpasses may take their place. -/
theorem Best.take {best : Option Directive} (h : Best ds best)
    (hall : ∀ b ∈ best, b.specificity ≤ d.specificity) : Best (ds ++ [d]) (some d) := by
  refine ⟨?_, fun other hother => ⟨d, rfl, ?_⟩⟩
  · rintro _ ⟨⟩
    exact List.mem_append_right _ (List.mem_singleton.mpr rfl)
  · obtain hother | hother := List.mem_append.mp hother
    · obtain ⟨b, hb, hle⟩ := h.above other hother
      exact Nat.le_trans hle (hall b hb)
    · obtain rfl := List.mem_singleton.mp hother
      exact Nat.le_refl _

/-- And one that is surpassed may be left. -/
theorem Best.leave {b : Directive} (h : Best ds (some b)) (hle : d.specificity ≤ b.specificity) :
    Best (ds ++ [d]) (some b) := by
  refine ⟨fun b' hb => List.mem_append_left _ (h.mem b' hb), fun other hother => ?_⟩
  obtain hother | hother := List.mem_append.mp hother
  · exact h.above other hother
  · rw [List.mem_singleton.mp hother]
    exact ⟨b, rfl, hle⟩

/-- So one step of the search keeps what it has, or takes the directive that it looks at. -/
theorem Best.step {best : Option Directive} (h : Best ds best) (hds : ∀ d ∈ ds, d.OnlyTarget)
    (hd : d.OnlyTarget) : Best (ds ++ [d]) (moreSpecific best d) := by
  cases best with
  | none => exact h.take nofun
  | some b =>
    have hyields := yieldsTo_iff (hds b (h.mem b rfl)) hd
    by_cases hle : b.specificity ≤ d.specificity
    · have htake : Best (ds ++ [d]) (some d) := by
        refine h.take ?_
        rintro _ ⟨⟩
        exact hle
      simpa only [moreSpecific, if_pos (hyields.mpr hle)] using htake
    · have hnot : ¬ b.yieldsTo d = true := fun hyield => hle (hyields.mp hyield)
      simpa only [moreSpecific, if_neg hnot] using h.leave (Nat.le_of_not_le hle)

/-- What the whole search comes to. -/
theorem best_foldl (hds : ∀ d ∈ ds, d.OnlyTarget) : Best ds (ds.foldl moreSpecific none) := by
  induction ds using List.reverseRecOn with
  | nil => exact ⟨nofun, nofun⟩
  | append_singleton ds d ih =>
    obtain ⟨hrest, hlast⟩ := List.forall_mem_append.mp hds
    rw [List.foldl_append]
    exact (ih hrest).step hrest (hlast d (List.mem_singleton.mpr rfl))

/-- A directive with a text covers the targets that begin with it. -/
theorem covers_iff (hd : d.OnlyTarget) (htext : d.target = some text) :
    d.covers target fields = true ↔ text.toList <+: target.toList := by
  rw [Directive.covers, htext, hd.names_eq, List.all_nil, Bool.and_true]
  exact List.isPrefixOf_iff_prefix

theorem specificity_le_iff (htext : d.target = some text) (htext' : d'.target = some text') :
    d.specificity ≤ d'.specificity ↔ text.length ≤ text'.length := by
  rw [Directive.specificity, Directive.specificity, htext, htext']
  exact Nat.succ_le_succ_iff

/-- What the filter lets decide about a target is what decides about it. -/
theorem deciding?_eq_some_iff (hds : ∀ d ∈ ds, d.OnlyTarget) :
    (ofDirectives ds).deciding? target fields = some d ↔ ∃ text, Decides ds target d text := by
  have hmem (e : Directive) : e ∈ (ofDirectives ds).directives.filter (·.covers target fields) ↔
      InForce ds e ∧ e.covers target fields = true := by
    rw [List.mem_filter, mem_ofDirectives_iff hds]
  have hbest := best_foldl fun e he => hds e ((hmem e).mp he).1.mem
  have hforward {d : Directive} (hd : (ofDirectives ds).deciding? target fields = some d) :
      ∃ text, Decides ds target d text := by
    obtain ⟨hforce, hcovers⟩ := (hmem d).mp (hbest.mem d hd)
    obtain ⟨text, htext⟩ := Option.isSome_iff_exists.mp (hds d hforce.mem).hasTarget
    refine ⟨text, hforce, htext, (covers_iff (hds d hforce.mem) htext).mp hcovers, ?_⟩
    intro other otherText hother hotherText hbegins
    obtain ⟨b, hb, hle⟩ := hbest.above other
      ((hmem other).mpr ⟨hother, (covers_iff (hds other hother.mem) hotherText).mpr hbegins⟩)
    obtain rfl : b = d := Option.some.inj ((Option.mem_def.mp hb).symm.trans hd)
    exact (specificity_le_iff hotherText htext).mp hle
  refine ⟨hforward, ?_⟩
  rintro ⟨text, hdecides⟩
  obtain ⟨b, hb, -⟩ := hbest.above d
    ((hmem d).mpr ⟨hdecides.inForce,
      (covers_iff (hds d hdecides.inForce.mem) hdecides.isFor).mpr hdecides.begins⟩)
  obtain ⟨_, hdecides'⟩ := hforward hb
  rw [hdecides.unique hdecides']
  exact hb

/-- **A filter shows an event** exactly if there is a directive that decides about its target and
allows its level. -/
theorem passes_ofDirectives_iff (hds : ∀ d ∈ ds, d.OnlyTarget) (target : String)
    (fields : List String) (level : Level) :
    (ofDirectives ds).passes target fields level = true ↔ Shows ds target level := by
  have hpasses : (ofDirectives ds).passes target fields level = true ↔
      ∃ d, (ofDirectives ds).deciding? target fields = some d ∧
        d.threshold.allows level = true := by
    unfold passes
    cases (ofDirectives ds).deciding? target fields <;> simp
  rw [hpasses]
  simp only [deciding?_eq_some_iff hds, Shows, exists_and_right]

/-- The filter for a level shows the library's events of that level and the graver ones. -/
theorem passes_ofLevel_iff (l : Level) (target : String) (fields : List String) (level : Level) :
    (ofLevel l).passes target fields level = true ↔
      libraryTarget.toList <+: target.toList ∧ l.rank ≤ level.rank := by
  rw [ofLevel, passes_ofDirectives_iff fun d hd => List.mem_singleton.mp hd ▸ ⟨rfl, rfl, rfl⟩]
  constructor
  · rintro ⟨d, text, hdecides, hallows⟩
    obtain rfl := List.mem_singleton.mp hdecides.inForce.mem
    obtain rfl := Option.some.inj hdecides.isFor
    exact ⟨hdecides.begins, of_decide_eq_true hallows⟩
  · rintro ⟨hbegins, hle⟩
    refine ⟨_, _, ⟨⟨[], [], rfl, nofun⟩, rfl, hbegins, ?_⟩, decide_eq_true hle⟩
    intro other otherText hother hotherText _
    obtain rfl := List.mem_singleton.mp hother.mem
    obtain rfl := Option.some.inj hotherText
    exact Nat.le_refl _

end Filter

/-- Every event comes from a part of the library. -/
theorem Event.begins_target (e : Event) : Filter.libraryTarget.toList <+: e.target.toList := by
  rw [← List.isPrefixOf_iff_prefix]
  cases e <;> cbv

theorem Filter.shows_ofLevel_iff (l : Level) (e : Event) :
    (Filter.ofLevel l).shows e = true ↔ l.rank ≤ e.level.rank := by
  rw [shows, passes_ofLevel_iff, and_iff_right e.begins_target]

end VmSupport.Log
