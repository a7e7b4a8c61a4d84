import VmSupport.Proofs.Text.SmallLetters
import VmSupport.Settings.Decode

/-!
# Names of levels and layouts in any case

A name from outside a settings file is put into lower case over all of Unicode and then looked up.

**The law** (`names_in_any_case`): what is found are the names in any mixture of ASCII cases, and
each stands for what it names. Nothing else is found: no other character takes the place of a
letter, none is passed over, and no blank is cut off. A text that is not found is quoted in the
complaint as it is in lower case. What a settings file accepts as a name is that name letter for
letter, so it is found here as well, and stands for the same.

The law rests on the letters that the names are made of (`Apt.letters`). Each of them comes from
itself and from its capital. With a `k` in one of the names the law would be false, because the
Kelvin sign becomes a `k`.
-/

namespace VmSupport.Log

open Text (EqUpToCase HasTwoForms isBlank lower)
open Toml (Value)
open Settings (DecodeError decodeChoice)

/-! ## Looking up names -/

/-- Things that can be told apart by their names, and names that are made of letters with two forms
each. -/
structure Apt {α : Type} (all : List α) (name : α → String) : Prop where
  mem_all : ∀ a, a ∈ all
  name_injective : Function.Injective name
  letters : ∀ a, ∀ d ∈ (name a).toList, HasTwoForms d

/-- Reads a name in any case, where `complaint` says what is wrong with a text in lower case. -/
def readName {α : Type} (all : List α) (name : α → String) (complaint : String → String)
    (s : String) : Except String α :=
  match all.find? (name · == lower s) with
  | some a => .ok a
  | none => .error (complaint (lower s))

/-- The name that a value of a settings file spells, as a text or as the only key of a table. -/
def spelled? : Value → Option String
  | .string n => some n
  | .table [(n, _)] => some n
  | _ => none

/-- **Names are read in any case**, and nothing else is. -/
structure ReadsInAnyCase {α : Type} (name : α → String) (complaint : String → String)
    (read : String → Except String α) (decode : Value → Except DecodeError α) : Prop where
  ok_iff : ∀ s a, read s = .ok a ↔ s.length = (name a).length ∧ EqUpToCase s (name a)
  ascii : ∀ s a, read s = .ok a → ∀ c ∈ s.toList, c.toNat < 128 ∧ isBlank c = false
  error_iff : ∀ s m, read s = .error m ↔
    (∀ a, ¬ EqUpToCase s (name a)) ∧ m = complaint (lower s)
  /-- What a settings file accepts is a name, and it stands for the same here. -/
  decoded : ∀ v a, decode v = .ok a → spelled? v = some (name a) ∧ read (name a) = .ok a
  decode_name : ∀ a, decode (.string (name a)) = .ok a

/-- A value that a settings file accepts spells a name that is known. -/
theorem spelled_of_decodeChoice {α : Type} {ofName? : String → Option α} {known : List String}
    {v : Value} {a : α} (h : decodeChoice ofName? known v = .ok a) :
    ∃ n, spelled? v = some n ∧ ofName? n = some a := by
  unfold decodeChoice at h
  split at h
  · next n =>
    split at h
    · next hname =>
      cases h
      exact ⟨n, rfl, hname⟩
    · cases h
  · next n content =>
    split at h
    · next hname =>
      split at h
      · cases h
        exact ⟨n, rfl, hname⟩
      · cases h
    · cases h
  · cases h
  · cases h

/-- The small letters with two forms, and their capitals, are ASCII characters and no blanks. -/
theorem ascii_of_toLower {c : Char} (h : HasTwoForms c.toLower) :
    c.toNat < 128 ∧ isBlank c = false := by
  have hcode : 65 ≤ c.toNat ∧ c.toNat ≤ 122 := by
    have hsmall : 97 ≤ c.toLower.toNat ∧ c.toLower.toNat ≤ 122 := ⟨h.1, h.2.1⟩
    rw [Text.toNat_toLower] at hsmall
    split at hsmall <;> omega
  have hapart : ∀ r ∈ Text.blankRanges, r.2 < 65 ∨ 122 < r.1 := by decide
  refine ⟨by omega, Bool.eq_false_iff.mpr fun hblank => ?_⟩
  obtain ⟨r, hr, hfrom, hto⟩ := Text.inRanges_iff.mp hblank
  have hr := hapart r hr
  omega

namespace Apt

variable {α : Type} {all : List α} {name : α → String} {complaint : String → String}

/-- A text is found exactly if it is a name, under the one thing that it names. -/
theorem find?_eq_some_iff (h : Apt all name) {s : String} {a : α} :
    all.find? (name · == s) = some a ↔ s = name a := by
  constructor
  · intro hfound
    have hname := List.find?_some hfound
    exact (beq_iff_eq.mp hname).symm
  · rintro rfl
    cases hfound : all.find? (name · == name a) with
    | none => exact absurd (beq_self_eq_true _) (List.find?_eq_none.mp hfound a (h.mem_all a))
    | some b =>
      have hname := List.find?_some hfound
      rw [h.name_injective (beq_iff_eq.mp hname)]

theorem find?_lower_iff (h : Apt all name) {s : String} {a : α} :
    all.find? (name · == lower s) = some a ↔ EqUpToCase s (name a) := by
  rw [h.find?_eq_some_iff, Text.lower_eq_iff (h.letters a)]

theorem readName_eq_ok_iff (h : Apt all name) {s : String} {a : α} :
    readName all name complaint s = .ok a ↔ EqUpToCase s (name a) := by
  rw [← h.find?_lower_iff, readName]
  cases all.find? (name · == lower s) with
  | none => simp only [reduceCtorEq]
  | some b => simp only [Except.ok.injEq, Option.some.injEq]

theorem readName_eq_error_iff (h : Apt all name) {s m : String} :
    readName all name complaint s = .error m ↔
      (∀ a, ¬ EqUpToCase s (name a)) ∧ m = complaint (lower s) := by
  simp only [← h.find?_lower_iff, ← Option.eq_none_iff_forall_ne_some, readName]
  cases all.find? (name · == lower s) with
  | none => simp only [Except.error.injEq, true_and, eq_comm]
  | some b => simp only [reduceCtorEq, false_and]

/-- Every character of a text that is read becomes a letter of the name. -/
theorem ascii_of_eqUpToCase (h : Apt all name) {s : String} {a : α} (hs : EqUpToCase s (name a)) :
    ∀ c ∈ s.toList, c.toNat < 128 ∧ isBlank c = false := by
  intro c hc
  have hmem : c.toLower ∈ (name a).toList.map Char.toLower := by
    rw [← hs]
    exact List.mem_map_of_mem hc
  obtain ⟨d, hd, heq⟩ := List.mem_map.mp hmem
  have hletter := h.letters a d hd
  exact ascii_of_toLower (heq ▸ hletter.toLower_eq.symm ▸ hletter)

/-- **Apt names are read in any case.** -/
theorem readsInAnyCase (h : Apt all name) (complaint : String → String) (known : List String) :
    ReadsInAnyCase name complaint (readName all name complaint)
      (decodeChoice (fun s => all.find? (name · == s)) known) where
  ok_iff s a := by
    rw [h.readName_eq_ok_iff]
    exact ⟨fun hs => ⟨hs.length_eq, hs⟩, And.right⟩
  ascii s a hread := h.ascii_of_eqUpToCase (h.readName_eq_ok_iff.mp hread)
  error_iff _ _ := h.readName_eq_error_iff
  decoded v a hv := by
    obtain ⟨n, hn, hfound⟩ := spelled_of_decodeChoice hv
    obtain rfl := h.find?_eq_some_iff.mp hfound
    exact ⟨hn, h.readName_eq_ok_iff.mpr rfl⟩
  decode_name a := by
    have hfound : all.find? (name · == name a) = some a := h.find?_eq_some_iff.mpr rfl
    simp only [decodeChoice, hfound]

end Apt

/-! ## The law -/

theorem Level.apt : Apt Level.all Level.name where
  mem_all := Level.mem_all
  name_injective a b h := by
    cases a <;> cases b <;> first | rfl | exact absurd h (by decide)
  letters a := Text.hasTwoForms_of_all (by cases a <;> decide)

theorem Level.read_eq_readName :
    Level.read = readName all name fun small => "unknown log level '" ++ small ++ "'" := by
  funext s
  simp only [read, readName, ofName?]
  cases all.find? (name · == lower s) <;> rfl

theorem Layout.apt : Apt Layout.all Layout.name where
  mem_all := Layout.mem_all
  name_injective a b h := by
    cases a <;> cases b <;> first | rfl | exact absurd h (by decide)
  letters a := Text.hasTwoForms_of_all (by cases a <;> decide)

theorem Layout.read_eq_readName :
    Layout.read = readName all name fun small => "unknown log format '" ++ small ++ "'" := by
  funext s
  simp only [read, readName, ofName?]
  cases all.find? (name · == lower s) <;> rfl

/-- **The names of levels and of layouts are read in any case.** -/
theorem names_in_any_case :
    ReadsInAnyCase Level.name (fun small => "unknown log level '" ++ small ++ "'") Level.read
        Settings.decodeLevel ∧
      ReadsInAnyCase Layout.name (fun small => "unknown log format '" ++ small ++ "'") Layout.read
        Settings.decodeLayout := by
  rw [Level.read_eq_readName, Layout.read_eq_readName]
  exact ⟨Level.apt.readsInAnyCase _ _, Layout.apt.readsInAnyCase _ _⟩

/-- A dotted capital I becomes two characters, the second of which is in no name. -/
example : Level.read "WaRN" = .ok .warn ∧
    Level.read "\u0130nfo" = .error "unknown log level 'i\u0307nfo'" := by
  constructor <;> cbv

end VmSupport.Log
