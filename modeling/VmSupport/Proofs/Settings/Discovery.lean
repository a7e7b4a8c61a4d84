import Mathlib.Logic.Function.Iterate
import VmSupport.Machine.Call
import VmSupport.Proofs.Heap.Reservation
import VmSupport.Proofs.Settings.Overriding

/-!
# Where discovered settings come from

Settings are looked for in the current directory and above it. At each directory there are many ways
to fail: the file may be missing, be a directory, hold no text, no document, no settings, or
settings that cannot be used. They all come to the same: nothing loads there (`Loads`).

**The law** (`Machine.discover_nearest`): discovered settings are those of the nearest directory
where a file loads, or the default ones if there is no such directory; with all three variables in
place if they can be put there together, and as they are if not. Nothing else has an influence:
neither the directories behind the chosen one, nor those in front of it where nothing loads. What
comes out can always be used.

**The search ends.** `Search.step` is one round of the search, which looks at one directory. After
one round for each directory and one more the search is over, with what `searchUp` says
(`Search.iterate_step`).

What is reported on the way is not the subject here.
-/

namespace VmSupport

namespace Settings

/-! ## One directory -/

/-- The settings that load from a directory, if any do. -/
def loadedFrom? (dir : Files.Node) : Option Settings :=
  (dir.child? fileName).bind fun file => (parseFile file.readText).toOption

/-- A text gives settings if it is a document that decodes to them, and they can be used. -/
theorem parse_eq_ok_iff {text : String} {s : Settings} :
    parse text = .ok s ↔
      ∃ entries, Toml.read? text = some entries ∧ decode entries = .ok s ∧ s.rejection? = none := by
  unfold parse
  cases Toml.read? text with
  | none => simp
  | some entries =>
    cases hd : decode entries with
    | error e => simp [hd]
    | ok s' =>
      simp only [mapError_eq_ok_iff, checked_eq_ok_iff, Option.some.injEq, exists_eq_left', hd,
        Except.ok.injEq]

theorem parseFile_eq_ok_iff {text : Except Files.FileError String} {s : Settings} :
    parseFile text = .ok s ↔ ∃ t, text = .ok t ∧ parse t = .ok s := by
  cases text <;> simp [parseFile]

theorem readText_eq_ok_iff {file : Files.Node} {text : String} :
    file.readText = .ok text ↔
      ∃ content, file = .file content ∧ String.fromUTF8? content = some text := by
  cases file with
  | directory entries => simp [Files.Node.readText]
  | file content => cases hc : String.fromUTF8? content <;> simp [Files.Node.readText, hc]

theorem toOption_eq_some_iff {ε α : Type} {x : Except ε α} {a : α} :
    x.toOption = some a ↔ x = .ok a := by
  cases x <;> simp [Except.toOption]

/-- **Settings load from a directory**: it has a file of the right name, whose bytes are a text,
which is a document, which decodes to these settings, which can be used. -/
def Loads (dir : Files.Node) (s : Settings) : Prop :=
  ∃ content text entries, dir.child? fileName = some (.file content) ∧
    String.fromUTF8? content = some text ∧ Toml.read? text = some entries ∧
    decode entries = .ok s ∧ s.rejection? = none

theorem loadedFrom?_eq_some_iff {dir : Files.Node} {s : Settings} :
    loadedFrom? dir = some s ↔ Loads dir s := by
  simp only [loadedFrom?, Option.bind_eq_some_iff, toOption_eq_some_iff, parseFile_eq_ok_iff,
    readText_eq_ok_iff, parse_eq_ok_iff]
  constructor
  · rintro ⟨_, hfile, text, ⟨content, rfl, hcontent⟩, entries, hentries⟩
    exact ⟨content, text, entries, hfile, hcontent, hentries⟩
  · rintro ⟨content, text, entries, hfile, hcontent, hentries⟩
    exact ⟨_, hfile, text, ⟨content, rfl, hcontent⟩, entries, hentries⟩

/-! ## The search -/

/-- Where a search stands. -/
inductive Search where
  /-- It has these directories ahead of it. -/
  | looking (place : Files.Place) (events : List Log.Event)
  /-- It is over. -/
  | ended (found : Option Settings) (events : List Log.Event)

namespace Search

/-- One round: the search looks at one directory, and ends there or goes on to the one above. -/
def step : Search → Search
  | looking [] events => ended none events
  | looking ((name, node) :: up) events =>
    match node.child? fileName with
    | none => looking up events
    | some file =>
      match parseFile file.readText with
      | .ok s => ended (some s) events
      | .error e =>
        let path := Files.Place.name ((fileName, file) :: (name, node) :: up)
        looking up (events ++ [.fileIgnored path e.message])
  | ended found events => ended found events

theorem iterate_step_ended (n : Nat) (found : Option Settings) (events : List Log.Event) :
    step^[n] (ended found events) = ended found events :=
  Function.iterate_fixed rfl n

/-- **The search ends**: one round for each directory and one more are enough. -/
theorem iterate_step (place : Files.Place) (events : List Log.Event) :
    step^[place.length + 1] (looking place events) =
      ended (searchUp place).1 (events ++ (searchUp place).2) := by
  induction place generalizing events with
  | nil => simp [step, searchUp]
  | cons dir up ih =>
    obtain ⟨name, node⟩ := dir
    rw [List.length_cons, Function.iterate_succ_apply]
    cases hfile : node.child? fileName with
    | none => simp only [step, searchUp, hfile, ih]
    | some file =>
      cases hload : parseFile file.readText with
      | ok s => simp only [step, searchUp, hfile, hload, iterate_step_ended, List.append_nil]
      | error e =>
        simp only [step, searchUp, hfile, hload, ih, List.append_assoc, List.singleton_append]

end Search

/-- The search finds what loads first. -/
theorem searchUp_fst (place : Files.Place) :
    (searchUp place).1 = place.findSome? fun dir => loadedFrom? dir.2 := by
  induction place with
  | nil => rfl
  | cons dir up ih =>
    obtain ⟨name, node⟩ := dir
    rw [List.findSome?_cons]
    cases hfile : node.child? fileName with
    | none =>
      have hnone : loadedFrom? node = none := by
        simp only [loadedFrom?, hfile, Option.bind_none]
      simp only [searchUp, hfile, hnone, ih]
    | some file =>
      have hsame : loadedFrom? node = (parseFile file.readText).toOption := by
        simp only [loadedFrom?, hfile, Option.bind_some]
      cases hload : parseFile file.readText with
      | ok s => simp only [searchUp, hfile, hsame, hload, Except.toOption]
      | error e => simp only [searchUp, hfile, hsame, hload, Except.toOption, ih]

/-! ## The base -/

/-- The settings before the variables are looked at: those of the nearest directory where a file
loads, and the default ones where none does. -/
inductive IsBase : Files.Place → Settings → Prop
  | nearest {near far : Files.Place} {dir : String × Files.Node} {s : Settings}
    (hnear : ∀ d ∈ near, loadedFrom? d.2 = none) (hdir : loadedFrom? dir.2 = some s) :
    IsBase (near ++ dir :: far) s
  | default {place : Files.Place} (hnone : ∀ d ∈ place, loadedFrom? d.2 = none) : IsBase place {}

/-- The base is what the search comes to. -/
theorem isBase_iff {place : Files.Place} {s : Settings} :
    IsBase place s ↔ s = (searchUp place).1.getD {} := by
  rw [searchUp_fst]
  constructor
  · rintro (⟨hnear, hdir⟩ | hnone)
    · rw [List.findSome?_append, List.findSome?_eq_none_iff.mpr hnear, List.findSome?_cons, hdir]
      rfl
    · rw [List.findSome?_eq_none_iff.mpr hnone]
      rfl
  · rintro rfl
    cases hfound : place.findSome? fun dir => loadedFrom? dir.2 with
    | none => exact .default (List.findSome?_eq_none_iff.mp hfound)
    | some s =>
      obtain ⟨near, dir, far, rfl, hdir, hnear⟩ := List.findSome?_eq_some_iff.mp hfound
      exact .nearest hnear hdir

/-- The base can be used. -/
theorem IsBase.usable {place : Files.Place} {s : Settings} (h : IsBase place s) :
    s.rejection? = none := by
  cases h with
  | nearest hnear hdir =>
    obtain ⟨_, _, _, -, -, -, -, husable⟩ := loadedFrom?_eq_some_iff.mp hdir
    exact husable
  | default hnone => decide

/-- Only the search and the variables count. -/
theorem discover_fst (place : Files.Place) (lookup : Lookup) :
    (discover place lookup).1 = (((searchUp place).1.getD {}).tryOverride lookup).1 := by
  cases htry : ((searchUp place).1.getD {}).tryOverride lookup with
  | mk s complaint => cases complaint <;> simp only [discover, htry]

/-- So it is only the base that counts, and the variables. -/
theorem discover_eq_of_isBase {place place' : Files.Place} {base : Settings}
    (h : IsBase place base) (h' : IsBase place' base) (lookup : Lookup) :
    (discover place' lookup).1 = (discover place lookup).1 := by
  rw [discover_fst, discover_fst, ← isBase_iff.mp h, ← isBase_iff.mp h']

/-- Directories where nothing loads may be replaced by others of that kind. -/
theorem IsBase.replace {front dirs dirs' back : Files.Place} {base : Settings}
    (hdirs : ∀ d ∈ dirs, loadedFrom? d.2 = none) (hdirs' : ∀ d ∈ dirs', loadedFrom? d.2 = none)
    (h : IsBase (front ++ dirs ++ back) base) : IsBase (front ++ dirs' ++ back) base := by
  rw [isBase_iff, searchUp_fst] at h ⊢
  rw [h]
  simp only [List.findSome?_append, List.findSome?_eq_none_iff.mpr hdirs,
    List.findSome?_eq_none_iff.mpr hdirs']

/-- The directories behind one where a file loads may be any. -/
theorem IsBase.cut {near far far' : Files.Place} {dir : String × Files.Node} {base : Settings}
    (hdir : (loadedFrom? dir.2).isSome) (h : IsBase (near ++ dir :: far) base) :
    IsBase (near ++ dir :: far') base := by
  obtain ⟨s, hs⟩ := Option.isSome_iff_exists.mp hdir
  rw [isBase_iff, searchUp_fst] at h ⊢
  rw [h]
  simp only [List.findSome?_append, List.findSome?_cons, hs]

/-! ## The law -/

/-- **What is discovered** for a current directory and an environment. -/
structure Discovers (current : Files.Place) (lookup : Lookup) (s : Settings) : Prop where
  /-- The search is over after one round for each directory and one more, and then has the base. -/
  ends : ∃ found reports,
    Search.step^[current.length + 1] (.looking current []) = .ended found reports ∧
      IsBase current (found.getD {})
  /-- There is one base, and the settings are what overrides it, or the base itself if nothing
  does. -/
  overridden : ∃ base, IsBase current base ∧ (∀ other, IsBase current other → other = base) ∧
    (Overrides lookup base s ∨ (¬ ∃ s', Overrides lookup base s') ∧ s = base)
  /-- What it takes for settings to load from a directory. -/
  loads : ∀ dir s', loadedFrom? dir = some s' ↔ Loads dir s'
  usable : s.rejection? = none
  /-- It does not matter what lies behind a directory where a file loads. -/
  farther : ∀ near dir far, current = near ++ dir :: far → (loadedFrom? dir.2).isSome →
    ∀ far', (discover (near ++ dir :: far') lookup).1 = s
  /-- Nor does it matter which directories there are where nothing loads, nor why nothing does. -/
  failing : ∀ front dirs back, current = front ++ dirs ++ back →
    (∀ d ∈ dirs, loadedFrom? d.2 = none) → ∀ dirs', (∀ d ∈ dirs', loadedFrom? d.2 = none) →
    (discover (front ++ dirs' ++ back) lookup).1 = s

theorem discovers (current : Files.Place) (lookup : Lookup) :
    Discovers current lookup (discover current lookup).1 := by
  have hbase : IsBase current ((searchUp current).1.getD {}) := isBase_iff.mpr rfl
  have hcases := tryOverride_cases lookup ((searchUp current).1.getD {})
  rw [← discover_fst] at hcases
  refine ⟨⟨_, _, Search.iterate_step current [], hbase⟩,
    ⟨_, hbase, fun other hother => isBase_iff.mp hother, hcases⟩,
    fun _ _ => loadedFrom?_eq_some_iff, ?_, ?_, ?_⟩
  · obtain hover | ⟨-, heq⟩ := hcases
    · exact hover.usable
    · rw [heq]
      exact hbase.usable
  · rintro near dir far rfl hdir far'
    exact discover_eq_of_isBase hbase (hbase.cut hdir) lookup
  · rintro front dirs back rfl hdirs dirs' hdirs'
    exact discover_eq_of_isBase hbase (hbase.replace hdirs hdirs') lookup

end Settings

/-- **Discovery gives the nearest settings that load**, overridden as far as they can be. It returns
whatever the state of the process is, and changes the process by its reports alone. -/
theorem Machine.discover_nearest (w : Surroundings) (thread : Nat) (m : Machine) :
    ∃ s events, m.call w thread .discover = (.returned (.settings s), m.reportAll events) ∧
      Settings.Discovers w.current w.environment s :=
  ⟨_, _, rfl, Settings.discovers w.current w.environment⟩

/-- Surroundings with two settings files and a capacity of their own. The nearer file is no document,
the farther one gives a level. -/
def Surroundings.spoilt : Surroundings :=
  let near : Files.Node := .directory [(Settings.fileName, .file "level = warn".toUTF8)]
  let far : Files.Node := .directory
    [(Settings.fileName, .file "[log]\nlevel = \"warn\"".toUTF8), ("near", near)]
  { host := .ample
    environment := fun key => if key = Settings.sizeVariable then some "8k" else none
    current := [("near", near), ("", far)]
    patterns := fun _ => true }

/-- There the level comes from the farther file, and the capacity from the environment. -/
theorem Machine.discover_nearest_spoilt :
    ∃ s events, fresh.call .spoilt 0 .discover =
        (.returned (.settings s), fresh.reportAll events) ∧
      Settings.Discovers Surroundings.spoilt.current Surroundings.spoilt.environment s ∧
      s = { capacity := 8192, log := { level := .warn } } := by
  obtain ⟨s, events, hcall, hdiscovers⟩ := discover_nearest .spoilt 0 fresh
  refine ⟨s, events, hcall, hdiscovers, ?_⟩
  obtain ⟨base, -, hunique, hcases⟩ := hdiscovers.overridden
  have hnear : ∀ d ∈ Surroundings.spoilt.current.take 1, Settings.loadedFrom? d.2 = none :=
    List.forall_mem_singleton.mpr (by decide +kernel)
  obtain rfl : { log := { level := .warn } } = base :=
    hunique _ (.nearest hnear (by decide +kernel))
  have hread : Settings.readCapacity "8k" = .ok 8192 := by
    rw [Settings.readCapacity, show Settings.readSize? "8k" = some 8192 by decide +kernel]
  obtain hover | ⟨hnone, -⟩ := hcases
  · obtain ⟨capacity, level, layout, spanEvents, filter⟩ := s
    obtain ⟨hcapacity, rfl, rfl, rfl, rfl, -⟩ := hover
    cases hread.symm.trans hcapacity
    rfl
  · exact absurd ⟨⟨8192, { level := .warn }⟩, hread, rfl, rfl, rfl, rfl, rfl⟩ hnone

end VmSupport
