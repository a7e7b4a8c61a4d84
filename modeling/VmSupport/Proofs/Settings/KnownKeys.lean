import Mathlib.Logic.Relation
import VmSupport.Proofs.Settings.DecodedKeys
import VmSupport.Proofs.Settings.Discovery
import VmSupport.Proofs.Settings.RoundTrip

/-!
# Only the known keys count

A settings document may hold what it likes beside the five keys that are known, and may hold them in
any order.

**The law** (`parse_known`): a document in which `heap` and `log` are tables and `level` and
`format` are texts is read exactly if no known key has a wrong value, and what the keys come to can
be used. Then the settings are what each key comes to by itself. A wrong value is the complaint even
if the capacity could not be used either: settings are rejected only after everything else has been
read.

So there are edits that never change what a text comes to: to reorder entries, to add, remove or
change what has no known name, and to leave out a key that has its default. Such an `Edit` keeps the
values that keys come to (`Edit.holds_iff`), and any number of them does, there and back.

Which complaint is made about a wrong value is not said here, as it depends on the order of the
entries.
-/

namespace VmSupport.Settings

open Toml (Value Entries Tidy IsBare Writes)

/-! ## Edits of a table -/

/-- One edit of a table that keeps what the known names come to: a new order, without an entry of an
unknown name, or without an entry that says what its absence would. -/
inductive Rearranged (known : List String) (defaults : Entries) : Entries → Entries → Prop
  | order {es es' : Entries} (hnames : (es.map Prod.fst).Nodup) (h : es.Perm es') :
    Rearranged known defaults es es'
  | unknown {front back : Entries} {e : String × Value} (h : e.1 ∉ known) :
    Rearranged known defaults (front ++ e :: back) (front ++ back)
  | default {front back : Entries} {e : String × Value}
    (hnames : ((front ++ e :: back).map Prod.fst).Nodup) (h : e ∈ defaults) :
    Rearranged known defaults (front ++ e :: back) (front ++ back)

section

variable {known : List String} {defaults es es' front back inner : Entries} {name k : String}
  {v : Value}

theorem lookup_between (hfront : name ∉ front.map Prod.fst) :
    (front ++ (name, v) :: back).lookup name = some v := by
  rw [List.lookup_append, Tidy.lookup_eq_none_iff.mpr hfront, List.lookup_cons_self,
    Option.none_or]

theorem lookup_beside (hk : name ≠ k) :
    (front ++ (k, v) :: back).lookup name = (front ++ back).lookup name := by
  rw [List.lookup_append, List.lookup_append, List.lookup_cons, beq_false_of_ne hk]

theorem inside_between (hfront : name ∉ front.map Prod.fst) :
    inside (front ++ (name, .table inner) :: back) name = inner :=
  inside_of_lookup (lookup_between hfront)

theorem inside_beside (hk : name ≠ k) :
    inside (front ++ (k, v) :: back) name = inside (front ++ back) name := by
  rw [inside, inside, lookup_beside hk]

/-- A known name has the value that it had, or else had its default and is gone. -/
theorem Rearranged.lookup (h : Rearranged known defaults es es') (hknown : name ∈ known) :
    es'.lookup name = es.lookup name ∨
      ∃ v, (name, v) ∈ defaults ∧ es.lookup name = some v ∧ es'.lookup name = none := by
  cases h with
  | order hnames hperm =>
    have hnames' : (es'.map Prod.fst).Nodup := (hperm.map Prod.fst).nodup_iff.mp hnames
    refine .inl (Option.ext fun v => ?_)
    rw [lookup_eq_some_iff_mem hnames', lookup_eq_some_iff_mem hnames, hperm.mem_iff]
  | @unknown front back e hunknown =>
    have hne : name ≠ e.1 := fun hname => hunknown (hname ▸ hknown)
    exact .inl (lookup_beside hne).symm
  | @default front back e hnames hdefault =>
    obtain ⟨k, v⟩ := e
    by_cases hname : name = k
    · subst hname
      refine .inr ⟨v, hdefault, ?_, ?_⟩
      · exact (lookup_eq_some_iff_mem hnames).mpr (List.mem_append_right _ List.mem_cons_self)
      · rw [Tidy.lookup_eq_none_iff, List.map_append]
        rw [List.map_append, List.map_cons, List.nodup_middle] at hnames
        exact (List.nodup_cons.mp hnames).1
    · exact .inl (lookup_beside hname).symm

/-- What a known key comes to stays. -/
theorem Rearranged.settles_iff {α : Type} {means : Value → α → Prop} {default a : α}
    (h : Rearranged known defaults es es') (hknown : name ∈ known)
    (hdefault : ∀ v, (name, v) ∈ defaults → (means v a ↔ a = default)) :
    Settles means default (es'.lookup name) a ↔ Settles means default (es.lookup name) a := by
  obtain hsame | ⟨v, hv, hsome, hnone⟩ := h.lookup hknown
  · rw [hsame]
  · rw [hsome, hnone, Settles.some_iff, Settles.none_iff, hdefault v hv]

/-- So does what is true of its value wherever there is one. -/
theorem Rearranged.forall_iff {p : Value → Prop} (h : Rearranged known defaults es es')
    (hknown : name ∈ known) (hdefault : ∀ v, (name, v) ∈ defaults → p v) :
    (∀ v, es'.lookup name = some v → p v) ↔ ∀ v, es.lookup name = some v → p v := by
  obtain hsame | ⟨v, hv, hsome, hnone⟩ := h.lookup hknown
  · rw [hsame]
  · rw [hsome, hnone]
    refine iff_of_true nofun ?_
    rintro _ ⟨⟩
    exact hdefault v hv

end

/-! ## Edits of a document -/

/-- Tables that say what their absence would. -/
def defaultTables : Entries := [("heap", .table []), ("log", .table [])]

theorem eq_of_mem_defaultTables {name : String} {v : Value} (h : (name, v) ∈ defaultTables) :
    v = .table [] := by
  simp only [defaultTables, List.mem_cons, Prod.mk.injEq, List.not_mem_nil, or_false] at h
  obtain ⟨-, rfl⟩ | ⟨-, rfl⟩ := h <;> rfl

/-- The key of the table `heap` with the value that is its default. -/
def heapDefaults : Entries := [("capacity_bytes", .integer defaultCapacity)]

/-- The keys of the table `log` with the values that are their defaults; a filter has none. -/
def logDefaults : Entries :=
  [("level", .string Log.Level.info.name), ("format", .string Log.Layout.compact.name),
    ("span_events", .boolean false)]

theorem eq_of_level_mem {v : Value} (h : ("level", v) ∈ logDefaults) :
    v = .string Log.Level.info.name := by
  simpa [logDefaults] using h

theorem eq_of_layout_mem {v : Value} (h : ("format", v) ∈ logDefaults) :
    v = .string Log.Layout.compact.name := by
  simpa [logDefaults] using h

/-- **One edit of a document** that keeps its settings: at the top, or in one of the two tables. -/
inductive Edit : Entries → Entries → Prop
  | top {es es' : Entries} (h : Rearranged ["heap", "log"] defaultTables es es') : Edit es es'
  | heap {front back inner inner' : Entries} (hfront : "heap" ∉ front.map Prod.fst)
    (h : Rearranged heapNames heapDefaults inner inner') :
    Edit (front ++ ("heap", .table inner) :: back) (front ++ ("heap", .table inner') :: back)
  | log {front back inner inner' : Entries} (hfront : "log" ∉ front.map Prod.fst)
    (h : Rearranged logNames logDefaults inner inner') :
    Edit (front ++ ("log", .table inner) :: back) (front ++ ("log", .table inner') :: back)

namespace Rearranged

variable {es es' inner inner' : Entries} {name : String}

/-- Edits at the top keep the two tables. -/
theorem inside_eq (h : Rearranged ["heap", "log"] defaultTables es es')
    (hname : name ∈ ["heap", "log"]) : inside es' name = inside es name := by
  obtain hsame | ⟨v, hv, hsome, hnone⟩ := h.lookup hname
  · rw [inside, inside, hsame]
  · obtain rfl := eq_of_mem_defaultTables hv
    rw [inside_of_none hnone, inside_of_lookup hsome]

theorem heapHolds_iff {c : Nat} (h : Rearranged heapNames heapDefaults inner inner') :
    HeapHolds inner' c ↔ HeapHolds inner c := by
  refine h.settles_iff (by decide) fun v hv => ?_
  obtain rfl : v = .integer defaultCapacity := by simpa [heapDefaults] using hv
  rw [Value.integer.injEq, Int.natCast_inj, eq_comm]

theorem logHolds_iff {log : LogSettings} (h : Rearranged logNames logDefaults inner inner') :
    LogHolds inner' log ↔ LogHolds inner log := by
  rw [Settings.logHolds_iff, Settings.logHolds_iff]
  refine and_congr (h.settles_iff (by decide) fun v hv => ?_) <|
    and_congr (h.settles_iff (by decide) fun v hv => ?_) <|
    and_congr (h.settles_iff (by decide) fun v hv => ?_) <|
    h.settles_iff (by decide) fun v hv => ?_
  · obtain rfl := eq_of_level_mem hv
    exact ⟨fun hname => (level_unique rfl hname).symm, fun hlevel => by rw [hlevel]⟩
  · obtain rfl := eq_of_layout_mem hv
    exact ⟨fun hname => (layout_unique rfl hname).symm, fun hlayout => by rw [hlayout]⟩
  · obtain rfl : v = .boolean false := by simpa [logDefaults] using hv
    rw [Value.boolean.injEq, eq_comm]
  · simp [logDefaults] at hv

end Rearranged

namespace Edit

variable {es es' : Entries}

/-- **An edit keeps what a document says.** -/
theorem holds_iff (h : Edit es es') (s : Settings) : Holds es' s ↔ Holds es s := by
  rw [Settings.holds_iff, Settings.holds_iff]
  cases h with
  | top h => rw [h.inside_eq (by decide), h.inside_eq (by decide)]
  | heap hfront h =>
    have hne : "log" ≠ "heap" := by decide
    rw [inside_between hfront, inside_between hfront, inside_beside hne, inside_beside hne,
      h.heapHolds_iff]
  | log hfront h =>
    have hne : "heap" ≠ "log" := by decide
    rw [inside_between hfront, inside_between hfront, inside_beside hne, inside_beside hne,
      h.logHolds_iff]

/-- An edit keeps tables tables, and texts texts. -/
theorem ordinary_iff (h : Edit es es') : Ordinary es' ↔ Ordinary es := by
  rw [Settings.ordinary_iff, Settings.ordinary_iff]
  simp only [given?]
  cases h with
  | top h =>
    have htable (name : String) (v : Value) (hv : (name, v) ∈ defaultTables) :
        ∃ inner, v = .table inner :=
      ⟨[], eq_of_mem_defaultTables hv⟩
    rw [h.inside_eq (by decide), h.forall_iff (by decide) (htable "heap"),
      h.forall_iff (by decide) (htable "log")]
  | heap hfront h =>
    have hne : "log" ≠ "heap" := by decide
    rw [inside_beside hne, inside_beside hne, lookup_beside hne, lookup_beside hne,
      lookup_between hfront, lookup_between hfront]
    simp
  | log hfront h =>
    have hne : "heap" ≠ "log" := by decide
    rw [inside_between hfront, inside_between hfront, lookup_beside hne, lookup_beside hne,
      lookup_between hfront, lookup_between hfront,
      h.forall_iff (by decide) fun v hv => ⟨_, eq_of_level_mem hv⟩,
      h.forall_iff (by decide) fun v hv => ⟨_, eq_of_layout_mem hv⟩]
    simp

end Edit

/-- What one edit keeps, any number of edits keeps, there and back. -/
theorem edits_keep {p : Entries → Prop} (hedit : ∀ {es es'}, Edit es es' → (p es' ↔ p es))
    {es es' : Entries} (h : Relation.EqvGen Edit es es') : p es' ↔ p es := by
  induction h with
  | rel _ _ h => exact hedit h
  | refl _ => rfl
  | symm _ _ _ ih => exact ih.symm
  | trans _ _ _ _ _ ih ih' => exact ih'.trans ih

/-! ## Reading -/

/-- Two texts come to the same: the same settings, the same rejection, or a wrong value in both. -/
structure SameOutcome (text text' : String) : Prop where
  ok : ∀ s, parse text' = .ok s ↔ parse text = .ok s
  rejected : ∀ r, parse text' = .error (.rejected r) ↔ parse text = .error (.rejected r)
  undecodable : (∃ e, parse text' = .error (.undecodable text' e)) ↔
    ∃ e, parse text = .error (.undecodable text e)

/-- **How a text is read that is a document**: by what each known key comes to, and by nothing
else. -/
structure ParsesBy (text : String) (entries : Entries) : Prop where
  /-- Settings are what the keys come to, if that can be used. -/
  ok : ∀ s, parse text = .ok s ↔ Holds entries s ∧ s.rejection? = none
  /-- A wrong value is the complaint, whether or not the capacity could be used. -/
  undecodable : (∃ e, parse text = .error (.undecodable text e)) ↔ Wrong entries
  /-- Settings are rejected only where no value is wrong. -/
  rejected : ∀ r, parse text = .error (.rejected r) ↔ ∃ s, Holds entries s ∧ s.rejection? = some r
  /-- Texts whose documents differ by edits come to the same. -/
  edits : ∀ text' entries', Toml.read? text' = some entries' →
    Relation.EqvGen Edit entries entries' → SameOutcome text text'

section

variable {text : String} {entries : Entries}

/-- A text that is a document either decodes, and is then checked, or it does not. -/
theorem parse_of_read? (hread : Toml.read? text = some entries) :
    (∀ s, decode entries = .ok s → parse text = s.checked.mapError .rejected) ∧
      ∀ e, decode entries = .error e → parse text = .error (.undecodable text e) := by
  refine ⟨fun s hs => ?_, fun e he => ?_⟩
  · simp only [parse, hread, hs]
  · simp only [parse, hread, he]

theorem parse_ok_iff (hread : Toml.read? text = some entries) (h : Ordinary entries)
    (s : Settings) : parse text = .ok s ↔ Holds entries s ∧ s.rejection? = none := by
  simp only [parse_eq_ok_iff, hread, Option.some.injEq, exists_eq_left',
    decode_eq_ok_iff (Toml.tidy_of_read? hread) h]

theorem parse_undecodable_iff (hread : Toml.read? text = some entries) (h : Ordinary entries) :
    (∃ e, parse text = .error (.undecodable text e)) ↔ Wrong entries := by
  rw [← not_iff_not, ← exists_holds_iff]
  simp only [← decode_eq_ok_iff (Toml.tidy_of_read? hread) h]
  cases hd : decode entries with
  | error e =>
    rw [(parse_of_read? hread).2 e hd]
    simp
  | ok s =>
    rw [(parse_of_read? hread).1 s hd]
    simp [mapError_eq_error_iff]

theorem parse_rejected_iff (hread : Toml.read? text = some entries) (h : Ordinary entries)
    (r : Rejection) :
    parse text = .error (.rejected r) ↔ ∃ s, Holds entries s ∧ s.rejection? = some r := by
  simp only [← decode_eq_ok_iff (Toml.tidy_of_read? hread) h]
  cases hd : decode entries with
  | error e =>
    rw [(parse_of_read? hread).2 e hd]
    simp
  | ok s =>
    rw [(parse_of_read? hread).1 s hd]
    simp [mapError_eq_error_iff, checked_eq_error_iff]

/-- Documents that differ by edits are read to the same. -/
theorem sameOutcome_of_edits {text' : String} {entries' : Entries}
    (hread : Toml.read? text = some entries) (h : Ordinary entries)
    (hread' : Toml.read? text' = some entries') (hedits : Relation.EqvGen Edit entries entries') :
    SameOutcome text text' := by
  have h' : Ordinary entries' := (edits_keep Edit.ordinary_iff hedits).mpr h
  have hholds (s : Settings) : Holds entries' s ↔ Holds entries s :=
    edits_keep (p := (Holds · s)) (fun hedit => hedit.holds_iff s) hedits
  constructor
  · intro s
    rw [parse_ok_iff hread' h', parse_ok_iff hread h, hholds]
  · intro r
    simp only [parse_rejected_iff hread' h', parse_rejected_iff hread h, hholds]
  · rw [parse_undecodable_iff hread' h', parse_undecodable_iff hread h, ← not_iff_not,
      ← exists_holds_iff, ← exists_holds_iff]
    simp only [hholds]

end

/-- **Only the known keys count**: a document in which `heap` and `log` are tables and `level` and
`format` are texts is read by what each key comes to. -/
theorem parse_known {text : String} {entries : Entries} (hread : Toml.read? text = some entries)
    (h : Ordinary entries) : ParsesBy text entries where
  ok := parse_ok_iff hread h
  undecodable := parse_undecodable_iff hread h
  rejected := parse_rejected_iff hread h
  edits _ _ := sameOutcome_of_edits hread h

/-- A document with a key in each of its tables, and with others that are not known. -/
def extendedText : String :=
  "spare = 1\n[log]\nspare = true\nlevel = \"debug\"\n[heap]\ncapacity_bytes = 8\n"

def extendedEntries : Entries :=
  [("spare", .integer 1), ("log", .table [("spare", .boolean true), ("level", .string "debug")]),
    ("heap", .table [("capacity_bytes", .integer 8)])]

/-- It is read line by line. -/
theorem read?_extendedText : Toml.read? extendedText = some extendedEntries := by
  have hbare : ∀ name ∈ ["spare", "log", "level", "heap", "capacity_bytes"], IsBare name :=
    Toml.isBare_of_all (by decide)
  have hdebug : Writes ('"' :: "debug".toList ++ ['"']) (.string "debug") := writes_level .debug
  have hlines : extendedText.toList = assignLine "spare" (Decimal.digits 1) ++
      '[' :: ("log".toList ++ ']' :: '\n' :: (assignLine "spare" "true".toList ++
        (assignLine "level" ('"' :: "debug".toList ++ ['"']) ++
          '[' :: ("heap".toList ++ ']' :: '\n' ::
            (assignLine "capacity_bytes" (Decimal.digits 8) ++ []))))) := by
    decide
  have hmark : Toml.dropMark extendedText.toList = extendedText.toList := by
    rw [hlines]
    rfl
  rw [Toml.read?, hmark, hlines,
    statements_assignLine (hbare _ (by decide)) (Toml.writes_digits (by decide)),
    Toml.statements_header (hbare _ (by decide)),
    statements_assignLine (hbare _ (by decide)) Toml.writes_true,
    statements_assignLine (hbare _ (by decide)) hdebug,
    Toml.statements_header (hbare _ (by decide)),
    statements_assignLine (hbare _ (by decide)) (Toml.writes_digits (by decide)),
    Toml.statements_nil]
  rfl

theorem parse_known_extended :
    Toml.read? extendedText = some extendedEntries ∧ Ordinary extendedEntries ∧
      ParsesBy extendedText extendedEntries ∧
      parse extendedText = .ok { capacity := 8, log := { level := .debug } } := by
  have h : Ordinary extendedEntries := by
    constructor
    · rintro v ⟨⟩
      exact ⟨_, rfl⟩
    · rintro v ⟨⟩
      exact ⟨_, rfl⟩
    · rintro v ⟨⟩
      exact ⟨_, rfl⟩
    · rintro v ⟨⟩
  have hholds : Holds extendedEntries { capacity := 8, log := { level := .debug } } :=
    ⟨.given rfl, .given rfl, .absent, .absent, .absent⟩
  have hparses := parse_known read?_extendedText h
  exact ⟨read?_extendedText, h, hparses, (hparses.ok _).mpr ⟨hholds, by decide⟩⟩

end VmSupport.Settings
