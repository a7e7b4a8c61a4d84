import Mathlib.Tactic.MkIffOfInductiveProp
import VmSupport.Proofs.Settings.RoundTrip
import VmSupport.Proofs.Settings.Overriding
import VmSupport.Proofs.Toml.DistinctNames

/-!
# What a document decodes to, key by key

A decoding goes through the entries of a table in their order and carries settings along. Where no
name comes twice the order leaves no trace: each part of the settings belongs to one name, and it
comes to what the entry of that name means, or to its default if there is none.

**The law** (`decode_eq_ok_iff`): a document decodes exactly to the settings that it `Holds`, where
each of the five keys is looked up by itself.

What carries it is `Owns`, which says of a part of the state that only entries of its name set it.
From it the two tables and the document are decoded by the same argument (`Owns.settles`), and that
nothing stands in the way is a matter of each entry alone (`foldlM_seen_ok`).

The law is about documents that are `Ordinary`. A table may also be written as an array, and a name
as a table; these forms are read as well, but are not the subject here.
-/

namespace VmSupport.Settings

open Toml (Value Entries Tidy)

/-! ## Keys and their defaults -/

/-- **What a key comes to** in a document that may have it or not: the default, or what its value
means. -/
inductive Settles {α : Type} (means : Value → α → Prop) (default : α) : Option Value → α → Prop
  | absent : Settles means default none default
  | given {v : Value} {a : α} (h : means v a) : Settles means default (some v) a

namespace Settles

variable {α : Type} {means : Value → α → Prop} {default a : α} {given : Option Value} {v : Value}

theorem none_iff : Settles means default none a ↔ a = default := by
  constructor
  · rintro ⟨⟩
    rfl
  · rintro rfl
    exact .absent

theorem some_iff : Settles means default (some v) a ↔ means v a := by
  constructor
  · rintro (_ | h)
    exact h
  · exact .given

theorem mono {means' : Value → α → Prop} (h : ∀ v a, given = some v → means v a → means' v a)
    (hsettles : Settles means default given a) : Settles means' default given a := by
  cases hsettles with
  | absent => exact .absent
  | given hmeans => exact .given (h _ _ rfl hmeans)

theorem unique {a' : α} (h : Settles means default given a) (h' : Settles means default given a')
    (hone : ∀ v, means v a → means v a' → a = a') : a = a' := by
  cases h with
  | absent => exact (none_iff.mp h').symm
  | given hmeans => exact hone _ hmeans (some_iff.mp h')

end Settles

/-- A key can be settled unless its value means nothing. -/
theorem exists_settles_iff {α : Type} {means : Value → α → Prop} {default : α}
    {given : Option Value} :
    (∃ a, Settles means default given a) ↔ ¬ ∃ v, given = some v ∧ ∀ a, ¬ means v a := by
  cases given with
  | none => exact iff_of_true ⟨default, .absent⟩ nofun
  | some v =>
    constructor
    · rintro ⟨a, hsettles⟩ ⟨_, ⟨⟩, hnot⟩
      exact hnot a (Settles.some_iff.mp hsettles)
    · intro hnot
      by_contra hnone
      exact hnot ⟨v, rfl, fun a hmeans => hnone ⟨a, .given hmeans⟩⟩

/-! ## Going through entries -/

theorem map_eq_ok_iff {ε α β : Type} {r : Except ε α} {f : α → β} {b : β} :
    r.map f = .ok b ↔ ∃ a, r = .ok a ∧ f a = b := by
  cases r <;> simp [Except.map]

theorem bind_eq_ok_iff {ε α β : Type} {r : Except ε α} {f : α → Except ε β} {b : β} :
    r >>= f = .ok b ↔ ∃ a, r = .ok a ∧ f a = .ok b := by
  cases r <;> simp [Bind.bind, Except.bind]

section

variable {σ α : Type} {step : σ → String × Value → Except DecodeError σ} {es : Entries} {s s' : σ}
  {name : String} {v : Value} {get : σ → α} {read : Value → Except DecodeError α}

/-- One step of a decoding, with its complaint seen from the table. -/
def seen (step : σ → String × Value → Except DecodeError σ) (s : σ) (e : String × Value) :
    Except DecodeError σ :=
  under (.entry e.1) (step s e)

theorem seen_eq_ok_iff {e : String × Value} : seen step s e = .ok s' ↔ step s e = .ok s' :=
  mapError_eq_ok_iff

/-- A decoding comes to an end if each entry can be taken into account, in whatever state. -/
theorem foldlM_seen_ok (hstep : ∀ e ∈ es, ∀ s, ∃ s', step s e = .ok s') (s : σ) :
    ∃ s', es.foldlM (seen step) s = .ok s' := by
  induction es generalizing s with
  | nil => exact ⟨s, rfl⟩
  | cons e es ih =>
    obtain ⟨hfirst, hothers⟩ := List.forall_mem_cons.mp hstep
    obtain ⟨next, hnext⟩ := hfirst s
    obtain ⟨s', hrest⟩ := ih hothers next
    exact ⟨s', bind_eq_ok_iff.mpr ⟨next, seen_eq_ok_iff.mpr hnext, hrest⟩⟩

/-- So if whatever comes out is due, only one thing is due, and nothing stands in its way, then what
is due comes out. -/
theorem foldlM_seen_eq_ok_iff {due : σ → Prop}
    (hdue : ∀ s', es.foldlM (seen step) s = .ok s' → due s')
    (hunique : ∀ s' s'', due s' → due s'' → s' = s'')
    (hstep : ∀ s', due s' → ∀ e ∈ es, ∀ s, ∃ s', step s e = .ok s') :
    es.foldlM (seen step) s = .ok s' ↔ due s' := by
  refine ⟨hdue s', fun h => ?_⟩
  obtain ⟨s'', hfold⟩ := foldlM_seen_ok (hstep s' h) s
  rw [hunique s' s'' h (hdue s'' hfold), hfold]

/-- **A part of the state that belongs to a name**: an entry of that name sets it, and no other
entry changes it. -/
structure Owns (step : σ → String × Value → Except DecodeError σ) (name : String) (get : σ → α)
    (read : Value → Except DecodeError α) : Prop where
  own : ∀ {s v s'}, step s (name, v) = .ok s' → read v = .ok (get s')
  other : ∀ {s e s'}, e.1 ≠ name → step s e = .ok s' → get s' = get s

/-- Where each name comes once, a decoding sets the part to what the entry of its name means, or
leaves it. -/
theorem Owns.settles (h : Owns step name get read) (hnames : (es.map Prod.fst).Nodup)
    (hfold : es.foldlM (seen step) s = .ok s') :
    Settles (fun v a => read v = .ok a) (get s) (es.lookup name) (get s') := by
  induction es generalizing s with
  | nil =>
    cases hfold
    exact .absent
  | cons e es ih =>
    obtain ⟨k, v⟩ := e
    rw [List.foldlM_cons, bind_eq_ok_iff] at hfold
    obtain ⟨next, hnext, hrest⟩ := hfold
    rw [seen_eq_ok_iff] at hnext
    obtain ⟨hnew, hnames⟩ := List.nodup_cons.mp hnames
    have hsettles := ih hnames hrest
    by_cases hk : k = name
    · subst hk
      -- the name does not come again, so what it is set to here stays
      rw [Tidy.lookup_eq_none_iff.mpr hnew, Settles.none_iff] at hsettles
      rw [List.lookup_cons_self, hsettles]
      exact .given (h.own hnext)
    · rw [List.lookup_cons, beq_false_of_ne (Ne.symm hk), ← h.other hk hnext]
      exact hsettles

/-- An entry is found under its name, where each name comes once. -/
theorem lookup_eq_some_iff_mem (hnames : (es.map Prod.fst).Nodup) :
    es.lookup name = some v ↔ (name, v) ∈ es := by
  rw [List.lookup_eq_some_iff]
  constructor
  · rintro ⟨front, back, rfl, -⟩
    exact List.mem_append_right _ List.mem_cons_self
  · intro he
    obtain ⟨front, back, rfl⟩ := List.append_of_mem he
    rw [List.map_append, List.map_cons, List.nodup_append] at hnames
    refine ⟨front, back, rfl, fun e he => bne_iff_ne.mpr ?_⟩
    exact (hnames.2.2 e.1 (List.mem_map_of_mem he) name List.mem_cons_self).symm

/-- What settles a key means something for each entry of that name. -/
theorem Settles.of_mem {means : Value → α → Prop} {default a : α}
    (h : Settles means default (es.lookup name) a) (hnames : (es.map Prod.fst).Nodup)
    (he : (name, v) ∈ es) : means v a := by
  rw [(lookup_eq_some_iff_mem hnames).mpr he] at h
  exact Settles.some_iff.mp h

end

/-! ## Values -/

theorem decodeWord_eq_ok_iff {v : Value} {n : Nat} : decodeWord v = .ok n ↔ v = .integer n := by
  cases v with
  | integer i =>
    simp only [decodeWord, Value.integer.injEq]
    split
    · simp only [reduceCtorEq, false_iff]
      omega
    · simp only [Except.ok.injEq]
      omega
  | _ => simp [decodeWord]

theorem decodeTruth_eq_ok_iff {v : Value} {b : Bool} : decodeTruth v = .ok b ↔ v = .boolean b := by
  cases v <;> simp [decodeTruth]

theorem decodeText_eq_ok_iff {v : Value} {s : String} : decodeText v = .ok s ↔ v = .string s := by
  cases v <;> simp [decodeText]

theorem level_eq_name {s : String} {l : Log.Level} (h : Log.Level.ofName? s = some l) :
    s = l.name := by
  unfold Log.Level.ofName? at h
  have hname := List.find?_some h
  exact (beq_iff_eq.mp hname).symm

theorem layout_eq_name {s : String} {l : Log.Layout} (h : Log.Layout.ofName? s = some l) :
    s = l.name := by
  unfold Log.Layout.ofName? at h
  have hname := List.find?_some h
  exact (beq_iff_eq.mp hname).symm

theorem level_unique {v : Value} {l l' : Log.Level} (h : v = .string l.name)
    (h' : v = .string l'.name) : l = l' := by
  have hread := decodeLevel_name l
  rw [← h, h', decodeLevel_name] at hread
  exact (Except.ok.inj hread).symm

theorem layout_unique {v : Value} {l l' : Log.Layout} (h : v = .string l.name)
    (h' : v = .string l'.name) : l = l' := by
  have hread := decodeLayout_name l
  rw [← h, h', decodeLayout_name] at hread
  exact (Except.ok.inj hread).symm

/-- A text that is read as one of the known names is that name. -/
theorem eq_string_of_decodeChoice {α : Type} {ofName? : String → Option α} {nameOf : α → String}
    (hname : ∀ {s a}, ofName? s = some a → s = nameOf a) {known : List String} {v : Value} {a : α}
    (htext : ∃ s, v = .string s) (h : decodeChoice ofName? known v = .ok a) :
    v = .string (nameOf a) := by
  obtain ⟨s, rfl⟩ := htext
  rw [decodeChoice] at h
  split at h
  · next hsome =>
    cases h
    rw [hname hsome]
  · cases h

/-! ## Documents -/

/-- The entries of the table that a document has under a name, or none if it has no such table. -/
def inside (entries : Entries) (name : String) : Entries :=
  match entries.lookup name with
  | some (.table inner) => inner
  | _ => []

/-- The value that a document gives a key of one of its tables, if it does. -/
def given? (entries : Entries) (table key : String) : Option Value :=
  (inside entries table).lookup key

theorem inside_of_lookup {entries inner : Entries} {name : String}
    (h : entries.lookup name = some (.table inner)) : inside entries name = inner := by
  rw [inside, h]

theorem inside_of_none {entries : Entries} {name : String} (h : entries.lookup name = none) :
    inside entries name = [] := by
  rw [inside, h]

/-- **The documents in question**: `heap` and `log` are tables where they are present, and `level`
and `format` are texts. -/
@[mk_iff]
structure Ordinary (entries : Entries) : Prop where
  heap : ∀ v, entries.lookup "heap" = some v → ∃ inner, v = .table inner
  log : ∀ v, entries.lookup "log" = some v → ∃ inner, v = .table inner
  level : ∀ v, given? entries "log" "level" = some v → ∃ text, v = .string text
  layout : ∀ v, given? entries "log" "format" = some v → ∃ text, v = .string text

/-- What the table `heap` says. -/
def HeapHolds (inner : Entries) (capacity : Nat) : Prop :=
  Settles (fun v n => v = .integer (n : Nat)) defaultCapacity (inner.lookup "capacity_bytes")
    capacity

/-- What the table `log` says, key by key. -/
@[mk_iff]
structure LogHolds (inner : Entries) (log : LogSettings) : Prop where
  level : Settles (fun v l => v = .string (Log.Level.name l)) .info (inner.lookup "level") log.level
  layout : Settles (fun v l => v = .string (Log.Layout.name l)) .compact (inner.lookup "format")
    log.layout
  spanEvents : Settles (fun v b => v = .boolean b) false (inner.lookup "span_events") log.spanEvents
  filter : Settles (fun v f => ∃ text, v = .string text ∧ f = some text) none
    (inner.lookup "filter") log.filter

/-- **What a document says**, key by key. -/
@[mk_iff]
structure Holds (entries : Entries) (s : Settings) : Prop where
  heap : HeapHolds (inside entries "heap") s.capacity
  log : LogHolds (inside entries "log") s.log

/-- A key whose value is not of the right form, or not one of the names. -/
inductive Wrong (entries : Entries) : Prop
  | capacity {v : Value} (h : given? entries "heap" "capacity_bytes" = some v)
    (hv : ∀ n : Nat, v ≠ .integer n)
  | level {v : Value} (h : given? entries "log" "level" = some v)
    (hv : ∀ l, v ≠ .string (Log.Level.name l))
  | layout {v : Value} (h : given? entries "log" "format" = some v)
    (hv : ∀ l, v ≠ .string (Log.Layout.name l))
  | spanEvents {v : Value} (h : given? entries "log" "span_events" = some v)
    (hv : ∀ b, v ≠ .boolean b)
  | filter {v : Value} (h : given? entries "log" "filter" = some v) (hv : ∀ text, v ≠ .string text)

theorem LogHolds.unique {inner : Entries} {log log' : LogSettings} (h : LogHolds inner log)
    (h' : LogHolds inner log') : log = log' := by
  obtain ⟨hlevel, hlayout, hspans, hfilter⟩ := h
  obtain ⟨level, layout, spanEvents, filter⟩ := log
  obtain rfl := hlevel.unique h'.level fun _ => level_unique
  obtain rfl := hlayout.unique h'.layout fun _ => layout_unique
  obtain rfl := hspans.unique h'.spanEvents fun _ hb hb' => Value.boolean.inj (hb.symm.trans hb')
  obtain rfl := hfilter.unique h'.filter (by
    rintro _ ⟨text, rfl, rfl⟩ ⟨_, ⟨⟩, hf'⟩
    exact hf'.symm)
  rfl

theorem HeapHolds.unique {inner : Entries} {c c' : Nat} (h : HeapHolds inner c)
    (h' : HeapHolds inner c') : c = c' :=
  Settles.unique h h' fun _ hn hn' => Int.ofNat.inj (Value.integer.inj (hn.symm.trans hn'))

/-! ## The table of the heap -/

theorem owns_capacity : Owns heapEntry "capacity_bytes" id decodeWord where
  own h := h
  other := by
    intro s e s' hne h
    unfold heapEntry at h
    split at h
    · exact absurd rfl hne
    · cases h
      rfl

theorem decodeHeap_table (inner : Entries) :
    decodeHeap (.table inner) = inner.foldlM (seen heapEntry) defaultCapacity := by
  rw [decodeHeap, tableEntries?]
  dsimp only
  rw [List.foldlM_map]
  rfl

/-- **The table `heap`** decodes to what its known key comes to. -/
theorem decodeHeap_eq_ok_iff {inner : Entries} (hnames : (inner.map Prod.fst).Nodup) {c : Nat} :
    decodeHeap (.table inner) = .ok c ↔ HeapHolds inner c := by
  rw [decodeHeap_table]
  refine foldlM_seen_eq_ok_iff ?_ (fun _ _ => HeapHolds.unique) ?_
  · intro c' hfold
    exact (owns_capacity.settles hnames hfold).mono fun v n _ => decodeWord_eq_ok_iff.mp
  · rintro c' h ⟨k, v⟩ he s
    unfold heapEntry
    split
    · next heq =>
      cases heq
      exact ⟨c', decodeWord_eq_ok_iff.mpr (h.of_mem hnames he)⟩
    · exact ⟨s, rfl⟩

/-! ## The table of the log -/

theorem decodeLog_table (inner : Entries) :
    decodeLog (.table inner) = inner.foldlM (seen logEntry) {} := by
  rw [decodeLog, tableEntries?]
  dsimp only
  rw [List.foldlM_map]
  rfl

/-- An entry leaves alone what is not of its name. -/
theorem logEntry_frame {log log' : LogSettings} {e : String × Value}
    (h : logEntry log e = .ok log') :
    (e.1 ≠ "level" → log'.level = log.level) ∧ (e.1 ≠ "format" → log'.layout = log.layout) ∧
      (e.1 ≠ "span_events" → log'.spanEvents = log.spanEvents) ∧
      (e.1 ≠ "filter" → log'.filter = log.filter) := by
  unfold logEntry at h
  split at h
  · obtain ⟨_, -, rfl⟩ := map_eq_ok_iff.mp h
    exact ⟨fun hne => absurd rfl hne, fun _ => rfl, fun _ => rfl, fun _ => rfl⟩
  · obtain ⟨_, -, rfl⟩ := map_eq_ok_iff.mp h
    exact ⟨fun _ => rfl, fun hne => absurd rfl hne, fun _ => rfl, fun _ => rfl⟩
  · obtain ⟨_, -, rfl⟩ := map_eq_ok_iff.mp h
    exact ⟨fun _ => rfl, fun _ => rfl, fun hne => absurd rfl hne, fun _ => rfl⟩
  · obtain ⟨_, -, rfl⟩ := map_eq_ok_iff.mp h
    exact ⟨fun _ => rfl, fun _ => rfl, fun _ => rfl, fun hne => absurd rfl hne⟩
  · cases h
    exact ⟨fun _ => rfl, fun _ => rfl, fun _ => rfl, fun _ => rfl⟩

theorem owns_level : Owns logEntry "level" (·.level) decodeLevel where
  own h := by
    obtain ⟨l, hl, rfl⟩ := map_eq_ok_iff.mp h
    exact hl
  other hne h := (logEntry_frame h).1 hne

theorem owns_layout : Owns logEntry "format" (·.layout) decodeLayout where
  own h := by
    obtain ⟨l, hl, rfl⟩ := map_eq_ok_iff.mp h
    exact hl
  other hne h := (logEntry_frame h).2.1 hne

theorem owns_spanEvents : Owns logEntry "span_events" (·.spanEvents) decodeTruth where
  own h := by
    obtain ⟨b, hb, rfl⟩ := map_eq_ok_iff.mp h
    exact hb
  other hne h := (logEntry_frame h).2.2.1 hne

theorem owns_filter : Owns logEntry "filter" (·.filter) fun v => (decodeText v).map some where
  own h := by
    obtain ⟨text, htext, rfl⟩ := map_eq_ok_iff.mp h
    exact map_eq_ok_iff.mpr ⟨text, htext, rfl⟩
  other hne h := (logEntry_frame h).2.2.2 hne

/-- **The table `log`** decodes to what its known keys come to, if level and format are texts. -/
theorem decodeLog_eq_ok_iff {inner : Entries} (hnames : (inner.map Prod.fst).Nodup)
    (hlevel : ∀ v, inner.lookup "level" = some v → ∃ text, v = .string text)
    (hlayout : ∀ v, inner.lookup "format" = some v → ∃ text, v = .string text)
    {log : LogSettings} :
    decodeLog (.table inner) = .ok log ↔ LogHolds inner log := by
  rw [decodeLog_table]
  refine foldlM_seen_eq_ok_iff ?_ (fun _ _ => LogHolds.unique) ?_
  · intro log' hfold
    refine ⟨(owns_level.settles hnames hfold).mono fun v l hv hl => ?_,
      (owns_layout.settles hnames hfold).mono fun v l hv hl => ?_,
      (owns_spanEvents.settles hnames hfold).mono fun v b _ => decodeTruth_eq_ok_iff.mp,
      (owns_filter.settles hnames hfold).mono fun v f _ hf => ?_⟩
    · exact eq_string_of_decodeChoice level_eq_name (hlevel v hv) hl
    · exact eq_string_of_decodeChoice layout_eq_name (hlayout v hv) hl
    · obtain ⟨text, htext, hf⟩ := map_eq_ok_iff.mp hf
      exact ⟨text, decodeText_eq_ok_iff.mp htext, hf.symm⟩
  · rintro log' h ⟨k, v⟩ he log
    unfold logEntry
    split
    · next heq =>
      cases heq
      rw [h.level.of_mem hnames he, decodeLevel_name]
      exact ⟨_, rfl⟩
    · next heq =>
      cases heq
      rw [h.layout.of_mem hnames he, decodeLayout_name]
      exact ⟨_, rfl⟩
    · next heq =>
      cases heq
      rw [h.spanEvents.of_mem hnames he]
      exact ⟨_, rfl⟩
    · next heq =>
      cases heq
      obtain ⟨text, rfl, -⟩ := h.filter.of_mem hnames he
      exact ⟨_, rfl⟩
    · exact ⟨log, rfl⟩

/-! ## A whole document -/

theorem decode_eq_foldlM (entries : Entries) :
    decode entries = entries.foldlM (seen documentEntry) {} :=
  rfl

theorem documentEntry_frame {s s' : Settings} {e : String × Value}
    (h : documentEntry s e = .ok s') :
    (e.1 ≠ "heap" → s'.capacity = s.capacity) ∧ (e.1 ≠ "log" → s'.log = s.log) := by
  unfold documentEntry at h
  split at h
  · obtain ⟨_, -, rfl⟩ := map_eq_ok_iff.mp h
    exact ⟨fun hne => absurd rfl hne, fun _ => rfl⟩
  · obtain ⟨_, -, rfl⟩ := map_eq_ok_iff.mp h
    exact ⟨fun _ => rfl, fun hne => absurd rfl hne⟩
  · cases h
    exact ⟨fun _ => rfl, fun _ => rfl⟩

theorem owns_heap : Owns documentEntry "heap" (·.capacity) decodeHeap where
  own h := by
    obtain ⟨c, hc, rfl⟩ := map_eq_ok_iff.mp h
    exact hc
  other hne h := (documentEntry_frame h).1 hne

theorem owns_log : Owns documentEntry "log" (·.log) decodeLog where
  own h := by
    obtain ⟨log, hlog, rfl⟩ := map_eq_ok_iff.mp h
    exact hlog
  other hne h := (documentEntry_frame h).2 hne

/-- What a table comes to is what its entries say, where it is absent as if it had none. -/
theorem settles_inside_iff {α : Type} {entries : Entries} {name : String} {default a : α}
    {read : Value → Except DecodeError α} {due : Entries → α → Prop}
    (htable : ∀ v, entries.lookup name = some v → ∃ inner, v = .table inner)
    (hdefault : due [] a ↔ a = default)
    (hinner : ∀ inner, entries.lookup name = some (.table inner) →
      (read (.table inner) = .ok a ↔ due inner a)) :
    Settles (fun v a => read v = .ok a) default (entries.lookup name) a ↔
      due (inside entries name) a := by
  cases hlookup : entries.lookup name with
  | none => rw [Settles.none_iff, inside_of_none hlookup, hdefault]
  | some v =>
    obtain ⟨inner, rfl⟩ := htable v hlookup
    rw [Settles.some_iff, inside_of_lookup hlookup, hinner inner hlookup]

theorem heapHolds_nil_iff {c : Nat} : HeapHolds [] c ↔ c = defaultCapacity :=
  Settles.none_iff

theorem logHolds_nil_iff {log : LogSettings} : LogHolds [] log ↔ log = {} := by
  have hempty : decodeLog (.table []) = .ok log ↔ LogHolds [] log :=
    decodeLog_eq_ok_iff (by simp) (by simp) (by simp)
  rw [← hempty]
  exact ⟨fun h => (Except.ok.inj h).symm, fun h => congrArg Except.ok h.symm⟩

theorem Holds.unique {entries : Entries} {s s' : Settings} (h : Holds entries s)
    (h' : Holds entries s') : s = s' := by
  obtain ⟨capacity, log⟩ := s
  obtain rfl := h.heap.unique h'.heap
  obtain rfl := h.log.unique h'.log
  rfl

/-- **A document decodes to what it says**, if it does not name anything twice. -/
theorem decode_eq_ok_iff {entries : Entries} (htidy : Tidy Value.Distinct entries)
    (h : Ordinary entries) {s : Settings} : decode entries = .ok s ↔ Holds entries s := by
  have hnames {name : String} {inner : Entries}
      (hlookup : entries.lookup name = some (.table inner)) : (inner.map Prod.fst).Nodup := by
    cases htidy.of_lookup hlookup with
    | scalar h => cases h
    | table hnames _ => exact hnames
  have hheap (c : Nat) := settles_inside_iff (a := c) h.heap heapHolds_nil_iff
    fun inner hlookup => decodeHeap_eq_ok_iff (hnames hlookup)
  have hlog (log : LogSettings) := settles_inside_iff (a := log) h.log logHolds_nil_iff
    fun inner hlookup => by
      have hinside := inside_of_lookup hlookup
      exact decodeLog_eq_ok_iff (hnames hlookup) (hinside ▸ h.level) (hinside ▸ h.layout)
  rw [decode_eq_foldlM]
  refine foldlM_seen_eq_ok_iff ?_ (fun _ _ => Holds.unique) ?_
  · intro s' hfold
    exact ⟨(hheap _).mp (owns_heap.settles htidy.names hfold),
      (hlog _).mp (owns_log.settles htidy.names hfold)⟩
  · rintro s' hholds ⟨k, v⟩ he s
    unfold documentEntry
    split
    · next heq =>
      cases heq
      rw [((hheap _).mpr hholds.heap).of_mem htidy.names he]
      exact ⟨_, rfl⟩
    · next heq =>
      cases heq
      rw [((hlog _).mpr hholds.log).of_mem htidy.names he]
      exact ⟨_, rfl⟩
    · exact ⟨s, rfl⟩

/-- A document says something unless a key has a wrong value. -/
theorem exists_holds_iff {entries : Entries} : (∃ s, Holds entries s) ↔ ¬ Wrong entries := by
  constructor
  · rintro ⟨s, hheap, hlog⟩ (⟨h, hv⟩ | ⟨h, hv⟩ | ⟨h, hv⟩ | ⟨h, hv⟩ | ⟨h, hv⟩)
    · exact exists_settles_iff.mp ⟨_, hheap⟩ ⟨_, h, hv⟩
    · exact exists_settles_iff.mp ⟨_, hlog.level⟩ ⟨_, h, hv⟩
    · exact exists_settles_iff.mp ⟨_, hlog.layout⟩ ⟨_, h, hv⟩
    · exact exists_settles_iff.mp ⟨_, hlog.spanEvents⟩ ⟨_, h, hv⟩
    · refine exists_settles_iff.mp ⟨_, hlog.filter⟩ ⟨_, h, ?_⟩
      rintro f ⟨text, htext, -⟩
      exact hv text htext
  · intro hright
    have ⟨capacity, hcapacity⟩ : ∃ c, HeapHolds (inside entries "heap") c :=
      exists_settles_iff.mpr fun ⟨_, h, hv⟩ => hright (.capacity h hv)
    have ⟨level, hlevel⟩ : ∃ l, Settles (fun v l => v = .string (Log.Level.name l)) .info
        (given? entries "log" "level") l :=
      exists_settles_iff.mpr fun ⟨_, h, hv⟩ => hright (.level h hv)
    have ⟨layout, hlayout⟩ : ∃ l, Settles (fun v l => v = .string (Log.Layout.name l)) .compact
        (given? entries "log" "format") l :=
      exists_settles_iff.mpr fun ⟨_, h, hv⟩ => hright (.layout h hv)
    have ⟨spanEvents, hspans⟩ : ∃ b, Settles (fun v b => v = .boolean b) false
        (given? entries "log" "span_events") b :=
      exists_settles_iff.mpr fun ⟨_, h, hv⟩ => hright (.spanEvents h hv)
    have ⟨filter, hfilter⟩ : ∃ f, Settles (fun v f => ∃ text, v = .string text ∧ f = some text)
        none (given? entries "log" "filter") f :=
      exists_settles_iff.mpr fun ⟨_, h, hv⟩ =>
        hright (.filter h fun text htext => hv (some text) ⟨text, htext, rfl⟩)
    exact ⟨⟨capacity, level, layout, spanEvents, filter⟩, hcapacity,
      hlevel, hlayout, hspans, hfilter⟩

end VmSupport.Settings
