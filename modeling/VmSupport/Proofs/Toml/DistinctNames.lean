import Mathlib.Data.List.Nodup
import VmSupport.Toml.Draft

/-!
# A document names nothing twice

A table can be written in several ways: under a header, by the paths of assignments, or between
braces. Each way puts it together step by step, and a step either adds an entry under a name that is
not taken, or changes the value of a name and leaves the names as they are.

**The law** (`tidy_of_read?`): in a document that is read no table has a name twice, neither the
document itself nor a table inside it, at whatever depth.

What carries it is `Tidy`: entries have each name once, and something is true of all their values. A
step of each of the three ways preserves it (`Tidy.concat`, `Tidy.replace`), so a whole document has
it.
-/

namespace VmSupport.Toml

/-! ## Entries -/

/-- Entries with each name once, and with something true of all values. -/
structure Tidy {α : Type} (p : α → Prop) (es : List (String × α)) : Prop where
  names : (es.map Prod.fst).Nodup
  values : ∀ e ∈ es, p e.2

namespace Tidy

variable {α β : Type} {p : α → Prop} {q : β → Prop} {es : List (String × α)} {name : String} {a : α}

theorem nil : Tidy p [] :=
  ⟨List.nodup_nil, nofun⟩

/-- An entry under a name that is not taken may be added. -/
theorem concat (h : Tidy p es) (hnew : name ∉ es.map Prod.fst) (ha : p a) :
    Tidy p (es ++ [(name, a)]) where
  names := by
    rw [List.map_append, List.nodup_append]
    refine ⟨h.names, List.nodup_singleton _, ?_⟩
    rintro taken htaken _ hname rfl
    obtain rfl := List.mem_singleton.mp hname
    exact hnew htaken
  values := List.forall_mem_append.mpr ⟨h.values, List.forall_mem_singleton.mpr ha⟩

/-- What is looked up in vain is not taken. -/
theorem lookup_eq_none_iff : es.lookup name = none ↔ name ∉ es.map Prod.fst := by
  rw [List.lookup_eq_none_iff, List.mem_map]
  constructor
  · rintro hnone ⟨e, he, rfl⟩
    have hne := hnone e he
    rw [bne_self_eq_false] at hne
    cases hne
  · intro hnot e he
    exact bne_iff_ne.mpr fun hname => hnot ⟨e, he, hname.symm⟩

theorem of_lookup (h : Tidy p es) (hsome : es.lookup name = some a) : p a := by
  obtain ⟨front, back, rfl, -⟩ := List.lookup_eq_some_iff.mp hsome
  exact h.values (name, a) (List.mem_append_right _ List.mem_cons_self)

theorem map_fst_replaceEntry (name : String) (a : α) (es : List (String × α)) :
    (replaceEntry name a es).map Prod.fst = es.map Prod.fst := by
  induction es with
  | nil => rfl
  | cons e es ih =>
    obtain ⟨k, w⟩ := e
    unfold replaceEntry
    split
    · rfl
    · rw [List.map_cons, List.map_cons, ih]

theorem mem_replaceEntry {e : String × α} (he : e ∈ replaceEntry name a es) : e ∈ es ∨ e.2 = a := by
  induction es with
  | nil => cases he
  | cons head es ih =>
    obtain ⟨k, w⟩ := head
    unfold replaceEntry at he
    split at he
    · obtain rfl | he := List.mem_cons.mp he
      · exact .inr rfl
      · exact .inl (List.mem_cons_of_mem _ he)
    · obtain rfl | he := List.mem_cons.mp he
      · exact .inl List.mem_cons_self
      · exact (ih he).imp_left (List.mem_cons_of_mem _)

/-- The value of a name may be changed. -/
theorem replace (h : Tidy p es) (name : String) (ha : p a) : Tidy p (replaceEntry name a es) where
  names := by
    rw [map_fst_replaceEntry]
    exact h.names
  values := by
    intro e he
    obtain he | he := mem_replaceEntry he
    · exact h.values e he
    · rw [he]
      exact ha

theorem filter (h : Tidy p es) (keep : String × α → Bool) : Tidy p (es.filter keep) where
  names := h.names.sublist (List.filter_sublist.map _)
  values := fun e he => h.values e (List.mem_filter.mp he).1

/-- The values may be made into others. -/
theorem map {f : α → β} (h : Tidy p es) (hf : ∀ e ∈ es, q (f e.2)) :
    Tidy q (es.map fun e => (e.1, f e.2)) where
  names := by
    rw [List.map_map]
    exact h.names
  values := by
    intro _ hmem
    obtain ⟨e, he, rfl⟩ := List.mem_map.mp hmem
    exact hf e he

end Tidy

/-- What each step preserves, all steps together preserve. -/
theorem foldlM_preserves {σ ε : Type} {p : σ → Prop} {step : σ → ε → Option σ} {es : List ε}
    (hstep : ∀ e ∈ es, ∀ s s', p s → step s e = some s' → p s') {s s' : σ} (hs : p s)
    (hfold : es.foldlM step s = some s') : p s' := by
  induction es generalizing s with
  | nil =>
    cases hfold
    exact hs
  | cons e es ih =>
    rw [List.foldlM_cons, Option.bind_eq_bind, Option.bind_eq_some_iff] at hfold
    obtain ⟨next, hnext, hrest⟩ := hfold
    obtain ⟨hfirst, hothers⟩ := List.forall_mem_cons.mp hstep
    exact ih hothers (hfirst s next hs hnext) hrest

/-! ## Values -/

/-- The value holds no other values. -/
def Value.isScalar : Value → Bool
  | .string _ | .integer _ | .float _ | .boolean _ | .date => true
  | _ => false

/-- **No table in a value has a name twice.** -/
inductive Value.Distinct : Value → Prop
  | scalar {v : Value} (h : v.isScalar = true) : Distinct v
  | array {items : List Value} (h : ∀ v ∈ items, Distinct v) : Distinct (.array items)
  | rows {tables : List Entries} (hnames : ∀ t ∈ tables, (t.map Prod.fst).Nodup)
    (h : ∀ t ∈ tables, ∀ e ∈ t, Distinct e.2) : Distinct (.rows tables)
  | table {entries : Entries} (hnames : (entries.map Prod.fst).Nodup)
    (h : ∀ e ∈ entries, Distinct e.2) : Distinct (.table entries)

/-- The same of an entry of an inline table. -/
inductive InlineNode.Distinct : InlineNode → Prop
  | value {v : Value} (h : v.Distinct) : Distinct (.value v)
  | path {entries : List (String × InlineNode)} (hnames : (entries.map Prod.fst).Nodup)
    (h : ∀ e ∈ entries, Distinct e.2) : Distinct (.path entries)

/-- The same of a part of a document. -/
inductive Node.Distinct : Node → Prop
  | value {v : Value} (h : v.Distinct) : Distinct (.value v)
  | table {origin : Origin} {entries : Nodes} (hnames : (entries.map Prod.fst).Nodup)
    (h : ∀ e ∈ entries, Distinct e.2) : Distinct (.table origin entries)
  | elements {tables : List Nodes} (hnames : ∀ t ∈ tables, (t.map Prod.fst).Nodup)
    (h : ∀ t ∈ tables, ∀ e ∈ t, Distinct e.2) : Distinct (.elements tables)

/-! ## Inline tables -/

theorem inlineEntries_eq_map (es : List (String × InlineNode)) :
    inlineEntries es = es.map fun e => (e.1, e.2.toValue) := by
  induction es with
  | nil => rfl
  | cons e es ih => rw [inlineEntries, ih, List.map_cons]

theorem InlineNode.Distinct.toValue {node : InlineNode} (h : node.Distinct) :
    node.toValue.Distinct := by
  induction h with
  | value h => exact h
  | @path entries hnames h ih =>
    have htidy : Tidy Value.Distinct (inlineEntries entries) := by
      rw [inlineEntries_eq_map]
      exact (Tidy.mk hnames h).map ih
    exact .table htidy.names htidy.values

/-- An assignment leaves an inline table tidy. -/
theorem addInline_tidy {v : Value} (hv : v.Distinct) {path : List String}
    {es es' : List (String × InlineNode)} (h : Tidy InlineNode.Distinct es)
    (hadd : addInline v path es = some es') : Tidy InlineNode.Distinct es' := by
  induction path, es using addInline.induct generalizing es' with
  | case1 => cases hadd
  | case2 name es hnone =>
    simp only [addInline, hnone, Option.some.injEq] at hadd
    subst hadd
    exact h.concat (Tidy.lookup_eq_none_iff.mp hnone) (.value hv)
  | case3 name es node hsome =>
    simp only [addInline, hsome, reduceCtorEq] at hadd
  | case4 name path es hpath hnone ih =>
    simp only [addInline, hnone, Option.map_eq_some_iff] at hadd
    obtain ⟨inner, hinner, rfl⟩ := hadd
    have htidy := ih .nil hinner
    exact h.concat (Tidy.lookup_eq_none_iff.mp hnone) (.path htidy.names htidy.values)
  | case5 name path es hpath inner hsome ih =>
    simp only [addInline, hsome, Option.map_eq_some_iff] at hadd
    obtain ⟨inner', hinner', rfl⟩ := hadd
    obtain ⟨hnames, hvalues⟩ | ⟨hnames, hvalues⟩ := h.of_lookup hsome
    have htidy := ih ⟨hnames, hvalues⟩ hinner'
    exact h.replace name (.path htidy.names htidy.values)
  | case6 name path es hpath v' hsome =>
    simp only [addInline, hsome, reduceCtorEq] at hadd

/-- So no inline table has a name twice. -/
theorem inlineTable_distinct {assignments : List (List String × Value)}
    (h : ∀ a ∈ assignments, a.2.Distinct) {v : Value} (htable : inlineTable assignments = some v) :
    v.Distinct := by
  obtain ⟨es, hes, rfl⟩ := Option.map_eq_some_iff.mp htable
  have htidy : Tidy InlineNode.Distinct es :=
    foldlM_preserves (fun a ha es es' hes hadd => addInline_tidy (h a ha) hes hadd) .nil hes
  exact InlineNode.Distinct.toValue (.path htidy.names htidy.values)

/-! ## Reading -/

/-- Whatever a reader answers has a property. -/
def Yields {α : Type} (p : α → Prop) (reader : Reader α) : Prop :=
  ∀ s a r, reader s = some (a, r) → p a

theorem yields_separated {α : Type} {p : α → Prop} {item : Reader α} (h : Yields p item)
    (separator : Char) : Yields (∀ a ∈ ·, p a) (separated item separator) := by
  intro s as r hread
  induction s using separated.induct item separator generalizing as r with
  | case1 s hnone =>
    rw [separated, hnone] at hread
    cases hread
  | case2 s a hlast =>
    rw [separated, hlast] at hread
    cases hread
    exact List.forall_mem_singleton.mpr (h s a [] hlast)
  | case3 s a c r' hitem hnext rest r'' hrest ih =>
    rw [separated, hitem] at hread
    simp only [dif_pos hnext, hrest] at hread
    cases hread
    exact List.forall_mem_cons.mpr ⟨h s a _ hitem, ih rest r'' hrest⟩
  | case4 s a c r' hitem hnext hnone _ =>
    rw [separated, hitem] at hread
    simp only [dif_pos hnext, hnone] at hread
    cases hread
    exact List.forall_mem_singleton.mpr (h s a _ hitem)
  | case5 s a c r' hitem hnext =>
    rw [separated, hitem] at hread
    simp only [dif_neg hnext] at hread
    cases hread
    exact List.forall_mem_singleton.mpr (h s a _ hitem)

theorem isScalar_boundedInteger {n : Int} {v : Value} (h : boundedInteger n = some v) :
    v.isScalar = true := by
  unfold boundedInteger at h
  split at h
  · cases h
    rfl
  · cases h

theorem isScalar_boundedFloat {negative : Bool} {coefficient : Nat} {power : Int} {v : Value}
    (h : boundedFloat negative coefficient power = some v) : v.isScalar = true := by
  unfold boundedFloat at h
  split at h
  · cases h
  · cases h
    rfl

/-- A value in front of a rest that is the same whatever the value is. -/
theorem of_map_pair {o : Option Value} {rest r : List Char} {v : Value}
    (h : o.map (·, rest) = some (v, r)) : o = some v := by
  obtain ⟨_, ho, heq⟩ := Option.map_eq_some_iff.mp h
  cases heq
  exact ho

theorem yields_integer : Yields (·.isScalar = true) integer := by
  have hmarked (base : Nat) (isDigit : Char → Bool) :
      Yields (·.isScalar = true) (markedInteger base isDigit) := by
    intro s v r h
    unfold markedInteger at h
    split at h
    · cases h
    · exact isScalar_boundedInteger (of_map_pair h)
  intro s v r h
  unfold integer at h
  split at h
  · exact hmarked _ _ _ v r h
  · exact hmarked _ _ _ v r h
  · exact hmarked _ _ _ v r h
  · split at h
    · cases h
    · exact isScalar_boundedInteger (of_map_pair h)

theorem yields_decimalFloat : Yields (·.isScalar = true) decimalFloat := by
  intro s v r h
  unfold decimalFloat at h
  split at h
  · cases h
  split at h
  · exact isScalar_boundedFloat (of_map_pair h)
  split at h
  · cases h
  split at h
  · exact isScalar_boundedFloat (of_map_pair h)
  · exact isScalar_boundedFloat (of_map_pair h)

theorem yields_namedFloat : Yields (·.isScalar = true) namedFloat := by
  intro s v r h
  unfold namedFloat at h
  split at h
  split at h
  · cases h
    rfl
  · cases h
    rfl
  · cases h

theorem yields_date : Yields (·.isScalar = true) date := by
  intro s v r h
  unfold date at h
  split at h
  · cases h
    rfl
  · obtain ⟨rest, -, heq⟩ := Option.map_eq_some_iff.mp h
    cases heq
    rfl

theorem yields_numeric : Yields (·.isScalar = true) numeric := by
  intro s v r h
  simp only [numeric, Option.orElse_eq_orElse, Option.orElse_eq_or, Option.or_eq_some_iff] at h
  obtain h | ⟨-, h | ⟨-, h | ⟨-, h⟩⟩⟩ := h
  · exact yields_date s v r h
  · exact yields_decimalFloat s v r h
  · exact yields_namedFloat s v r h
  · exact yields_integer s v r h

theorem yields_scalar : Yields (·.isScalar = true) scalar := by
  intro s v r h
  unfold scalar at h
  split at h
  · obtain ⟨_, -, heq⟩ := Option.map_eq_some_iff.mp h
    cases heq
    rfl
  · obtain ⟨_, -, heq⟩ := Option.map_eq_some_iff.mp h
    cases heq
    rfl
  · cases h
    rfl
  · cases h
    rfl
  · exact yields_numeric s v r h

/-- Separated items have the property of what the reader of an item answers; there may be none. -/
theorem forall_separated {α : Type} {p : α → Prop} {item : Reader α} (h : Yields p item)
    (separator : Char) (s : List Char) :
    ∀ a ∈ ((separated item separator s).getD ([], s)).1, p a := by
  cases hread : separated item separator s with
  | none => exact nofun
  | some result => exact yields_separated h separator s result.1 result.2 hread

theorem yields_arrayRest {value : Reader Value} (hvalue : Yields Value.Distinct value) :
    Yields Value.Distinct (arrayRest value) := by
  have hgapped : Yields Value.Distinct (gapped value) := by
    intro s v r h
    unfold gapped at h
    split at h
    · cases h
    split at h
    · cases h
    · next hread =>
      obtain ⟨_, -, heq⟩ := Option.map_eq_some_iff.mp h
      cases heq
      exact hvalue _ _ _ hread
  intro s v r h
  have hitems := forall_separated hgapped ',' s
  unfold arrayRest at h
  split at h
  next hread =>
  rw [hread] at hitems
  -- whether a comma is left in front of the bracket makes no difference to the items
  split at h
  all_goals
    dsimp only at h
    split at h
    · cases h
      exact .array hitems
    · cases h

theorem yields_inlineTableRest {value : Reader Value} (hvalue : Yields Value.Distinct value) :
    Yields Value.Distinct (inlineTableRest value) := by
  have hassignment : Yields (fun a : List String × Value => a.2.Distinct)
      (inlineAssignment value) := by
    intro s a r h
    unfold inlineAssignment at h
    split at h
    · obtain ⟨result, hread, heq⟩ := Option.map_eq_some_iff.mp h
      cases heq
      exact hvalue _ _ _ hread
    · cases h
  intro s v r h
  have hassignments := forall_separated hassignment ',' s
  unfold inlineTableRest at h
  split at h
  next hread =>
  rw [hread] at hassignments
  split at h
  · exact inlineTable_distinct hassignments (of_map_pair h)
  · cases h

/-- **Every value that is read is distinct**, by induction on how deep it may nest. -/
theorem yields_valueWithin (depth : Nat) : Yields Value.Distinct (valueWithin depth) := by
  induction depth with
  | zero =>
    intro s v r h
    rw [valueWithin] at h
    exact .scalar (yields_scalar s v r h)
  | succ depth ih =>
    intro s v r h
    unfold valueWithin at h
    split at h
    · exact yields_arrayRest ih _ v r h
    · exact yields_inlineTableRest ih _ v r h
    · exact .scalar (yields_scalar s v r h)

/-! ## Statements -/

/-- What a statement assigns is distinct. -/
def Statement.Distinct : Statement → Prop
  | .assign _ v => v.Distinct
  | _ => True

theorem headerRest_distinct : Yields Statement.Distinct headerRest := by
  intro s st r h
  unfold headerRest at h
  split at h
  all_goals
    split at h
    · obtain ⟨_, -, heq⟩ := Option.map_eq_some_iff.mp h
      cases heq
      trivial
    · cases h

theorem assignment_distinct : Yields Statement.Distinct assignment := by
  intro s st r h
  unfold assignment at h
  split at h
  · split at h
    · next hread =>
      obtain ⟨_, -, heq⟩ := Option.map_eq_some_iff.mp h
      cases heq
      exact yields_valueWithin _ _ _ _ hread
    · cases h
  · cases h

theorem line_distinct : Yields (∀ st ∈ ·, Statement.Distinct st) line := by
  intro s sts r h
  unfold line at h
  split at h
  · obtain ⟨⟨st, rest⟩, hread, heq⟩ := Option.map_eq_some_iff.mp h
    cases heq
    exact List.forall_mem_singleton.mpr (headerRest_distinct _ _ _ hread)
  · obtain ⟨_, -, heq⟩ := Option.map_eq_some_iff.mp h
    cases heq
    exact nofun
  · cases h
    exact nofun
  · cases h
    exact nofun
  · obtain ⟨⟨st, rest⟩, hread, heq⟩ := Option.map_eq_some_iff.mp h
    cases heq
    exact List.forall_mem_singleton.mpr (assignment_distinct _ _ _ hread)

theorem lines_distinct {s : List Char} {ls : List (List Char × List Statement)}
    (h : lines s = some ls) : ∀ l ∈ ls, ∀ st ∈ l.2, st.Distinct := by
  induction s using lines.induct generalizing ls with
  | case1 s hend =>
    rw [lines, hend] at h
    cases h
    exact nofun
  | case2 s c r hstart hnone =>
    rw [lines, hstart] at h
    simp only [hnone] at h
    cases h
  | case3 s c r hstart sts rest hline hshorter ih =>
    rw [lines, hstart] at h
    simp only [hline, dif_pos hshorter] at h
    obtain ⟨others, hothers, rfl⟩ := Option.map_eq_some_iff.mp h
    exact List.forall_mem_cons.mpr ⟨line_distinct _ _ _ hline, ih hothers⟩
  | case4 s c r hstart sts rest hline hshorter =>
    rw [lines, hstart] at h
    simp only [hline, dif_neg hshorter] at h
    cases h

theorem statements_distinct {s : List Char} {sts : List Statement} (h : statements s = some sts) :
    ∀ st ∈ sts, st.Distinct := by
  obtain ⟨ls, hls, rfl⟩ := Option.map_eq_some_iff.mp h
  intro st hst
  obtain ⟨l, hl, hst⟩ := List.mem_flatMap.mp hst
  exact lines_distinct hls l hl st hst

/-! ## Documents -/

theorem distinct_table_iff {origin : Origin} {es : Nodes} :
    (Node.table origin es).Distinct ↔ Tidy Node.Distinct es := by
  constructor
  · intro h
    cases h with
    | table hnames hvalues => exact ⟨hnames, hvalues⟩
  · exact fun h => .table h.names h.values

theorem distinct_elements_iff {tables : List Nodes} :
    (Node.elements tables).Distinct ↔ ∀ t ∈ tables, Tidy Node.Distinct t := by
  constructor
  · intro h
    cases h with
    | elements hnames hvalues => exact fun t ht => ⟨hnames t ht, hvalues t ht⟩
  · exact fun h => .elements (fun t ht => (h t ht).names) (fun t ht => (h t ht).values)

/-- The last element of an array of tables. -/
theorem tidy_getLast {tables : List Nodes} (h : (Node.elements tables).Distinct) :
    Tidy Node.Distinct (tables.getLast?.getD []) := by
  cases hlast : tables.getLast? with
  | none => exact .nil
  | some t => exact distinct_elements_iff.mp h t (List.mem_of_getLast? hlast)

theorem elements_replaceLast {tables : List Nodes} (h : (Node.elements tables).Distinct)
    {t : Nodes} (ht : Tidy Node.Distinct t) : (Node.elements (replaceLast tables t)).Distinct := by
  rw [distinct_elements_iff] at h ⊢
  refine List.forall_mem_append.mpr ⟨fun t' ht' => ?_, List.forall_mem_singleton.mpr ht⟩
  exact h t' ((List.dropLast_sublist tables).subset ht')

/-- A change of one table of a document leaves the others as they are. -/
theorem changeAt_tidy {change : Nodes → Option Nodes}
    (hchange : ∀ es es', Tidy Node.Distinct es → change es = some es' → Tidy Node.Distinct es')
    {path : List String} {es es' : Nodes} (h : Tidy Node.Distinct es)
    (hchanged : changeAt change path es = some es') : Tidy Node.Distinct es' := by
  induction path generalizing es es' with
  | nil => exact hchange es es' h hchanged
  | cons name path ih =>
    unfold changeAt at hchanged
    split at hchanged
    · next hnone =>
      obtain ⟨inner, hinner, rfl⟩ := Option.map_eq_some_iff.mp hchanged
      exact h.concat (Tidy.lookup_eq_none_iff.mp hnone) (distinct_table_iff.mpr (ih .nil hinner))
    · cases hchanged
    · next hsome =>
      obtain ⟨inner, hinner, rfl⟩ := Option.map_eq_some_iff.mp hchanged
      have helements := h.of_lookup hsome
      exact h.replace name (elements_replaceLast helements (ih (tidy_getLast helements) hinner))
    · next hsome =>
      obtain ⟨inner, hinner, rfl⟩ := Option.map_eq_some_iff.mp hchanged
      have htable := ih (distinct_table_iff.mp (h.of_lookup hsome)) hinner
      exact h.replace name (distinct_table_iff.mpr htable)

theorem assignAt_tidy {v : Value} (hv : v.Distinct) {path : List String} {es es' : Nodes}
    (h : Tidy Node.Distinct es) (hassigned : assignAt v path es = some es') :
    Tidy Node.Distinct es' := by
  induction path, es using assignAt.induct generalizing es' with
  | case1 => cases hassigned
  | case2 name es =>
    rw [assignAt, addEntry] at hassigned
    split at hassigned
    · next hnone =>
      cases hassigned
      exact h.concat (Tidy.lookup_eq_none_iff.mp hnone) (.value hv)
    · cases hassigned
  | case3 name path es hpath hnone ih =>
    simp only [assignAt, hnone, Option.map_eq_some_iff] at hassigned
    obtain ⟨inner, hinner, rfl⟩ := hassigned
    exact h.concat (Tidy.lookup_eq_none_iff.mp hnone) (distinct_table_iff.mpr (ih .nil hinner))
  | case4 name path es hpath v' hsome =>
    simp only [assignAt, hsome, reduceCtorEq] at hassigned
  | case5 name path es hpath ts hsome hshort =>
    simp only [assignAt, hsome, if_pos hshort, reduceCtorEq] at hassigned
  | case6 name path es hpath ts hsome hlong ih =>
    simp only [assignAt, hsome, if_neg hlong, Option.map_eq_some_iff] at hassigned
    obtain ⟨inner, hinner, rfl⟩ := hassigned
    have helements := h.of_lookup hsome
    exact h.replace name (elements_replaceLast helements (ih (tidy_getLast helements) hinner))
  | case7 name path es hpath entries hsome =>
    simp only [assignAt, hsome, reduceCtorEq] at hassigned
  | case8 name path es hpath inner hsome hshort =>
    simp only [assignAt, hsome, if_pos hshort, reduceCtorEq] at hassigned
  | case9 name path es hpath inner hsome hlong ih =>
    simp only [assignAt, hsome, if_neg hlong, Option.map_eq_some_iff] at hassigned
    obtain ⟨inner', hinner', rfl⟩ := hassigned
    have htable := ih (distinct_table_iff.mp (h.of_lookup hsome)) hinner'
    exact h.replace name (distinct_table_iff.mpr htable)
  | case10 name path es hpath inner hsome ih =>
    simp only [assignAt, hsome, Option.map_eq_some_iff] at hassigned
    obtain ⟨inner', hinner', rfl⟩ := hassigned
    have htable := ih (distinct_table_iff.mp (h.of_lookup hsome)) hinner'
    exact h.replace name (distinct_table_iff.mpr htable)

theorem openTable_tidy {name : String} {es es' : Nodes} (h : Tidy Node.Distinct es)
    (hopened : openTable name es = some es') : Tidy Node.Distinct es' := by
  obtain ⟨inner, hinner, rfl⟩ := Option.map_eq_some_iff.mp hopened
  have hinner' : Tidy Node.Distinct inner := by
    unfold takeImplied at hinner
    split at hinner
    · cases hinner
      exact .nil
    · next hsome =>
      cases hinner
      exact distinct_table_iff.mp (h.of_lookup hsome)
    · cases hinner
  refine (h.filter _).concat ?_ (distinct_table_iff.mpr hinner')
  intro hmem
  obtain ⟨e, he, hname⟩ := List.mem_map.mp hmem
  exact of_decide_eq_true (List.mem_filter.mp he).2 hname

theorem openElement_tidy {name : String} {es es' : Nodes} (h : Tidy Node.Distinct es)
    (hopened : openElement name es = some es') : Tidy Node.Distinct es' := by
  unfold openElement at hopened
  split at hopened
  · next hnone =>
    cases hopened
    refine h.concat (Tidy.lookup_eq_none_iff.mp hnone) (distinct_elements_iff.mpr ?_)
    exact List.forall_mem_singleton.mpr .nil
  · next hsome =>
    cases hopened
    have helements := distinct_elements_iff.mp (h.of_lookup hsome)
    refine h.replace name (distinct_elements_iff.mpr ?_)
    exact List.forall_mem_append.mpr ⟨helements, List.forall_mem_singleton.mpr .nil⟩
  · cases hopened

theorem add_tidy {d d' : Draft} {st : Statement} (hst : st.Distinct)
    (h : Tidy Node.Distinct d.nodes) (hadd : d.add st = some d') :
    Tidy Node.Distinct d'.nodes := by
  have hparent {change : String → Nodes → Option Nodes} {path : List String} {es : Nodes}
      (hchange : ∀ name es es', Tidy Node.Distinct es → change name es = some es' →
        Tidy Node.Distinct es')
      (hchanged : changeParent change path d.nodes = some es) : Tidy Node.Distinct es := by
    unfold changeParent at hchanged
    split at hchanged
    · cases hchanged
    · exact changeAt_tidy (hchange _) h hchanged
  cases st with
  | table path =>
    obtain ⟨nodes, hnodes, rfl⟩ := Option.map_eq_some_iff.mp hadd
    exact hparent (fun _ _ _ => openTable_tidy) hnodes
  | element path =>
    obtain ⟨nodes, hnodes, rfl⟩ := Option.map_eq_some_iff.mp hadd
    exact hparent (fun _ _ _ => openElement_tidy) hnodes
  | assign path v =>
    obtain ⟨nodes, hnodes, rfl⟩ := Option.map_eq_some_iff.mp hadd
    exact changeAt_tidy (fun _ _ => assignAt_tidy hst) h hnodes

theorem nodesValue_eq_map (es : Nodes) : nodesValue es = es.map fun e => (e.1, e.2.toValue) := by
  induction es with
  | nil => rfl
  | cons e es ih => rw [nodesValue, ih, List.map_cons]

theorem rowsValue_eq_map (ts : List Nodes) : rowsValue ts = ts.map nodesValue := by
  induction ts with
  | nil => rfl
  | cons t ts ih => rw [rowsValue, ih, List.map_cons]

theorem Node.Distinct.toValue {node : Node} (h : node.Distinct) : node.toValue.Distinct := by
  induction h with
  | value h => exact h
  | @table origin entries hnames h ih =>
    have htidy : Tidy Value.Distinct (nodesValue entries) := by
      rw [nodesValue_eq_map]
      exact (Tidy.mk hnames h).map ih
    exact .table htidy.names htidy.values
  | @elements tables hnames h ih =>
    have htidy : ∀ t ∈ rowsValue tables, Tidy Value.Distinct t := by
      intro t ht
      rw [rowsValue_eq_map, List.mem_map] at ht
      obtain ⟨t, ht, rfl⟩ := ht
      rw [nodesValue_eq_map]
      exact (Tidy.mk (hnames t ht) (h t ht)).map (ih t ht)
    exact .rows (fun t ht => (htidy t ht).names) (fun t ht => (htidy t ht).values)

/-- **In a document that is read no table has a name twice.** -/
theorem tidy_of_read? {s : String} {entries : Entries} (h : read? s = some entries) :
    Tidy Value.Distinct entries := by
  obtain ⟨d, hd, rfl⟩ := Option.map_eq_some_iff.mp h
  obtain ⟨sts, hsts, hd⟩ := Option.bind_eq_some_iff.mp hd
  have htidy : Tidy Node.Distinct d.nodes :=
    foldlM_preserves (fun st hst d d' hd hadd => add_tidy (statements_distinct hsts st hst) hd hadd)
      .nil hd
  rw [nodesValue_eq_map]
  exact htidy.map fun e he => (htidy.values e he).toValue

end VmSupport.Toml
