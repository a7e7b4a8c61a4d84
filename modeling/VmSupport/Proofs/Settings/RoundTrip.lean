import VmSupport.Proofs.Toml.WrittenLine
import VmSupport.Settings.Render
import VmSupport.Settings.Source

/-!
# Written settings read back

**The law** (`render_roundTrip`): settings can be written exactly if their capacity is a signed
word, and reading what was written gives the same settings if they are usable, and otherwise the
complaint that they are not. This holds of every filter, whatever characters it has.

The proof goes down through what a document is made of: its lines say what they were written for
(`statements_renderChars`), the statements make the two tables (`read?_renderChars`), and the tables
decode to the settings (`decode_writtenEntries`).
-/

namespace VmSupport.Settings

open Toml (Statement Entries Value Writes IsBare)

/-! ## Lines -/

/-- What the lines of written settings say. -/
def writtenStatements (s : Settings) : List Statement :=
  [.table ["heap"], .assign ["capacity_bytes"] (.integer s.capacity), .table ["log"],
    .assign ["level"] (.string s.log.level.name), .assign ["format"] (.string s.log.layout.name),
    .assign ["span_events"] (.boolean s.log.spanEvents)] ++
    (s.log.filter.map fun filter => .assign ["filter"] (.string filter)).toList

theorem statements_assignLine {name : String} (h : IsBare name) {cs : List Char} {v : Value}
    (hw : Writes cs v) (r : List Char) :
    Toml.statements (assignLine name cs ++ r) =
      (Toml.statements r).map (Statement.assign [name] v :: ·) := by
  rw [← Toml.statements_assign h hw]
  simp only [assignLine, List.append_assoc, List.cons_append, List.nil_append]

/-- A name that is chosen to stand between double quotes, and has nothing to escape. -/
theorem writes_name {name : String}
    (h : Toml.writeText name.toList = '"' :: name.toList ++ ['"']) :
    Writes ('"' :: name.toList ++ ['"']) (.string name) := by
  have hwrites := Toml.writes_text name.toList
  rwa [h, String.ofList_toList] at hwrites

theorem writes_level (l : Log.Level) : Writes ('"' :: l.name.toList ++ ['"']) (.string l.name) :=
  writes_name (by cases l <;> decide)

theorem writes_layout (l : Log.Layout) : Writes ('"' :: l.name.toList ++ ['"']) (.string l.name) :=
  writes_name (by cases l <;> decide)

theorem writes_truth (b : Bool) :
    Writes (if b then "true".toList else "false".toList) (.boolean b) := by
  cases b with
  | false => exact Toml.writes_false
  | true => exact Toml.writes_true

/-- The names of the tables and of their entries need no quotes. -/
theorem isBare_names : ∀ name ∈ ["heap", "log"] ++ heapNames ++ logNames, IsBare name :=
  Toml.isBare_of_all (by decide)

/-- The line of the filter, if there is one. -/
def filterLine : Option String → List Char
  | none => []
  | some filter => assignLine "filter" (Toml.writeText filter.toList)

theorem statements_filterLine (filter : Option String) :
    Toml.statements (filterLine filter) =
      some (filter.map fun f => Statement.assign ["filter"] (.string f)).toList := by
  cases filter with
  | none => exact Toml.statements_nil
  | some filter =>
    have hline := statements_assignLine (isBare_names "filter" (by decide))
      (Toml.writes_text filter.toList) []
    rwa [List.append_nil, Toml.statements_nil, String.ofList_toList] at hline

theorem append_filterLine (cs : List Char) (filter : Option String) :
    cs ++ filterLine filter = cs ++ match filter with
      | none => []
      | some filter => assignLine "filter" (Toml.writeText filter.toList) := by
  cases filter with
  | none => rfl
  | some filter => rfl

/-- The lines of written settings, one behind the other. -/
theorem renderChars_eq (s : Settings) :
    renderChars s = '[' :: ("heap".toList ++ ']' :: '\n' ::
      (assignLine "capacity_bytes" (Decimal.digits s.capacity) ++ '\n' ::
        '[' :: ("log".toList ++ ']' :: '\n' ::
          (assignLine "level" ('"' :: s.log.level.name.toList ++ ['"']) ++
            (assignLine "format" ('"' :: s.log.layout.name.toList ++ ['"']) ++
              (assignLine "span_events"
                  (if s.log.spanEvents then "true".toList else "false".toList) ++
                filterLine s.log.filter)))))) := by
  have hheap : "[heap]\n".toList = '[' :: ("heap".toList ++ [']', '\n']) := by decide
  have hlog : "\n[log]\n".toList = '\n' :: '[' :: ("log".toList ++ [']', '\n']) := by decide
  unfold renderChars
  rw [hheap, hlog]
  refine (append_filterLine _ s.log.filter).symm.trans ?_
  simp only [Decimal.digits, List.append_assoc, List.cons_append, List.nil_append]

theorem statements_renderChars {s : Settings} (h : s.capacity < writableLimit) :
    Toml.statements (renderChars s) = some (writtenStatements s) := by
  rw [renderChars_eq, Toml.statements_header (isBare_names _ (by decide)),
    statements_assignLine (isBare_names _ (by decide)) (Toml.writes_digits h),
    Toml.statements_blank, Toml.statements_header (isBare_names _ (by decide)),
    statements_assignLine (isBare_names _ (by decide)) (writes_level s.log.level),
    statements_assignLine (isBare_names _ (by decide)) (writes_layout s.log.layout),
    statements_assignLine (isBare_names _ (by decide)) (writes_truth s.log.spanEvents),
    statements_filterLine]
  rfl

/-! ## Tables -/

/-- The table `log` of written settings. -/
def writtenLog (log : LogSettings) : Entries :=
  [("level", .string log.level.name), ("format", .string log.layout.name),
    ("span_events", .boolean log.spanEvents)] ++
    (log.filter.map fun filter => ("filter", Value.string filter)).toList

/-- The tables of written settings. -/
def writtenEntries (s : Settings) : Entries :=
  [("heap", .table [("capacity_bytes", .integer s.capacity)]), ("log", .table (writtenLog s.log))]

theorem read?_renderChars {s : Settings} (h : s.capacity < writableLimit) :
    Toml.read? (String.ofList (renderChars s)) = some (writtenEntries s) := by
  have hmark : Toml.dropMark (renderChars s) = renderChars s := by
    rw [renderChars_eq]
    rfl
  rw [Toml.read?, String.toList_ofList, hmark, statements_renderChars h, Option.bind_some]
  cases hfilter : s.log.filter with
  | none =>
    rw [writtenStatements, writtenEntries, writtenLog, hfilter]
    rfl
  | some filter =>
    rw [writtenStatements, writtenEntries, writtenLog, hfilter]
    rfl

/-! ## Settings -/

theorem decodeLevel_name (l : Log.Level) : decodeLevel (.string l.name) = .ok l := by
  cases l <;> rfl

theorem decodeLayout_name (l : Log.Layout) : decodeLayout (.string l.name) = .ok l := by
  cases l <;> rfl

theorem decodeHeap_written (capacity : Nat) :
    decodeHeap (.table [("capacity_bytes", .integer capacity)]) = .ok capacity :=
  rfl

theorem decodeLog_written (log : LogSettings) : decodeLog (.table (writtenLog log)) = .ok log := by
  obtain ⟨level, layout, spanEvents, filter⟩ := log
  have hlevel : ∀ log : LogSettings, logEntry log ("level", .string level.name) =
      .ok { log with level } := by
    intro log
    rw [logEntry, decodeLevel_name]
    rfl
  have hlayout : ∀ log : LogSettings, logEntry log ("format", .string layout.name) =
      .ok { log with layout } := by
    intro log
    rw [logEntry, decodeLayout_name]
    rfl
  cases filter with
  | none =>
    simp only [decodeLog, writtenLog, tableEntries?, List.map_cons, Option.map_none,
      Option.toList_none, List.append_nil, List.map_nil, List.foldlM_cons, hlevel, hlayout]
    rfl
  | some filter =>
    simp only [decodeLog, writtenLog, tableEntries?, List.map_cons, Option.map_some,
      Option.toList_some, List.cons_append, List.nil_append, List.map_nil, List.foldlM_cons, hlevel,
      hlayout]
    rfl

theorem decode_writtenEntries (s : Settings) : decode (writtenEntries s) = .ok s := by
  have hheap : ∀ s' : Settings,
      documentEntry s' ("heap", .table [("capacity_bytes", .integer s.capacity)]) =
        .ok { s' with capacity := s.capacity } := by
    intro s'
    rw [documentEntry, decodeHeap_written]
    rfl
  have hlog : ∀ s' : Settings, documentEntry s' ("log", .table (writtenLog s.log)) =
      .ok { s' with log := s.log } := by
    intro s'
    rw [documentEntry, decodeLog_written]
    rfl
  simp only [decode, writtenEntries, List.foldlM_cons, hheap, hlog]
  rfl

/-- **Written settings read back.** -/
theorem render_roundTrip (s : Settings) :
    match s.render with
    | .error e => e = .capacityOutOfRange ∧ 2 ^ 63 ≤ s.capacity
    | .ok text => s.capacity < 2 ^ 63 ∧ parse text = match s.rejection? with
      | none => .ok s
      | some r => .error (.rejected r) := by
  by_cases h : s.capacity < writableLimit
  · have hparse : parse (String.ofList (renderChars s)) = s.checked.mapError .rejected := by
      rw [parse, read?_renderChars h]
      dsimp only
      rw [decode_writtenEntries]
    rw [render, if_pos h]
    refine ⟨h, ?_⟩
    rw [hparse, checked]
    cases s.rejection? with
    | none => rfl
    | some r => rfl
  · rw [render, if_neg h]
    exact ⟨rfl, Nat.not_lt.mp h⟩

end VmSupport.Settings
