import VmSupport.Proofs.Toml.Numeral
import VmSupport.Proofs.Toml.QuotedText
import VmSupport.Toml.Statement

/-!
# Written lines read back

A header and an assignment, as a writer puts them on a line, each read as the one statement they
were written for, and the lines behind them read as if they stood alone.

**The law** (`statements_header`, `statements_assign`): a written line in front of a document puts
its statement in front of the document's statements.
-/

namespace VmSupport.Toml

/-! ## Blanks -/

theorem dropWs_of_head {c : Char} (hc : isWs c = false) (s : List Char) :
    dropWs (c :: s) = c :: s :=
  List.dropWhile_cons_of_neg (by rw [hc]; exact Bool.false_ne_true)

/-- What follows a value to the end of its line. -/
theorem lineEnd_lineFeed (r : List Char) : lineEnd ('\n' :: r) = some r :=
  rfl

/-! ## Values -/

/-- **Written values**: characters that read as a value up to the end of their line, and have no
blank in front. -/
structure Writes (cs : List Char) (v : Value) : Prop where
  reads : ∀ r, value (cs ++ '\n' :: r) = some (v, '\n' :: r)
  solid : ∀ r, dropWs (cs ++ '\n' :: r) = cs ++ '\n' :: r

/-- A value that is neither an array nor an inline table. -/
theorem value_of_head {c : Char} (harray : c ≠ '[') (htable : c ≠ '{') (s : List Char) :
    value (c :: s) = scalar (c :: s) := by
  show valueWithin (78 + 1) (c :: s) = _
  rw [valueWithin]
  · exact fun _ h => harray (List.cons.inj h).1
  · exact fun _ h => htable (List.cons.inj h).1

theorem ne_of_isDigit {c d : Char} (hc : c.isDigit = true) (hd : d.isDigit = false) : c ≠ d := by
  rintro rfl
  rw [hc] at hd
  cases hd

theorem scalar_of_isDigit {c : Char} (hc : c.isDigit = true) (s : List Char) :
    scalar (c :: s) = numeric (c :: s) := by
  rw [scalar]
  · exact fun _ h => ne_of_isDigit hc rfl (List.cons.inj h).1
  · exact fun _ h => ne_of_isDigit hc rfl (List.cons.inj h).1
  · exact fun _ h => ne_of_isDigit hc rfl (List.cons.inj h).1
  · exact fun _ h => ne_of_isDigit hc rfl (List.cons.inj h).1

theorem isWs_eq_false {c : Char} (hspace : c ≠ ' ') (htab : c ≠ '\t') : isWs c = false := by
  rw [isWs, decide_eq_false hspace, decide_eq_false htab]
  rfl

theorem writes_digits {n : Nat} (h : n < 2 ^ 63) : Writes (Decimal.digits n) (.integer n) := by
  have hread := numeric_digits h
  have hdigits := fun c => @Decimal.isDigit_of_mem_digits n c
  obtain ⟨c, ds, heq⟩ := List.exists_cons_of_ne_nil (Decimal.digits_ne_nil n)
  rw [heq] at hread hdigits ⊢
  have hc : c.isDigit = true := hdigits c List.mem_cons_self
  refine ⟨fun r => ?_, fun r => ?_⟩
  · rw [List.cons_append, value_of_head (ne_of_isDigit hc rfl) (ne_of_isDigit hc rfl),
      scalar_of_isDigit hc, ← List.cons_append]
    exact hread r
  · exact dropWs_of_head (isWs_eq_false (ne_of_isDigit hc rfl) (ne_of_isDigit hc rfl)) _

theorem writes_true : Writes "true".toList (.boolean true) :=
  ⟨fun _ => rfl, fun _ => rfl⟩

theorem writes_false : Writes "false".toList (.boolean false) :=
  ⟨fun _ => rfl, fun _ => rfl⟩

/-- Every form begins with a quote. -/
theorem writeText_cases (cs : List Char) :
    (∃ s, writeText cs = '"' :: s) ∨ ∃ s, writeText cs = '\x27' :: s := by
  unfold writeText
  cases QuoteForm.choose cs with
  | basic => exact .inl ⟨_, rfl⟩
  | literal => exact .inr ⟨_, rfl⟩
  | multiBasic => exact .inl ⟨_, rfl⟩
  | multiLiteral => exact .inr ⟨_, rfl⟩

theorem writes_text (cs : List Char) : Writes (writeText cs) (.string (String.ofList cs)) := by
  have hread : ∀ r, text (writeText cs ++ '\n' :: r) = some (cs, '\n' :: r) := fun r =>
    text_writeText cs (by simp) (by simp)
  obtain ⟨s, hs⟩ | ⟨s, hs⟩ := writeText_cases cs
  · rw [hs] at hread ⊢
    refine ⟨fun r => ?_, fun r => rfl⟩
    rw [List.cons_append, value_of_head (by decide) (by decide), scalar, ← List.cons_append, hread]
    rfl
  · rw [hs] at hread ⊢
    refine ⟨fun r => ?_, fun r => rfl⟩
    rw [List.cons_append, value_of_head (by decide) (by decide), scalar, ← List.cons_append, hread]
    rfl

/-! ## Names -/

/-- A name that can stand as a key without quotes. -/
structure IsBare (name : String) : Prop where
  ne_nil : name.toList ≠ []
  bare : ∀ c ∈ name.toList, isBareKeyChar c = true

/-- Whether names need no quotes is checked letter by letter. -/
theorem isBare_of_all {names : List String} (h : ∀ name ∈ names,
    name.toList ≠ [] ∧ name.toList.all isBareKeyChar = true) : ∀ name ∈ names, IsBare name :=
  fun name hname => ⟨(h name hname).1, List.all_eq_true.mp (h name hname).2⟩

theorem ne_of_isBareKeyChar {c d : Char} (hc : isBareKeyChar c = true)
    (hd : isBareKeyChar d = false) : c ≠ d := by
  rintro rfl
  rw [hc] at hd
  cases hd

theorem IsBare.exists_cons {name : String} (h : IsBare name) :
    ∃ c cs, name.toList = c :: cs ∧ isBareKeyChar c = true := by
  obtain ⟨c, cs, heq⟩ := List.exists_cons_of_ne_nil h.ne_nil
  exact ⟨c, cs, heq, h.bare c (by rw [heq]; exact List.mem_cons_self)⟩

/-- A bare name is read up to the first character that cannot stand in it. -/
theorem simpleKey_bare {name : String} (h : IsBare name) {d : Char} (hd : isBareKeyChar d = false)
    (s : List Char) : simpleKey (name.toList ++ d :: s) = some (name.toList, d :: s) := by
  have htake : (name.toList ++ d :: s).takeWhile isBareKeyChar = name.toList := by
    rw [List.takeWhile_append_of_pos h.bare, List.takeWhile_cons_of_neg (by rw [hd]; simp),
      List.append_nil]
  have hdrop : (name.toList ++ d :: s).dropWhile isBareKeyChar = d :: s := by
    rw [List.dropWhile_append_of_pos h.bare, List.dropWhile_cons_of_neg (by rw [hd]; simp)]
  obtain ⟨c, cs, heq, hc⟩ := h.exists_cons
  rw [heq] at htake hdrop ⊢
  rw [simpleKey, htake, hdrop]
  · exact fun _ h => ne_of_isBareKeyChar hc rfl (List.cons.inj h).1
  · exact fun _ h => ne_of_isBareKeyChar hc rfl (List.cons.inj h).1

/-- A bare name and the blanks behind it are a path of one name, if no point follows. -/
theorem keyPath_bare {name : String} (h : IsBare name) {d : Char} (hd : isBareKeyChar d = false)
    {s : List Char} {e : Char} {r : List Char} (hdrop : dropWs (d :: s) = e :: r) (he : e ≠ '.') :
    keyPath (name.toList ++ d :: s) = some ([name], e :: r) := by
  have hkey : spacedKey (name.toList ++ d :: s) = some (name, e :: r) := by
    have hsolid : dropWs (name.toList ++ d :: s) = name.toList ++ d :: s := by
      obtain ⟨c, cs, heq, hc⟩ := h.exists_cons
      rw [heq]
      exact dropWs_of_head
        (isWs_eq_false (ne_of_isBareKeyChar hc rfl) (ne_of_isBareKeyChar hc rfl)) _
    rw [spacedKey, hsolid, simpleKey_bare h hd, Option.map_some]
    show some (String.ofList name.toList, dropWs (d :: s)) = _
    rw [hdrop, String.ofList_toList]
  rw [keyPath, separated, hkey]
  dsimp only
  rw [dif_neg (fun hsep => he hsep.1)]
  rfl

/-! ## Lines -/

/-- A line that reads as some statements puts them in front of those of the lines behind it. -/
theorem statements_line {c : Char} {s r : List Char} {sts : List Statement} (hc : isWs c = false)
    (hline : line (c :: s) = some (sts, r)) (hshort : r.length < (c :: s).length) :
    statements (c :: s) = (statements r).map (sts ++ ·) := by
  rw [statements, lines, dropWs_of_head hc]
  dsimp only
  rw [hline]
  dsimp only
  rw [dif_pos hshort, statements, Option.map_map, Option.map_map]
  rfl

theorem statements_nil : statements [] = some [] := by
  rw [statements, lines]
  rfl

theorem statements_blank (r : List Char) : statements ('\n' :: r) = statements r := by
  have hline : line ('\n' :: r) = some ([], r) := by rw [line]
  rw [statements_line rfl hline (Nat.lt_succ_self _)]
  exact Option.map_id_apply

/-- **A written header reads back.** -/
theorem statements_header {name : String} (h : IsBare name) (r : List Char) :
    statements ('[' :: (name.toList ++ ']' :: '\n' :: r)) =
      (statements r).map (Statement.table [name] :: ·) := by
  have hpath : keyPath (name.toList ++ ']' :: '\n' :: r) = some ([name], ']' :: '\n' :: r) :=
    keyPath_bare h rfl rfl (by decide)
  have hrest : headerRest (name.toList ++ ']' :: '\n' :: r) = some (.table [name], r) := by
    obtain ⟨c, cs, heq, hc⟩ := h.exists_cons
    rw [heq] at hpath ⊢
    rw [headerRest, hpath]
    · show (lineEnd ('\n' :: r)).map (Statement.table [name], ·) = _
      rw [lineEnd_lineFeed, Option.map_some]
    · exact fun _ h => ne_of_isBareKeyChar hc rfl (List.cons.inj h).1
  have hline : line ('[' :: (name.toList ++ ']' :: '\n' :: r)) = some ([.table [name]], r) := by
    rw [line, hrest, Option.map_some]
  refine statements_line rfl hline ?_
  simp only [List.length_cons, List.length_append]
  omega

/-- A line that begins with a bare name is an assignment. -/
theorem line_of_isBareKeyChar {c : Char} (hc : isBareKeyChar c = true) (s : List Char) :
    line (c :: s) = (assignment (c :: s)).map fun (st, r) => ([st], r) := by
  rw [line]
  · exact fun _ h => ne_of_isBareKeyChar hc rfl (List.cons.inj h).1
  · exact fun _ h => ne_of_isBareKeyChar hc rfl (List.cons.inj h).1
  · exact fun _ h => ne_of_isBareKeyChar hc rfl (List.cons.inj h).1
  · exact fun _ h => ne_of_isBareKeyChar hc rfl (List.cons.inj h).1

/-- **A written assignment reads back.** -/
theorem statements_assign {name : String} (h : IsBare name) {cs : List Char} {v : Value}
    (hw : Writes cs v) (r : List Char) :
    statements (name.toList ++ ' ' :: '=' :: ' ' :: (cs ++ '\n' :: r)) =
      (statements r).map (Statement.assign [name] v :: ·) := by
  have hpath : keyPath (name.toList ++ ' ' :: '=' :: ' ' :: (cs ++ '\n' :: r)) =
      some ([name], '=' :: ' ' :: (cs ++ '\n' :: r)) := keyPath_bare h rfl rfl (by decide)
  have hassign : assignment (name.toList ++ ' ' :: '=' :: ' ' :: (cs ++ '\n' :: r)) =
      some (.assign [name] v, r) := by
    have hread : value (dropWs (' ' :: (cs ++ '\n' :: r))) = some (v, '\n' :: r) := by
      show value (dropWs (cs ++ '\n' :: r)) = _
      rw [hw.solid, hw.reads]
    simp only [assignment, hpath, hread, lineEnd_lineFeed, Option.map_some]
  obtain ⟨c, ds, heq, hc⟩ := h.exists_cons
  rw [heq, List.cons_append] at hassign ⊢
  have hline : line (c :: (ds ++ ' ' :: '=' :: ' ' :: (cs ++ '\n' :: r))) =
      some ([.assign [name] v], r) := by
    rw [line_of_isBareKeyChar hc, hassign, Option.map_some]
  refine statements_line ?_ hline ?_
  · exact isWs_eq_false (ne_of_isBareKeyChar hc rfl) (ne_of_isBareKeyChar hc rfl)
  · simp only [List.length_cons, List.length_append]
    omega

end VmSupport.Toml
