import Mathlib.Data.List.Forall2
import VmSupport.Proofs.Log.DecidingDirective
import VmSupport.Proofs.Log.DirectiveParts
import VmSupport.Proofs.Text.CommaParts

/-!
# The filter that texts ask for

A filter is put together from three things: the text of a variable, a level, and a text of further
directives. They are described here as they are written: a directive in plain writing is a path, an
equals sign and the name of a threshold (`Plain`). The variable may be absent, hold nothing that can
be read as a filter, or hold directives in plain writing, one behind the other (`Base`). The further
text is cut at its commas, and each piece is a directive in plain writing with blanks around it, or
noise (`Pieces`).

**The law** (`effective_filter`): the filter shows what the directives of the base and then the
further ones ask for, in the sense of `Shows`. Noise has no effect, nor has the level where the
variable can be read; and without the variable and further directives a stricter level shows what a
looser one does, less what it does not allow.

**Where it fails.** A variable that cannot be read is to be passed over, but reading one may fault,
and then there is no filter at all: a blank of more than one byte in front of a piece with an equals
sign or a bracket is enough (`not_buildsAs_indented`). Nothing else makes the law fail.

An event also has fields, and a directive may ask for some. What is in plain writing does not, so the
fields of an event have no part in the law.
-/

namespace VmSupport.Log

open Text (byteLength isBlank inRanges trimChars)

/-! ## Plain writing -/

/-- A path: it begins like one, and has none of the signs that end a target. -/
structure IsPath (cs : List Char) : Prop where
  begins : ∃ c rest, cs = c :: rest ∧ Directive.isFirst c = true
  signless : ∀ c ∈ cs, c ≠ '=' ∧ c ≠ '[' ∧ c ≠ ','

/-- The name of a threshold, in any case of its letters. -/
def IsName (cs : List Char) (t : Threshold) : Prop :=
  ∃ n, (n, String.ofList (cs.map Char.toLower), t) ∈ Threshold.known

/-- **A directive in plain writing**: a path, an equals sign and the name of a threshold. -/
inductive Plain : List Char → Directive → Prop
  | pair {path name : List Char} {t : Threshold} (hpath : IsPath path) (hname : IsName name t) :
    Plain (path ++ '=' :: name) { target := some (String.ofList path), threshold := t }

section

variable (patterns : Patterns)

/-- **Pieces and the directives in them**: each piece is a directive in plain writing between blanks,
or noise, which is what is blank or no directive. -/
inductive Pieces : List (List Char) → List Directive → Prop
  | nil : Pieces [] []
  | plain {front cs back : List Char} {d : Directive} {rest : List (List Char)}
    {ds : List Directive} (hfront : ∀ c ∈ front, isBlank c = true)
    (hback : ∀ c ∈ back, isBlank c = true) (hplain : Plain cs d) (h : Pieces rest ds) :
    Pieces ((front ++ cs ++ back) :: rest) (d :: ds)
  | noise {cs : List Char} {rest : List (List Char)} {ds : List Directive}
    (hnoise : trimChars cs = [] ∨ Directive.read? patterns (trimChars cs) = none)
    (h : Pieces rest ds) :
    Pieces (cs :: rest) ds

/-- The pieces of a text between its commas. -/
def cut (s : String) : List (List Char) :=
  s.toList.splitOn ','

/-- The directives in a text of further directives, or none where there is no text. -/
def Further (further : Option String) (ds : List Directive) : Prop :=
  Pieces patterns (further.elim [] cut) ds

/-- **The directives that come first**: those of the variable, where empty pieces are left out, or
the one for the level if the variable is absent or cannot be read. -/
inductive Base : Option String → Level → List Directive → Prop
  | absent {l : Level} : Base none l [{ target := some Filter.libraryTarget, threshold := .level l }]
  | unreadable {text : String} {l : Level}
    (hnot : ∀ f, Filter.read patterns text ≠ .ok (some f)) :
    Base (some text) l [{ target := some Filter.libraryTarget, threshold := .level l }]
  | plain {text : String} {l : Level} {ds : List Directive}
    (hplain : List.Forall₂ Plain ((cut text).filter (!·.isEmpty)) ds) : Base (some text) l ds

end

variable {patterns : Patterns}

/-! ## Characters -/

/-- Two tables have no character in common if their ranges do not meet. -/
theorem inRanges_eq_false {ranges other : List (Nat × Nat)} {c : Char}
    (hapart : ∀ r ∈ ranges, ∀ r' ∈ other, r.2 < r'.1 ∨ r'.2 < r.1) (h : inRanges ranges c = true) :
    inRanges other c = false := by
  rw [Bool.eq_false_iff]
  intro h'
  obtain ⟨r, hr, hlow, hhigh⟩ := Text.inRanges_iff.mp h
  obtain ⟨r', hr', hlow', hhigh'⟩ := Text.inRanges_iff.mp h'
  have := hapart r hr r' hr'
  omega

/-- A directive does not begin with a blank. -/
theorem isBlank_of_isFirst {c : Char} (h : Directive.isFirst c = true) : isBlank c = false := by
  simp only [Directive.isFirst, Bool.or_eq_true, decide_eq_true_eq] at h
  obtain ((h | rfl) | rfl) | rfl := h
  · exact inRanges_eq_false (by decide +kernel) h
  · decide
  · decide
  · decide

/-- A letter is a small or a capital one. -/
theorem isAlpha_iff {c : Char} :
    c.isAlpha = true ↔ 65 ≤ c.toNat ∧ c.toNat ≤ 90 ∨ 97 ≤ c.toNat ∧ c.toNat ≤ 122 := by
  unfold Char.isAlpha Char.isUpper Char.isLower
  simp only [Bool.or_eq_true, Bool.and_eq_true, decide_eq_true_eq, ge_iff_le,
    UInt32.le_iff_toNat_le]
  rfl

/-- What becomes a small letter is a letter. -/
theorem isAlpha_of_isLower_toLower {c : Char} (h : c.toLower.isLower = true) :
    c.isAlpha = true := by
  unfold Char.toLower at h
  unfold Char.isAlpha
  rw [Bool.or_eq_true]
  split at h
  · next hupper =>
    refine .inl ?_
    unfold Char.isUpper
    simpa only [Bool.and_eq_true, decide_eq_true_eq] using hupper
  · exact .inr h

theorem isBlank_of_isAlpha {c : Char} (h : c.isAlpha = true) : isBlank c = false := by
  have hrange : inRanges [(65, 90), (97, 122)] c = true := by
    rw [Text.inRanges_iff]
    obtain h | h := isAlpha_iff.mp h
    · exact ⟨(65, 90), List.mem_cons_self, h⟩
    · exact ⟨(97, 122), List.mem_cons_of_mem _ List.mem_cons_self, h⟩
  exact inRanges_eq_false (by decide) hrange

/-- A word of letters is no number. -/
theorem readWord?_of_isAlpha {cs : List Char} (hne : cs ≠ []) (h : ∀ c ∈ cs, c.isAlpha = true) :
    Decimal.readWord? cs = none := by
  cases cs with
  | nil => exact absurd rfl hne
  | cons c rest =>
    have hc := isAlpha_iff.mp (h c List.mem_cons_self)
    have hplus : Decimal.dropPlus (c :: rest) = c :: rest := by
      unfold Decimal.dropPlus
      split
      · next heq =>
        cases heq
        exact absurd hc (by decide)
      · rfl
    have hdigit : c.isDigit = false := by
      rw [Bool.eq_false_iff]
      intro hdigit
      simp only [Char.isDigit, Bool.and_eq_true, decide_eq_true_eq, UInt32.le_iff_toNat_le] at hdigit
      have : c.toNat ≤ 57 := hdigit.2
      omega
    simp only [Decimal.readWord?, hplus, List.all_cons, hdigit, Bool.false_and, Bool.false_eq_true,
      false_and, and_false, if_false]

/-- The name of a threshold is made of letters. -/
theorem IsName.letters {cs : List Char} {t : Threshold} (h : IsName cs t) :
    cs ≠ [] ∧ ∀ c ∈ cs, c.isAlpha = true := by
  have hknown : Threshold.known.all (fun k =>
      !k.2.1.toList.isEmpty && k.2.1.toList.all Char.isLower) = true := by
    decide +kernel
  obtain ⟨n, hmem⟩ := h
  have hname := List.all_eq_true.mp hknown _ hmem
  rw [String.toList_ofList, Bool.and_eq_true, List.all_eq_true] at hname
  obtain ⟨hne, hlower⟩ := hname
  refine ⟨?_, fun c hc => isAlpha_of_isLower_toLower (hlower _ (List.mem_map_of_mem hc))⟩
  rintro rfl
  cases hne

/-! ## Reading -/

/-- The name of a threshold is read as that threshold. -/
theorem IsName.read? {cs : List Char} {t : Threshold} (h : IsName cs t) :
    Threshold.read? cs = some t := by
  have hknown : ∀ k ∈ Threshold.known,
      (Threshold.known.find? (·.2.1 == k.2.1)).map (·.2.2) = some k.2.2 := by
    decide
  rw [Threshold.read?, readWord?_of_isAlpha h.letters.1 h.letters.2]
  obtain ⟨n, hmem⟩ := h
  exact hknown _ hmem

/-- It has no blank at its ends. -/
theorem Plain.ends {cs : List Char} {d : Directive} (h : Plain cs d) :
    cs ≠ [] ∧ (∀ c ∈ cs.head?, isBlank c = false) ∧ ∀ c ∈ cs.getLast?, isBlank c = false := by
  obtain ⟨⟨⟨c, rest, rfl, hfirst⟩, hsignless⟩, hname⟩ := h
  next name t =>
  refine ⟨List.cons_ne_nil _ _, ?_, ?_⟩
  · rintro _ ⟨⟩
    exact isBlank_of_isFirst hfirst
  · obtain ⟨hne, hletters⟩ := hname.letters
    have hsplit : c :: rest ++ '=' :: name = c :: rest ++ ['='] ++ name :=
      (List.append_assoc _ ['='] name).symm
    intro last hlast
    rw [hsplit, List.getLast?_append_of_ne_nil _ hne] at hlast
    exact isBlank_of_isAlpha (hletters last (List.mem_of_getLast? hlast))

/-- So blanks around it do no harm. -/
theorem Plain.trimChars_append {front cs back : List Char} {d : Directive} (h : Plain cs d)
    (hfront : ∀ c ∈ front, isBlank c = true) (hback : ∀ c ∈ back, isBlank c = true) :
    trimChars (front ++ cs ++ back) = cs :=
  Text.trimChars_append hfront hback h.ends.2.1 h.ends.2.2

/-- Reading goes on from where it has come to. -/
theorem stepAll_append (piece : List Char) (index : Nat) (d : Directive.Draft)
    (cs more : List Char) :
    Directive.stepAll patterns piece index d (cs ++ more) =
      (Directive.stepAll patterns piece index d cs).bind fun d =>
        Directive.stepAll patterns piece (index + byteLength cs) d more := by
  induction cs generalizing index d with
  | nil => rfl
  | cons c cs ih =>
    rw [List.cons_append, Directive.stepAll, Directive.stepAll]
    cases Directive.step patterns piece index c d with
    | error r => rfl
    | ok d =>
      show Directive.stepAll patterns piece _ d (cs ++ more) = _
      rw [ih, byteLength, ← Nat.add_assoc]
      rfl

/-- Nothing but a sign ends a target. -/
theorem stepAll_word {cs : List Char} (h : ∀ c ∈ cs, c ≠ '=' ∧ c ≠ '[' ∧ c ≠ ',')
    (piece : List Char) (index : Nat) (d : Directive) :
    Directive.stepAll patterns piece index ⟨.word, d⟩ cs = .ok ⟨.word, d⟩ := by
  induction cs generalizing index with
  | nil => rfl
  | cons c cs ih =>
    obtain ⟨⟨heq, hspan, hcomma⟩, hrest⟩ := List.forall_mem_cons.mp h
    rw [Directive.stepAll, Directive.step, if_neg heq, if_neg hspan, if_neg hcomma]
    exact ih hrest _

/-- Nothing but a comma ends a level. -/
theorem stepAll_level {cs : List Char} (h : ∀ c ∈ cs, c ≠ ',') (piece : List Char)
    (index front : Nat) (d : Directive) :
    Directive.stepAll patterns piece index ⟨.level front, d⟩ cs = .ok ⟨.level front, d⟩ := by
  induction cs generalizing index with
  | nil => rfl
  | cons c cs ih =>
    obtain ⟨hcomma, hrest⟩ := List.forall_mem_cons.mp h
    rw [Directive.stepAll, Directive.step, if_neg hcomma]
    exact ih hrest _

/-- **A directive in plain writing** is read as what it says. -/
theorem Plain.read {cs : List Char} {d : Directive} (h : Plain cs d) :
    Directive.read patterns cs = .ok d := by
  have htrim : trimChars cs = cs := by
    have hbetween := h.trimChars_append (List.forall_mem_nil _) (List.forall_mem_nil _)
    rwa [List.append_nil, List.nil_append] at hbetween
  obtain ⟨hpath, hname⟩ := h
  next path name t =>
  have hsplit : path ++ '=' :: name = path ++ ['='] ++ name :=
    (List.append_assoc path ['='] name).symm
  have hword : Directive.stepAll patterns (path ++ '=' :: name) 0 ⟨.start, {}⟩ path =
      .ok ⟨.word, {}⟩ := by
    obtain ⟨⟨c, rest, rfl, hfirst⟩, hsignless⟩ := hpath
    obtain ⟨⟨-, hspan, -⟩, hrest⟩ := List.forall_mem_cons.mp hsignless
    rw [Directive.stepAll, Directive.step, if_neg hspan, if_pos hfirst]
    exact stepAll_word hrest _ _ _
  have htarget : Directive.slice 0 (byteLength path) (path ++ '=' :: name) = .ok path := by
    have hslice := Text.sliceBytes_append [] path ('=' :: name)
    rw [List.nil_append] at hslice
    rw [Directive.slice, show 0 = byteLength [] from rfl, hslice]
    rfl
  have hlevel : Directive.stepAll patterns (path ++ '=' :: name) (byteLength path + 1)
      ⟨.level (byteLength path + 1), { target := some (String.ofList path) }⟩ name =
      .ok ⟨.level (byteLength path + 1), { target := some (String.ofList path) }⟩ := by
    refine stepAll_level (fun c hc hcomma => ?_) _ _ _ _
    have halpha := hname.letters.2 c hc
    rw [hcomma] at halpha
    cases halpha
  have hdrop : Text.dropBytes (byteLength path + 1) (path ++ '=' :: name) = .ok name := by
    have happend := Text.dropBytes_append (path ++ ['=']) name
    rwa [← hsplit, Text.byteLength_append] at happend
  have hthreshold : Threshold.readOrAll? name = some t := by
    rw [Threshold.readOrAll?, if_neg (by simpa using hname.letters.1), hname.read?]
  have hall : Directive.stepAll patterns (path ++ '=' :: name) 0 ⟨.start, {}⟩ (path ++ '=' :: name) =
      .ok ⟨.level (byteLength path + 1), { target := some (String.ofList path) }⟩ := by
    rw [stepAll_append, hword]
    show Directive.stepAll _ _ (0 + byteLength path) ⟨.word, {}⟩ ('=' :: name) = _
    rw [Nat.zero_add, Directive.stepAll, Directive.step, if_pos rfl, Directive.readTarget, htarget]
    exact hlevel
  have hfinish : Directive.finish (path ++ '=' :: name)
      ⟨.level (byteLength path + 1), { target := some (String.ofList path) }⟩ =
      .ok { target := some (String.ofList path), threshold := t } := by
    rw [Directive.finish, hdrop]
    show (Directive.found (Threshold.readOrAll? name)).map _ = _
    rw [hthreshold]
    rfl
  rw [Directive.read, htrim, hall]
  exact hfinish

theorem Plain.read? {cs : List Char} {d : Directive} (h : Plain cs d) :
    Directive.read? patterns cs = some d := by
  rw [Directive.read?, h.read]
  rfl

theorem Plain.onlyTarget {cs : List Char} {d : Directive} (h : Plain cs d) : d.OnlyTarget := by
  cases h
  exact ⟨rfl, rfl, rfl⟩

theorem readAll_plain {pieces : List (List Char)} {ds : List Directive}
    (h : List.Forall₂ Plain pieces ds) : Filter.readAll patterns pieces = .ok (some ds) := by
  induction h with
  | nil => rfl
  | cons hplain _ ih => simp only [Filter.readAll, hplain.read, ih, Option.map_some]

/-- A variable that holds directives in plain writing is read as the filter of these. -/
theorem read_plain {text : String} {ds : List Directive}
    (h : List.Forall₂ Plain ((cut text).filter (!·.isEmpty)) ds) :
    Filter.read patterns text = .ok (some (Filter.ofDirectives ds)) := by
  rw [Filter.read, Filter.pieces, Text.map_toList_splitOn_comma, ← cut, readAll_plain h]
  rfl

theorem trimmedPieces_eq (s : String) :
    Filter.trimmedPieces s = ((cut s).map trimChars).filter (!·.isEmpty) := by
  rw [cut, ← Text.map_toList_splitOn_comma, List.map_map]
  rfl

/-- What is added to a filter from pieces are the directives in them. -/
theorem foldl_withPiece {pieces : List (List Char)} {ds : List Directive}
    (h : Pieces patterns pieces ds) (state : Filter × List String) :
    (((pieces.map trimChars).filter (!·.isEmpty)).foldl (Filter.withPiece patterns) state).1 =
      ds.foldl Filter.add state.1 := by
  induction h generalizing state with
  | nil => rfl
  | @plain front cs back d _ _ hfront hback hplain _ ih =>
    have hadd : Filter.withPiece patterns state cs = (state.1.add d, state.2) := by
      rw [Filter.withPiece, hplain.read?]
    rw [List.map_cons, hplain.trimChars_append hfront hback,
      List.filter_cons_of_pos (by simpa using hplain.ends.1), List.foldl_cons, ih, hadd]
    rfl
  | @noise cs _ _ hnoise _ ih =>
    rw [List.map_cons]
    by_cases hblank : trimChars cs = []
    · rw [hblank]
      exact ih state
    · have hnone : (Filter.withPiece patterns state (trimChars cs)).1 = state.1 := by
        rw [Filter.withPiece, hnoise.resolve_left hblank]
      rw [List.filter_cons_of_pos (by simpa using hblank), List.foldl_cons, ih, hnone]

/-- So the further directives come behind those of the base. -/
theorem withPieces_ofDirectives {s : String} {ds : List Directive} (h : Pieces patterns (cut s) ds)
    (base : List Directive) :
    ((Filter.ofDirectives base).withPieces patterns s).1 = Filter.ofDirectives (base ++ ds) := by
  rw [Filter.withPieces, trimmedPieces_eq, foldl_withPiece h, Filter.ofDirectives,
    Filter.ofDirectives, List.foldl_append]

/-! ## Putting a filter together -/

/-- The variable is there, but faults as it is read. -/
def Faulty (patterns : Patterns) (fromVariable : Option String) : Prop :=
  ∃ text fault, fromVariable = some text ∧ Filter.read patterns text = .error fault

/-- **A filter is put together, and it shows what some directives ask for**, whatever fields an event
has. -/
def BuildsAs (patterns : Patterns) (fromVariable : Option String) (l : Level)
    (further : Option String) (ds : List Directive) : Prop :=
  ∃ f refused, Filter.build patterns fromVariable l further = .ok (f, refused) ∧
    ∀ target fields level, f.passes target fields level = true ↔ Shows ds target level

/-- The filter without the pieces that were refused. -/
def built (patterns : Patterns) (fromVariable : Option String) (l : Level)
    (further : Option String) : Except Fault Filter :=
  (Filter.build patterns fromVariable l further).map Prod.fst

variable {v : Option String} {l : Level} {base ds : List Directive} {further : Option String}

theorem onlyTarget_of_plain {pieces : List (List Char)} (h : List.Forall₂ Plain pieces ds) :
    ∀ d ∈ ds, d.OnlyTarget := by
  induction h with
  | nil => exact nofun
  | cons hplain _ ih => exact List.forall_mem_cons.mpr ⟨hplain.onlyTarget, ih⟩

theorem Pieces.onlyTarget {pieces : List (List Char)} (h : Pieces patterns pieces ds) :
    ∀ d ∈ ds, d.OnlyTarget := by
  induction h with
  | nil => exact nofun
  | plain _ _ hplain _ ih => exact List.forall_mem_cons.mpr ⟨hplain.onlyTarget, ih⟩
  | noise _ _ ih => exact ih

theorem Base.onlyTarget (h : Base patterns v l base) : ∀ d ∈ base, d.OnlyTarget := by
  cases h with
  | absent | unreadable _ => exact fun d hd => List.mem_singleton.mp hd ▸ ⟨rfl, rfl, rfl⟩
  | plain hplain => exact onlyTarget_of_plain hplain

/-- The base comes out of the variable and the level, unless the variable faults. -/
theorem Base.read (h : Base patterns v l base) (hsound : ¬ Faulty patterns v) :
    ∃ found, v.elim (.ok none) (Filter.read patterns) = .ok found ∧
      found.getD (Filter.ofLevel l) = Filter.ofDirectives base := by
  cases h with
  | absent => exact ⟨none, rfl, rfl⟩
  | @unreadable text _ hnot =>
    cases hread : Filter.read patterns text with
    | error fault => exact absurd ⟨text, fault, rfl, hread⟩ hsound
    | ok found =>
      cases found with
      | none => exact ⟨none, hread, rfl⟩
      | some f => exact absurd hread (hnot f)
  | plain hplain => exact ⟨_, read_plain hplain, rfl⟩

/-- **What is put together**: the directives of the base with the further ones behind. -/
theorem built_eq (hbase : Base patterns v l base) (hfurther : Further patterns further ds)
    (hsound : ¬ Faulty patterns v) :
    built patterns v l further = .ok (Filter.ofDirectives (base ++ ds)) := by
  obtain ⟨found, hread, hfound⟩ := hbase.read hsound
  rw [built, Filter.build_eq, hread]
  show Except.ok (further.elim (_, []) ((found.getD (Filter.ofLevel l)).withPieces patterns)).1 = _
  rw [hfound]
  cases further with
  | none =>
    cases hfurther
    rw [List.append_nil]
    rfl
  | some s => exact congrArg _ (withPieces_ofDirectives hfurther base)

/-- Where the variable faults, nothing comes out. -/
theorem built_faulty (hfaulty : Faulty patterns v) :
    ∃ fault, ∀ l further, built patterns v l further = .error fault := by
  obtain ⟨text, fault, rfl, hread⟩ := hfaulty
  refine ⟨fault, fun l further => ?_⟩
  rw [built, Filter.build, Option.elim_some, hread]
  rfl

theorem buildsAs_iff : BuildsAs patterns v l further ds ↔
    ∃ f, built patterns v l further = .ok f ∧
      ∀ target fields level, f.passes target fields level = true ↔ Shows ds target level := by
  unfold BuildsAs built
  cases Filter.build patterns v l further with
  | error fault =>
    refine iff_of_false ?_ ?_
    · rintro ⟨f, refused, ⟨⟩, -⟩
    · rintro ⟨f, ⟨⟩, -⟩
  | ok result =>
    constructor
    · rintro ⟨f, refused, ⟨⟩, hpasses⟩
      exact ⟨f, rfl, hpasses⟩
    · rintro ⟨f, ⟨⟩, hpasses⟩
      exact ⟨_, _, rfl, hpasses⟩

/-! ## The law -/

/-- **What is true of a filter** that is put together from these texts and this level. -/
structure Effective (patterns : Patterns) (fromVariable : Option String) (l : Level)
    (further : Option String) (base ds : List Directive) : Prop where
  /-- It shows what the directives of the base and then the further ones ask for, exactly if the
  variable does not fault. -/
  asked : BuildsAs patterns fromVariable l further (base ++ ds) ↔ ¬ Faulty patterns fromVariable
  /-- Any other text with the same further directives will do: noise has no effect, wherever it
  stands, nor have blanks around a directive. -/
  noise : ∀ other, Further patterns other ds →
    built patterns fromVariable l other = built patterns fromVariable l further
  /-- Where the variable can be read, any other level will do. -/
  level : ∀ text f, fromVariable = some text → Filter.read patterns text = .ok (some f) →
    ∀ other, Filter.build patterns fromVariable other further =
      Filter.build patterns fromVariable l further
  /-- Without the variable and further directives, a looser level shows what this one does, and what
  this one does not allow. -/
  looser : fromVariable = none → further = none → ∀ other : Level, other.rank ≤ l.rank →
    ∃ f f', Filter.build patterns fromVariable l further = .ok (f, []) ∧
      Filter.build patterns fromVariable other further = .ok (f', []) ∧
      ∀ target fields level, f.passes target fields level = true ↔
        f'.passes target fields level = true ∧ (Threshold.level l).allows level = true

/-- A stricter level shows less, by what it does not allow. -/
theorem passes_ofLevel_of_le {other : Level} (hle : other.rank ≤ l.rank) (target : String)
    (fields : List String) (level : Level) :
    (Filter.ofLevel l).passes target fields level = true ↔
      (Filter.ofLevel other).passes target fields level = true ∧
        (Threshold.level l).allows level = true := by
  rw [Filter.passes_ofLevel_iff, Filter.passes_ofLevel_iff, and_assoc, and_congr_right_iff]
  intro _
  have hallows : (Threshold.level l).allows level = true ↔ l.rank ≤ level.rank :=
    decide_eq_true_iff
  rw [hallows]
  omega

/-- **A filter is the one that its texts ask for.** -/
theorem effective_filter (hbase : Base patterns v l base) (hfurther : Further patterns further ds) :
    Effective patterns v l further base ds where
  asked := by
    rw [buildsAs_iff]
    constructor
    · rintro ⟨f, hbuilt, -⟩ hfaulty
      obtain ⟨fault, hfault⟩ := built_faulty hfaulty
      cases (hfault l further).symm.trans hbuilt
    · intro hsound
      refine ⟨_, built_eq hbase hfurther hsound, ?_⟩
      exact Filter.passes_ofDirectives_iff
        (List.forall_mem_append.mpr ⟨hbase.onlyTarget, hfurther.onlyTarget⟩)
  noise := by
    intro other hother
    by_cases hfaulty : Faulty patterns v
    · obtain ⟨fault, hfault⟩ := built_faulty hfaulty
      rw [hfault, hfault]
    · rw [built_eq hbase hother hfaulty, built_eq hbase hfurther hfaulty]
  level := by
    rintro text f rfl hread other
    simp only [Filter.build, Option.elim_some, hread]
    rfl
  looser := by
    rintro rfl rfl other hle
    exact ⟨_, _, rfl, rfl, passes_ofLevel_of_le hle⟩

theorem isPath_singleton {c : Char} (hfirst : Directive.isFirst c = true)
    (hsignless : c ≠ '=' ∧ c ≠ '[' ∧ c ≠ ',') : IsPath [c] :=
  ⟨⟨c, [], rfl, hfirst⟩, List.forall_mem_singleton.mpr hsignless⟩

/-- One such case: of the further pieces one is a directive with a blank behind it, one is blank, and
one is no directive. -/
theorem effective_filter_spaced :
    Base (fun _ => true) (some "a=off") .info [{ target := some "a", threshold := .off }] ∧
    Further (fun _ => true) (some "b=INFO ,,?")
      [{ target := some "b", threshold := .level .info }] ∧
    Effective (fun _ => true) (some "a=off") .info (some "b=INFO ,,?")
      [{ target := some "a", threshold := .off }]
      [{ target := some "b", threshold := .level .info }] := by
  have hvariable : (cut "a=off").filter (!·.isEmpty) = [['a'] ++ '=' :: "off".toList] := by
    decide +kernel
  have hpieces : cut "b=INFO ,,?" = [[] ++ (['b'] ++ '=' :: "INFO".toList) ++ [' '], [], ['?']] := by
    decide +kernel
  have hbase : Base (fun _ => true) (some "a=off") .info
      [{ target := some "a", threshold := .off }] := by
    refine .plain ?_
    rw [hvariable]
    exact .cons (.pair (isPath_singleton rfl (by decide)) ⟨0, by decide +kernel⟩) .nil
  have hfurther : Further (fun _ => true) (some "b=INFO ,,?")
      [{ target := some "b", threshold := .level .info }] := by
    rw [Further, Option.elim_some, hpieces]
    refine .plain nofun (List.forall_mem_singleton.mpr rfl)
      (.pair (isPath_singleton rfl (by decide)) ⟨3, by decide +kernel⟩) ?_
    exact .noise (.inl rfl) (.noise (.inr (by decide +kernel)) .nil)
  exact ⟨hbase, hfurther, effective_filter hbase hfurther⟩

/-- A blank of two bytes in front of a piece with an equals sign is cut in the middle. -/
theorem read_indented (patterns : Patterns) :
    Filter.read patterns "\u00a0a=" = .error (.insideCharacter .back 1 '\u00a0' 0) := by
  rw [Filter.read, Filter.pieces, Text.map_toList_splitOn_comma]
  rfl

/-- So this variable cannot be read, and yet is not passed over. -/
theorem not_buildsAs_indented :
    Base (fun _ => true) (some "\u00a0a=") .info
        [{ target := some "vm_native", threshold := .level .info }] ∧
      Further (fun _ => true) none [] ∧
      ¬ BuildsAs (fun _ => true) (some "\u00a0a=") .info none
        [{ target := some "vm_native", threshold := .level .info }] := by
  refine ⟨.unreadable fun f hread => ?_, .nil, ?_⟩
  · cases (read_indented _).symm.trans hread
  · rintro ⟨f, refused, hbuild, -⟩
    rw [Filter.build, Option.elim_some, read_indented] at hbuild
    cases hbuild

end VmSupport.Log
