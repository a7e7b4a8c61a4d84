import Mathlib.Data.List.Basic
import Mathlib.Tactic.Ring
import VmSupport.Proofs.Text.SmallLetters
import VmSupport.Settings.Size

/-!
# What reads as a byte size

**The grammar** (`SizeText`): between two runs of blanks stand a count and, behind blanks of its
own, a unit, which may be missing. A count is a row of digits, however long, that a plus sign may
lead. A unit is one of seven letters: each of the three small ones, its capital, and the Kelvin
sign. The size is the count times the unit, over the natural numbers.

**The law** (`sizeText_decides`): what reads are the texts of the grammar whose size is a machine
word, and they read as that size. So nothing else reads: no sign but a plus, no digits but the ten,
no second unit, no blank inside the count, and no size that is too large.

The reader does not go by this grammar. It cuts off blanks, puts the text into lower case, and then
looks for a unit and cuts off blanks again. That a text becomes a count with a unit only if it was
one is lower case read backwards (`Text.lowerChars_eq_map`): of all the characters that a
lower-case size is made of, the units alone may have come from other characters.
-/

namespace VmSupport.Settings

open Text (isBlank smallChar IsLone IsTrace)

/-! ## The grammar -/

/-- The value of decimal digits: each counts by its place. -/
def placeValue : List Char → Nat
  | [] => 0
  | d :: ds => (d.toNat - '0'.toNat) * 10 ^ ds.length + placeValue ds

/-- Counts: digits, at least one, that a plus sign may lead. -/
inductive Count : List Char → Nat → Prop
  | digits {ds : List Char} (hne : ds ≠ []) (hds : ∀ d ∈ ds, d.isDigit = true) :
    Count ds (placeValue ds)
  | plus {ds : List Char} (hne : ds ≠ []) (hds : ∀ d ∈ ds, d.isDigit = true) :
    Count ('+' :: ds) (placeValue ds)

/-- The units: the letters of each, and the number of bytes in one. -/
def units : List (List Char × Nat) :=
  [(['k', 'K', '\u212A'], 2 ^ 10), (['m', 'M'], 2 ^ 20), (['g', 'G'], 2 ^ 30)]

/-- What may stand behind a count, with the number of bytes that it makes of one. -/
inductive Multiple : List Char → Nat → Prop
  | one : Multiple [] 1
  | unit {gap letters : List Char} {c : Char} {scale : Nat} (hgap : ∀ b ∈ gap, isBlank b = true)
    (hunit : (letters, scale) ∈ units) (hc : c ∈ letters) : Multiple (gap ++ [c]) scale

/-- **The grammar of byte sizes**, each text with its size, which need not be a machine word. -/
inductive SizeText : List Char → Nat → Prop
  | intro {front count multiple back : List Char} {n scale : Nat}
    (hfront : ∀ b ∈ front, isBlank b = true) (hcount : Count count n)
    (hmultiple : Multiple multiple scale) (hback : ∀ b ∈ back, isBlank b = true) :
    SizeText (front ++ (count ++ multiple) ++ back) (n * scale)

/-! ## Counts -/

theorem ofDigitChars_eq (ds : List Char) (n : Nat) :
    Nat.ofDigitChars 10 ds n = n * 10 ^ ds.length + placeValue ds := by
  induction ds generalizing n with
  | nil => rw [Nat.ofDigitChars_nil, placeValue, List.length_nil, Nat.pow_zero, Nat.mul_one,
      Nat.add_zero]
  | cons d ds ih =>
    rw [Nat.ofDigitChars_cons, ih, placeValue, List.length_cons, Nat.pow_succ']
    ring

/-- Reading digits one after another, from the front, gives each its place. -/
theorem value_eq_placeValue (ds : List Char) : Decimal.value ds = placeValue ds := by
  rw [Decimal.value, ofDigitChars_eq, Nat.zero_mul, Nat.zero_add]

theorem dropPlus_of_isDigit {ds : List Char} (h : ∀ d ∈ ds, d.isDigit = true) :
    Decimal.dropPlus ds = ds := by
  unfold Decimal.dropPlus
  split
  · next ds => exact absurd (h '+' List.mem_cons_self) (by decide)
  · rfl

theorem dropPlus_cases (cs : List Char) :
    cs = '+' :: Decimal.dropPlus cs ∨ cs = Decimal.dropPlus cs := by
  unfold Decimal.dropPlus
  split
  · exact .inl rfl
  · exact .inr rfl

theorem count_iff {cs : List Char} {n : Nat} :
    Count cs n ↔ Decimal.dropPlus cs ≠ [] ∧ (∀ d ∈ Decimal.dropPlus cs, d.isDigit = true) ∧
      placeValue (Decimal.dropPlus cs) = n := by
  constructor
  · rintro (⟨hne, hds⟩ | ⟨hne, hds⟩)
    · rw [dropPlus_of_isDigit hds]
      exact ⟨hne, hds, rfl⟩
    · exact ⟨hne, hds, rfl⟩
  · rintro ⟨hne, hds, rfl⟩
    obtain hplus | hself := dropPlus_cases cs
    · have hcount := Count.plus hne hds
      rwa [← hplus] at hcount
    · have hcount := Count.digits hne hds
      rwa [← hself] at hcount ⊢

/-- What reads as a machine word are the counts that are one. -/
theorem readWord?_eq_some_iff {cs : List Char} {n : Nat} :
    Decimal.readWord? cs = some n ↔ Count cs n ∧ n < 2 ^ 64 := by
  have hlimit : Fault.wordLimit = 2 ^ 64 := rfl
  simp only [Decimal.readWord?, value_eq_placeValue, count_iff, hlimit, List.all_eq_true]
  split
  · next h =>
    obtain ⟨hne, hds, hlt⟩ := h
    rw [Option.some.injEq]
    exact ⟨fun hn => ⟨⟨hne, hds, hn⟩, hn ▸ hlt⟩, fun hn => hn.1.2.2⟩
  · next h =>
    constructor
    · intro hn
      cases hn
    · rintro ⟨⟨hne, hds, rfl⟩, hlt⟩
      exact absurd ⟨hne, hds, hlt⟩ h

/-! ## Characters -/

/-- The small letter of a unit. -/
def SizeUnit.letter : SizeUnit → Char
  | kibi => 'k'
  | mebi => 'm'
  | gibi => 'g'

/-- The capital of a unit. -/
def SizeUnit.capital : SizeUnit → Char
  | kibi => 'K'
  | mebi => 'M'
  | gibi => 'G'

/-- All letters of a unit. -/
def SizeUnit.letters : SizeUnit → List Char
  | kibi => ['k', 'K', '\u212A']
  | mebi => ['m', 'M']
  | gibi => ['g', 'G']

theorem ofChar?_eq_some_iff {c : Char} {u : SizeUnit} :
    SizeUnit.ofChar? c = some u ↔ c = u.letter := by
  constructor
  · intro h
    unfold SizeUnit.ofChar? at h
    split at h <;> cases h <;> rfl
  · rintro rfl
    cases u <;> rfl

/-- The characters of counts. -/
def IsMark (c : Char) : Prop :=
  c = '+' ∨ c.isDigit = true

/-- The characters that a size is made of, but for the units. -/
def IsPlain (c : Char) : Prop :=
  isBlank c = true ∨ IsMark c

theorem IsMark.toNat_cases {c : Char} (h : IsMark c) :
    c.toNat = 43 ∨ 48 ≤ c.toNat ∧ c.toNat ≤ 57 := by
  obtain rfl | hdigit := h
  · exact .inl rfl
  · exact .inr (Char.isDigit_iff_toNat.mp hdigit)

theorem IsMark.isBlank_eq_false {c : Char} (h : IsMark c) : isBlank c = false := by
  have hcode := h.toNat_cases
  have hapart : ∀ r ∈ Text.blankRanges, r.2 < 43 ∨ 57 < r.1 := by decide
  refine Bool.eq_false_iff.mpr fun hblank => ?_
  obtain ⟨r, hr, hfirst, hlast⟩ := Text.inRanges_iff.mp hblank
  have hr := hapart r hr
  omega

/-- No other characters become plain ones in lower case. -/
theorem IsPlain.isLone {c : Char} (h : IsPlain c) : IsLone c := by
  obtain hblank | hmark := h
  · exact Text.isLone_of_isBlank hblank
  · have hcode := hmark.toNat_cases
    exact Text.isLone_of_ascii (by omega) (by omega) (by omega) (by omega)

theorem IsPlain.ne {c d : Char} (h : IsPlain c) (hblank : isBlank d = false) (hsign : d ≠ '+')
    (hdigit : d.isDigit = false) : c ≠ d := by
  rintro rfl
  obtain hc | hc | hc := h
  · exact Bool.false_ne_true (hblank.symm.trans hc)
  · exact hsign hc
  · exact Bool.false_ne_true (hdigit.symm.trans hc)

theorem IsPlain.not_isTrace {c : Char} (h : IsPlain c) : ¬ IsTrace c := by
  rintro (hc | hc | hc) <;> exact h.ne (by decide) (by decide) (by decide) hc

theorem IsPlain.ofChar?_eq_none {c : Char} (h : IsPlain c) : SizeUnit.ofChar? c = none := by
  refine Option.eq_none_iff_forall_ne_some.mpr fun u hu => ?_
  refine h.ne ?_ ?_ ?_ (ofChar?_eq_some_iff.mp hu) <;>
  · cases u <;> decide

theorem Count.isMark {cs : List Char} {n : Nat} (h : Count cs n) : ∀ c ∈ cs, IsMark c := by
  obtain ⟨-, hds⟩ | ⟨-, hds⟩ := h
  · exact fun c hc => .inr (hds c hc)
  · intro c hc
    obtain rfl | hc := List.mem_cons.mp hc
    · exact .inl rfl
    · exact .inr (hds c hc)

theorem Count.ne_nil {cs : List Char} {n : Nat} (h : Count cs n) : cs ≠ [] := by
  obtain ⟨hne, -⟩ | ⟨-, -⟩ := h
  · exact hne
  · exact List.cons_ne_nil _ _

/-! ## Units -/

/-- A check of all letters of all units. -/
theorem holds_of_all {p : Char → Nat → Bool}
    (h : (units.all fun unit => unit.1.all fun c => p c unit.2) = true) {letters : List Char}
    {c : Char} {scale : Nat} (hunit : (letters, scale) ∈ units) (hc : c ∈ letters) :
    p c scale = true :=
  List.all_eq_true.mp (List.all_eq_true.mp h _ hunit) c hc

/-- The letters of a unit are read as that unit. -/
theorem ofChar?_smallChar {letters : List Char} {c : Char} {scale : Nat}
    (hunit : (letters, scale) ∈ units) (hc : c ∈ letters) :
    (SizeUnit.ofChar? (smallChar c)).map SizeUnit.bytes = some scale :=
  of_decide_eq_true (holds_of_all
    (p := fun c scale => decide ((SizeUnit.ofChar? (smallChar c)).map SizeUnit.bytes = some scale))
    (by decide +kernel) hunit hc)

/-- They are not blank, and they need no more than the table of letters. -/
theorem letters_spec {letters : List Char} {c : Char} {scale : Nat}
    (hunit : (letters, scale) ∈ units) (hc : c ∈ letters) :
    isBlank c = false ∧ c ≠ 'Σ' ∧ c ≠ 'İ' :=
  of_decide_eq_true (holds_of_all
    (p := fun c _ => decide (isBlank c = false ∧ c ≠ 'Σ' ∧ c ≠ 'İ')) (by decide) hunit hc)

/-- **What becomes the letter of a unit** is a letter of that unit. -/
theorem exists_mem_units {c : Char} {u : SizeUnit} (h : SizeUnit.ofChar? (smallChar c) = some u) :
    ∃ letters, (letters, u.bytes) ∈ units ∧ c ∈ letters := by
  have hfirst : 97 ≤ u.letter.toNat := by cases u <;> decide
  have hlast : u.letter.toNat ≤ 122 := by cases u <;> decide
  rw [ofChar?_eq_some_iff, Text.smallChar_eq_iff hfirst hlast] at h
  refine ⟨u.letters, by cases u <;> decide, ?_⟩
  obtain rfl | hcapital | ⟨rfl, hk⟩ := h
  · cases u <;> decide
  · have hcode : u.letter.toNat = u.capital.toNat + 32 := by cases u <;> decide
    rw [Char.toNat_inj.mp (Nat.add_right_cancel (hcapital.trans hcode))]
    cases u <;> decide
  · cases u with
    | kibi => decide
    | mebi => exact absurd hk (by decide)
    | gibi => exact absurd hk (by decide)

/-- A split takes the unit letter off the end, or finds none there. -/
theorem splitUnit_cases (cs : List Char) :
    (∃ count c u, cs = count ++ [c] ∧ SizeUnit.ofChar? c = some u ∧
      splitUnit cs = (count, u.bytes)) ∨
    splitUnit cs = (cs, 1) := by
  unfold splitUnit
  split
  · next u hu =>
    obtain ⟨c, hc, hunit⟩ := Option.bind_eq_some_iff.mp hu
    obtain ⟨count, rfl⟩ := List.getLast?_eq_some_iff.mp hc
    refine .inl ⟨count, c, u, rfl, hunit, ?_⟩
    rw [List.dropLast_concat]
  · exact .inr rfl

theorem scale?_eq_some_iff {n unit v : Nat} :
    scale? n unit = some v ↔ n * unit = v ∧ v < 2 ^ 64 := by
  have hlimit : Fault.wordLimit = 2 ^ 64 := rfl
  unfold scale?
  split
  · next h =>
    rw [Option.some.injEq]
    exact ⟨fun hv => ⟨hv, hv ▸ h⟩, And.left⟩
  · next h =>
    constructor
    · intro hv
      cases hv
    · rintro ⟨rfl, hlt⟩
      exact absurd hlt h

/-- Once the unit is split off, what is left has to be a count. -/
theorem readSizeChars?_eq_some_iff {cs count : List Char} {unit v : Nat} (hpos : 0 < unit)
    (hsplit : splitUnit (Text.lowerChars (Text.trimChars cs)) = (count, unit)) :
    readSizeChars? cs = some v ↔
      ∃ n, Count (Text.trimChars count) n ∧ n * unit = v ∧ v < 2 ^ 64 := by
  rw [readSizeChars?, hsplit]
  simp only [Option.bind_eq_some_iff, readWord?_eq_some_iff, scale?_eq_some_iff]
  constructor
  · rintro ⟨n, ⟨hcount, -⟩, hv, hlt⟩
    exact ⟨n, hcount, hv, hlt⟩
  · rintro ⟨n, hcount, rfl, hlt⟩
    exact ⟨n, ⟨hcount, (Nat.le_mul_of_pos_right n hpos).trans_lt hlt⟩, rfl, hlt⟩

/-! ## What reads is in the grammar -/

theorem eq_of_map_smallChar {cs ds : List Char} (h : ∀ d ∈ ds, IsPlain d)
    (hmap : cs.map smallChar = ds) : cs = ds :=
  (Text.map_smallChar_eq_iff fun d hd => (h d hd).isLone).mp hmap

/-- A count between blanks consists of plain characters. -/
theorem exists_count {cs : List Char} {n : Nat} (h : Count (Text.trimChars cs) n) :
    ∃ front count back, cs = front ++ count ++ back ∧ Count count n ∧
      (∀ b ∈ front, isBlank b = true) ∧ (∀ b ∈ back, isBlank b = true) ∧ ∀ c ∈ cs, IsPlain c := by
  obtain ⟨front, back, hcs, hfront, hback⟩ := Text.trimmed_append cs
  refine ⟨front, _, back, hcs, h, hfront, hback, ?_⟩
  intro c hc
  rw [hcs, List.mem_append, List.mem_append] at hc
  obtain (hc | hc) | hc := hc
  · exact .inl (hfront c hc)
  · exact .inr (h.isMark c hc)
  · exact .inl (hback c hc)

/-- A text whose lower-case form is a count between blanks is that form itself. -/
theorem lowerChars_eq_self {cs : List Char} (h : ∀ c ∈ Text.lowerChars cs, IsPlain c) :
    Text.lowerChars cs = cs := by
  have hmap := Text.lowerChars_eq_map fun c hc => (h c hc).not_isTrace
  exact (eq_of_map_smallChar h hmap.symm).symm

/-- A text whose lower-case form ends with the letter of a unit, behind plain characters, has those
characters itself, and a letter of that unit behind them. -/
theorem exists_letter {cs count : List Char} {c : Char} {u : SizeUnit}
    (hlower : Text.lowerChars cs = count ++ [c]) (hcount : ∀ d ∈ count, IsPlain d)
    (hu : SizeUnit.ofChar? c = some u) :
    ∃ letters d, cs = count ++ [d] ∧ (letters, u.bytes) ∈ units ∧ d ∈ letters := by
  have htraceless : ∀ d ∈ Text.lowerChars cs, ¬ IsTrace d := by
    intro d hd
    rw [hlower, List.mem_append, List.mem_singleton] at hd
    obtain hd | rfl := hd
    · exact (hcount d hd).not_isTrace
    · rintro (rfl | rfl | rfl) <;> cases hu
  have hmap := (Text.lowerChars_eq_map htraceless).symm.trans hlower
  obtain ⟨count', last, rfl, hcount', hlast⟩ := List.map_eq_append_iff.mp hmap
  obtain ⟨d, rfl, hd⟩ := List.map_eq_singleton_iff.mp hlast
  obtain ⟨letters, hunit, hmem⟩ := exists_mem_units (hd ▸ hu)
  exact ⟨letters, d, by rw [eq_of_map_smallChar hcount hcount'], hunit, hmem⟩

theorem SizeText.between {front cs back : List Char} {v : Nat} (h : SizeText cs v)
    (hfront : ∀ b ∈ front, isBlank b = true) (hback : ∀ b ∈ back, isBlank b = true) :
    SizeText (front ++ cs ++ back) v := by
  obtain ⟨hbefore, hcount, hmultiple, hbehind⟩ := h
  have htext := SizeText.intro (List.forall_mem_append.mpr ⟨hfront, hbefore⟩) hcount hmultiple
    (List.forall_mem_append.mpr ⟨hbehind, hback⟩)
  simpa only [List.append_assoc] using htext

/-- **What reads is in the grammar.** -/
theorem sizeText_of_readSizeChars? {cs : List Char} {v : Nat} (h : readSizeChars? cs = some v) :
    SizeText cs v ∧ v < 2 ^ 64 := by
  obtain ⟨front, back, hcs, hfront, hback⟩ := Text.trimmed_append cs
  have houter (hbody : SizeText (Text.trimChars cs) v) : SizeText cs v :=
    hcs ▸ hbody.between hfront hback
  obtain ⟨count, c, u, hlower, hu, hsplit⟩ | hsplit :=
    splitUnit_cases (Text.lowerChars (Text.trimChars cs))
  · have hpos : 0 < u.bytes := by cases u <;> decide
    obtain ⟨n, hread, rfl, hlt⟩ := (readSizeChars?_eq_some_iff hpos hsplit).mp h
    obtain ⟨before, digits, gap, rfl, hcount, hbefore, hgap, hplain⟩ := exists_count hread
    obtain ⟨letters, d, hbody, hunit, hd⟩ := exists_letter hlower hplain hu
    refine ⟨houter ?_, hlt⟩
    have htext := SizeText.intro hbefore hcount (.unit hgap hunit hd) (List.forall_mem_nil _)
    rw [hbody]
    simpa only [List.append_assoc, List.append_nil] using htext
  · obtain ⟨n, hread, rfl, hlt⟩ := (readSizeChars?_eq_some_iff Nat.one_pos hsplit).mp h
    obtain ⟨before, digits, behind, hbody, hcount, hbefore, hbehind, hplain⟩ := exists_count hread
    refine ⟨houter ?_, hlt⟩
    have htext := SizeText.intro hbefore hcount .one hbehind
    rw [lowerChars_eq_self hplain] at hbody
    rw [hbody]
    simpa only [List.append_nil] using htext

/-! ## What is in the grammar reads -/

theorem splitUnit_plain {cs : List Char} (h : ∀ c ∈ cs, IsPlain c) : splitUnit cs = (cs, 1) := by
  obtain ⟨count, c, u, rfl, hu, -⟩ | hsplit := splitUnit_cases cs
  · have hc := (h c (List.mem_append_right _ (List.mem_singleton_self c))).ofChar?_eq_none
    rw [hc] at hu
    cases hu
  · exact hsplit

theorem splitUnit_concat {cs : List Char} {c : Char} {u : SizeUnit}
    (h : SizeUnit.ofChar? c = some u) : splitUnit (cs ++ [c]) = (cs, u.bytes) := by
  rw [splitUnit, List.getLast?_concat, Option.bind_some, h, List.dropLast_concat]

theorem map_smallChar_plain {cs : List Char} (h : ∀ c ∈ cs, IsPlain c) : cs.map smallChar = cs :=
  (Text.map_smallChar_eq_iff fun d hd => (h d hd).isLone).mpr rfl

/-- The two characters that need more than the table of letters are not plain. -/
theorem not_mem_plain {cs : List Char} (h : ∀ c ∈ cs, IsPlain c) : 'Σ' ∉ cs ∧ 'İ' ∉ cs :=
  ⟨fun hmem => (h _ hmem).ne (by decide) (by decide) (by decide) rfl,
    fun hmem => (h _ hmem).ne (by decide) (by decide) (by decide) rfl⟩

/-- Behind a count the unit is split off, and if there is none nothing is. -/
theorem exists_splitUnit {count multiple : List Char} {n scale : Nat} (hcount : Count count n)
    (hmultiple : Multiple multiple scale) :
    ∃ gap, (∀ b ∈ gap, isBlank b = true) ∧
      splitUnit (Text.lowerChars (count ++ multiple)) = (count ++ gap, scale) := by
  have hmarks : ∀ c ∈ count, IsPlain c := fun c hc => .inr (hcount.isMark c hc)
  cases hmultiple with
  | one =>
    obtain ⟨hsigma, hdotted⟩ := not_mem_plain hmarks
    refine ⟨[], List.forall_mem_nil _, ?_⟩
    rw [List.append_nil, Text.lowerChars, Text.lowerFrom_eq_map hsigma hdotted,
      map_smallChar_plain hmarks]
    exact splitUnit_plain hmarks
  | @unit gap letters c scale hgap hunit hc =>
    have hplain : ∀ d ∈ count ++ gap, IsPlain d :=
      List.forall_mem_append.mpr ⟨hmarks, fun d hd => .inl (hgap d hd)⟩
    obtain ⟨hsigma, hdotted⟩ := not_mem_plain hplain
    obtain ⟨-, hsigma', hdotted'⟩ := letters_spec hunit hc
    obtain ⟨u, hu, rfl⟩ := Option.map_eq_some_iff.mp (ofChar?_smallChar hunit hc)
    refine ⟨gap, hgap, ?_⟩
    rw [← List.append_assoc, Text.lowerChars, Text.lowerFrom_eq_map, List.map_append,
      map_smallChar_plain hplain]
    · exact splitUnit_concat hu
    · rw [List.mem_append, List.mem_singleton]
      exact not_or.mpr ⟨hsigma, hsigma'.symm⟩
    · rw [List.mem_append, List.mem_singleton]
      exact not_or.mpr ⟨hdotted, hdotted'.symm⟩

/-- A count and what stands behind it have no blanks at their ends. -/
theorem trimChars_count {count multiple front back : List Char} {n scale : Nat}
    (hcount : Count count n) (hmultiple : Multiple multiple scale)
    (hfront : ∀ b ∈ front, isBlank b = true) (hback : ∀ b ∈ back, isBlank b = true) :
    Text.trimChars (front ++ (count ++ multiple) ++ back) = count ++ multiple := by
  refine Text.trimChars_append hfront hback ?_ ?_
  · intro c hc
    rw [List.head?_append_of_ne_nil _ hcount.ne_nil] at hc
    exact (hcount.isMark c (List.mem_of_mem_head? hc)).isBlank_eq_false
  · intro c hc
    cases hmultiple with
    | one =>
      rw [List.append_nil] at hc
      exact (hcount.isMark c (List.mem_of_mem_getLast? hc)).isBlank_eq_false
    | unit hgap hunit hd =>
      rw [← List.append_assoc, List.getLast?_concat] at hc
      cases hc
      exact (letters_spec hunit hd).1

theorem Multiple.pos {cs : List Char} {scale : Nat} (h : Multiple cs scale) : 0 < scale := by
  cases h with
  | one => exact Nat.one_pos
  | unit hgap hunit hc =>
    have hall : ∀ unit ∈ units, 0 < unit.2 := by decide
    exact hall _ hunit

/-- **What is in the grammar reads**, if it is a machine word. -/
theorem readSizeChars?_of_sizeText {cs : List Char} {v : Nat} (h : SizeText cs v)
    (hlt : v < 2 ^ 64) : readSizeChars? cs = some v := by
  cases h with
  | intro hfront hcount hmultiple hback =>
    obtain ⟨gap, hgap, hsplit⟩ := exists_splitUnit hcount hmultiple
    rw [← trimChars_count hcount hmultiple hfront hback] at hsplit
    refine (readSizeChars?_eq_some_iff hmultiple.pos hsplit).mpr ⟨_, ?_, rfl, hlt⟩
    have htrim := trimChars_count hcount .one (List.forall_mem_nil _) hgap
    rw [List.append_nil, List.nil_append] at htrim
    rwa [htrim]

/-- **Reading a byte size is decided by the grammar**: a text reads as a size exactly if the grammar
gives it that size and the size is a machine word, and otherwise it does not read. -/
theorem sizeText_decides (s : String) :
    (∀ v, readSize? s = some v ↔ SizeText s.toList v ∧ v < 2 ^ 64) ∧
      (readSize? s = none ↔ ∀ v, SizeText s.toList v → 2 ^ 64 ≤ v) := by
  have hreads (v : Nat) : readSize? s = some v ↔ SizeText s.toList v ∧ v < 2 ^ 64 :=
    ⟨sizeText_of_readSizeChars?, fun h => readSizeChars?_of_sizeText h.1 h.2⟩
  refine ⟨hreads, ?_⟩
  simp only [Option.eq_none_iff_forall_ne_some, ne_eq, hreads, not_and, Nat.not_lt]

/-- A plus sign, leading zeros, and a Kelvin sign behind an ideographic space. -/
example : readSize? "\u00A0+0064\u3000\u212A " = some 65536 := by
  decide +kernel

end VmSupport.Settings
