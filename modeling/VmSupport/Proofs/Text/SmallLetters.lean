import VmSupport.Text.Blank
import VmSupport.Text.LowerCase

/-!
# Lower case, read backwards

Matching a text after it was put into lower case asks which characters become a given one. For the
characters of this module the answer is short. A blank becomes itself, and so does an ASCII
character that is no letter, and nothing else becomes it (`IsLone`). An ASCII small letter comes
from itself and from its capital, and the `k` from the Kelvin sign as well (`smallChar_eq_iff`).

**The law** (`lowerChars_eq_map`): the two characters that a table of letters does not cover, the
dotted capital I and the capital sigma, leave a trace in the lower-case text. A text without such a
trace was put into lower case character by character.

A word of ASCII small letters without a `k` therefore comes only from the words that are equal to it
up to the case of ASCII letters (`lower_eq_iff`), though all of Unicode was put into lower case.
-/

namespace VmSupport.Text

/-- The small form of a character by the table of letters alone. -/
def smallChar (c : Char) : Char :=
  Char.ofNat (smallCode c.toNat)

/-! ## Codes -/

/-- A code point stays as it is, or a run takes it to its small letters. -/
theorem smallCode_cases (n : Nat) :
    smallCode n = n ∨
      ∃ r ∈ caseRuns, r.first ≤ n ∧ n ≤ r.last ∧ smallCode n = r.small + (n - r.first) := by
  unfold smallCode
  cases hfound : caseRuns.findSome? (·.smallOf? n) with
  | none => exact .inl rfl
  | some m =>
    obtain ⟨r, hr, hsmall⟩ := List.exists_of_findSome?_eq_some hfound
    unfold CaseRun.smallOf? at hsmall
    split at hsmall
    · next hmember =>
      cases hsmall
      exact .inr ⟨r, hr, hmember.1, hmember.2.1, rfl⟩
    · cases hsmall

/-- Only two runs lead to ASCII small letters, and only one starts from ASCII capitals. -/
theorem ascii_of_mem_caseRuns : ∀ r ∈ caseRuns, r.first < 128 ∨ r.small < 128 →
    r = ⟨0x0041, 0x005A, 1, 0x0061⟩ ∨ r = ⟨0x212A, 0x212A, 1, 0x006B⟩ := by
  decide +kernel

/-- No run starts or ends among the blanks. -/
theorem blankRanges_apart : ∀ b ∈ blankRanges, ∀ r ∈ caseRuns,
    (r.last < b.1 ∨ b.2 < r.first) ∧ (r.small + (r.last - r.first) < b.1 ∨ b.2 < r.small) := by
  decide +kernel

theorem smallCode_of_lt : ∀ n < 128, smallCode n = if 65 ≤ n ∧ n ≤ 90 then n + 32 else n := by
  decide +kernel

/-- What becomes an ASCII code point: that itself, a capital, or the Kelvin sign. -/
theorem smallCode_lt_cases {n : Nat} (h : smallCode n < 128) :
    smallCode n = n ∨ (65 ≤ n ∧ n ≤ 90 ∧ smallCode n = n + 32) ∨
      (n = 0x212A ∧ smallCode n = 107) := by
  obtain hself | ⟨r, hr, hfirst, hlast, hsmall⟩ := smallCode_cases n
  · exact .inl hself
  · obtain rfl | rfl := ascii_of_mem_caseRuns r hr (.inr (by omega))
    · simp only at hfirst hlast hsmall
      exact .inr (.inl ⟨hfirst, hlast, by omega⟩)
    · simp only at hfirst hlast hsmall
      exact .inr (.inr ⟨by omega, by omega⟩)

/-! ## Characters -/

theorem toNat_smallChar {c : Char} (h : smallChar c ≠ '\x00') :
    (smallChar c).toNat = smallCode c.toNat := by
  by_cases hvalid : (smallCode c.toNat).isValidChar
  · have hsmall : smallChar c = Char.ofNatAux _ hvalid := dif_pos hvalid
    rw [hsmall]
    rfl
  · exact absurd (dif_neg hvalid) h

/-- **A character that no other becomes**, and that becomes itself. -/
def IsLone (d : Char) : Prop :=
  ∀ c, smallChar c = d ↔ c = d

theorem isLone_of_smallCode {d : Char} (hd : d ≠ '\x00') (hself : smallCode d.toNat = d.toNat)
    (hothers : ∀ n, smallCode n = d.toNat → n = d.toNat) : IsLone d := by
  intro c
  constructor
  · intro h
    have hcode := toNat_smallChar (h ▸ hd)
    rw [h] at hcode
    exact Char.toNat_inj.mp (hothers _ hcode.symm)
  · rintro rfl
    rw [smallChar, hself, Char.ofNat_toNat]

/-- Blanks are no letters. -/
theorem isLone_of_isBlank {d : Char} (h : isBlank d = true) : IsLone d := by
  obtain ⟨b, hb, hfirst, hlast⟩ := inRanges_iff.mp h
  refine isLone_of_smallCode ?_ ?_ ?_
  · rintro rfl
    revert h
    decide
  · obtain hself | ⟨r, hr, hfrom, hto, -⟩ := smallCode_cases d.toNat
    · exact hself
    · have hapart := (blankRanges_apart b hb r hr).1
      omega
  · intro n hn
    obtain hself | ⟨r, hr, hfrom, hto, hsmall⟩ := smallCode_cases n
    · exact hself.symm.trans hn
    · have hapart := (blankRanges_apart b hb r hr).2
      omega

/-- Nor are the other ASCII characters that are neither capitals nor small letters. -/
theorem isLone_of_ascii {d : Char} (hpos : 0 < d.toNat) (hlt : d.toNat < 128)
    (hcapital : ¬ (65 ≤ d.toNat ∧ d.toNat ≤ 90)) (hsmall : ¬ (97 ≤ d.toNat ∧ d.toNat ≤ 122)) :
    IsLone d := by
  refine isLone_of_smallCode ?_ ?_ ?_
  · rintro rfl
    exact absurd hpos (by decide)
  · rw [smallCode_of_lt _ hlt, if_neg hcapital]
  · intro n hn
    obtain hself | ⟨hfirst, hlast, hto⟩ | ⟨-, hto⟩ := smallCode_lt_cases (hn ▸ hlt)
    · exact hself.symm.trans hn
    · omega
    · omega

/-- **An ASCII small letter** comes from itself, its capital, and for the `k` the Kelvin sign. -/
theorem smallChar_eq_iff {c d : Char} (hfirst : 97 ≤ d.toNat) (hlast : d.toNat ≤ 122) :
    smallChar c = d ↔ c = d ∨ c.toNat + 32 = d.toNat ∨ (c = '\u212A' ∧ d = 'k') := by
  constructor
  · intro h
    have hne : smallChar c ≠ '\x00' := by
      rintro hnul
      rw [← h, hnul] at hfirst
      exact absurd hfirst (by decide)
    have hcode := toNat_smallChar hne
    rw [h] at hcode
    obtain hself | ⟨-, -, hto⟩ | ⟨hkelvin, hto⟩ := smallCode_lt_cases (n := c.toNat) (by omega)
    · exact .inl (Char.toNat_inj.mp (hself.symm.trans hcode.symm))
    · exact .inr (.inl (by omega))
    · exact .inr (.inr ⟨Char.toNat_inj.mp hkelvin, Char.toNat_inj.mp (hcode.trans hto)⟩)
  · rintro (rfl | hcapital | ⟨rfl, rfl⟩)
    · rw [smallChar, smallCode_of_lt _ (by omega), if_neg (by omega), Char.ofNat_toNat]
    · rw [smallChar, smallCode_of_lt _ (by omega), if_pos (by omega), hcapital, Char.ofNat_toNat]
    · decide +kernel

/-! ## Texts -/

/-- Two ways to change characters have the same preimages of a text if they have the same preimages
of its characters. -/
theorem map_eq_iff_map_eq {f g : Char → Char} {cs ds : List Char}
    (h : ∀ d ∈ ds, ∀ c, f c = d ↔ g c = d) : cs.map f = ds ↔ cs.map g = ds := by
  induction ds generalizing cs with
  | nil => rw [List.map_eq_nil_iff, List.map_eq_nil_iff]
  | cons d ds ih =>
    cases cs with
    | nil => rfl
    | cons c cs =>
      have hhead := h d List.mem_cons_self c
      have htail : cs.map f = ds ↔ cs.map g = ds :=
        ih fun d' hd' => h d' (List.mem_cons_of_mem d hd')
      rw [List.map_cons, List.map_cons, List.cons.injEq, List.cons.injEq, hhead, htail]

theorem map_smallChar_eq_iff {cs ds : List Char} (h : ∀ d ∈ ds, IsLone d) :
    cs.map smallChar = ds ↔ cs = ds := by
  have hself : cs.map smallChar = ds ↔ cs.map id = ds := map_eq_iff_map_eq h
  rwa [List.map_id] at hself

/-- A character that shows that its text had one of the two characters that the table of letters
does not cover. -/
def IsTrace (c : Char) : Prop :=
  c = 'σ' ∨ c = 'ς' ∨ c = '\u0307'

theorem lowerFrom_eq_map {cs : List Char} (hsigma : 'Σ' ∉ cs) (hdotted : 'İ' ∉ cs)
    (before : List Char) : lowerFrom before cs = cs.map smallChar := by
  induction cs generalizing before with
  | nil => rfl
  | cons c cs ih =>
    rw [List.mem_cons, not_or] at hsigma hdotted
    rw [lowerFrom, if_neg (Ne.symm hsigma.1), lowerChar, if_neg (Ne.symm hdotted.1),
      ih hsigma.2 hdotted.2]
    rfl

/-- Each of the two characters leaves a trace wherever it stands. -/
theorem exists_isTrace {cs : List Char} (h : 'Σ' ∈ cs ∨ 'İ' ∈ cs) (before : List Char) :
    ∃ c ∈ lowerFrom before cs, IsTrace c := by
  induction cs generalizing before with
  | nil => simp only [List.not_mem_nil, or_self] at h
  | cons c cs ih =>
    rw [lowerFrom]
    by_cases hsigma : c = 'Σ'
    · rw [if_pos hsigma]
      refine ⟨_, List.mem_append_left _ (List.mem_singleton_self _), ?_⟩
      split
      · exact .inr (.inl rfl)
      · exact .inl rfl
    rw [if_neg hsigma]
    by_cases hdotted : c = 'İ'
    · refine ⟨'\u0307', List.mem_append_left _ ?_, .inr (.inr rfl)⟩
      rw [lowerChar, if_pos hdotted]
      decide
    · rw [List.mem_cons, List.mem_cons] at h
      have hrest : 'Σ' ∈ cs ∨ 'İ' ∈ cs :=
        h.imp (·.resolve_left (Ne.symm hsigma)) (·.resolve_left (Ne.symm hdotted))
      obtain ⟨d, hd, htrace⟩ := ih hrest (c :: before)
      exact ⟨d, List.mem_append_right _ hd, htrace⟩

/-- **A text without a trace was put into lower case character by character.** -/
theorem lowerChars_eq_map {cs : List Char} (h : ∀ c ∈ lowerChars cs, ¬ IsTrace c) :
    lowerChars cs = cs.map smallChar := by
  have hnone : ¬ ('Σ' ∈ cs ∨ 'İ' ∈ cs) := by
    intro hspecial
    obtain ⟨c, hc, htrace⟩ := exists_isTrace hspecial []
    exact h c hc htrace
  obtain ⟨hsigma, hdotted⟩ := not_or.mp hnone
  exact lowerFrom_eq_map hsigma hdotted []

/-! ## Words in any case -/

/-- Two texts are equal up to the case of their ASCII letters. -/
def EqUpToCase (s t : String) : Prop :=
  s.toList.map Char.toLower = t.toList.map Char.toLower

instance (s t : String) : Decidable (EqUpToCase s t) :=
  inferInstanceAs (Decidable (_ = _))

/-- The ASCII small letters without the `k`, which the Kelvin sign becomes too. -/
def HasTwoForms (d : Char) : Prop :=
  97 ≤ d.toNat ∧ d.toNat ≤ 122 ∧ d ≠ 'k'

instance (d : Char) : Decidable (HasTwoForms d) :=
  inferInstanceAs (Decidable (_ ∧ _))

/-- Whether all letters of a word have two forms is checked letter by letter. -/
theorem hasTwoForms_of_all {w : String}
    (h : (w.toList.all fun d => decide (HasTwoForms d)) = true) : ∀ d ∈ w.toList, HasTwoForms d :=
  fun d hd => of_decide_eq_true (List.all_eq_true.mp h d hd)

theorem EqUpToCase.length_eq {s t : String} (h : EqUpToCase s t) : s.length = t.length := by
  have hlength := congrArg List.length h
  rwa [List.length_map, List.length_map, String.length_toList, String.length_toList] at hlength

theorem toNat_toLower (c : Char) :
    c.toLower.toNat = if 65 ≤ c.toNat ∧ c.toNat ≤ 90 then c.toNat + 32 else c.toNat := by
  have hcapital : (c.val ≥ 'A'.val ∧ c.val ≤ 'Z'.val) ↔ 65 ≤ c.toNat ∧ c.toNat ≤ 90 := by
    rw [ge_iff_le, UInt32.le_iff_toNat_le, UInt32.le_iff_toNat_le]
    rfl
  unfold Char.toLower
  simp only [hcapital]
  split
  · next h =>
    have hstep : ('a'.val - 'A'.val).toNat = 32 := rfl
    have hcode : c.val.toNat = c.toNat := rfl
    show (c.val + ('a'.val - 'A'.val)).toNat = _
    rw [UInt32.toNat_add, hstep, hcode]
    omega
  · rfl

/-- **The forms of a letter** are the same in ASCII and in all of Unicode. -/
theorem HasTwoForms.smallChar_eq_iff {d : Char} (h : HasTwoForms d) (c : Char) :
    smallChar c = d ↔ c.toLower = d := by
  obtain ⟨hfirst, hlast, hk⟩ := h
  have hself : c = d ↔ c.toNat = d.toNat := Char.toNat_inj.symm
  have hlower : c.toLower = d ↔ c.toLower.toNat = d.toNat := Char.toNat_inj.symm
  have hnokelvin : ¬ (c = '\u212A' ∧ d = 'k') := fun hkelvin => hk hkelvin.2
  rw [Text.smallChar_eq_iff hfirst hlast, or_iff_left hnokelvin, hself, hlower, toNat_toLower]
  split <;> omega

theorem HasTwoForms.toLower_eq {d : Char} (h : HasTwoForms d) : d.toLower = d := by
  rw [← Char.toNat_inj, toNat_toLower, if_neg (by have := h.1; omega)]

/-- Neither of the two characters that the table of letters does not cover is a form of a letter. -/
theorem HasTwoForms.not_isTrace {d : Char} (h : HasTwoForms d) : ¬ IsTrace d := by
  rintro (rfl | rfl | rfl) <;> revert h <;> decide

/-- **What becomes a word in lower case** are the words equal to it up to the case of ASCII letters,
if it is made of letters that come from two characters each. -/
theorem lower_eq_iff {s t : String} (h : ∀ d ∈ t.toList, HasTwoForms d) :
    lower s = t ↔ EqUpToCase s t := by
  have hforms : s.toList.map smallChar = t.toList ↔ s.toList.map Char.toLower = t.toList :=
    map_eq_iff_map_eq fun d hd => (h d hd).smallChar_eq_iff
  have hword : t.toList.map Char.toLower = t.toList :=
    (List.map_congr_left fun d hd => (h d hd).toLower_eq).trans (List.map_id' _)
  have hlower : lower s = t ↔ lowerChars s.toList = t.toList := by
    rw [← String.toList_inj, lower, String.toList_ofList]
  rw [hlower, EqUpToCase, hword, ← hforms]
  constructor
  · intro hchars
    rw [← lowerChars_eq_map fun c hc => (h c (hchars ▸ hc)).not_isTrace, hchars]
  · intro hmap
    -- neither of the two characters is in the text, because each is its own ASCII form
    have hnot : ∀ c ∈ s.toList, HasTwoForms c.toLower := by
      intro c hc
      refine h _ ?_
      rw [← hforms.mp hmap]
      exact List.mem_map_of_mem hc
    have hsigma : 'Σ' ∉ s.toList := fun hc => absurd (hnot _ hc) (by decide)
    have hdotted : 'İ' ∉ s.toList := fun hc => absurd (hnot _ hc) (by decide)
    exact (lowerFrom_eq_map hsigma hdotted []).trans hmap

end VmSupport.Text
