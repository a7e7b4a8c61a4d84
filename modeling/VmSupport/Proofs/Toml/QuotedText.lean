import VmSupport.Toml.Quote

/-!
# Quoted text reads back

Every text reads back from the form in which it is written, whatever characters it holds and
whatever stands behind it, as long as that is not a quote that the closing quotes would take in.

**The law** (`text_writeText`): reading a written text gives the text and leaves what follows.

The basic forms hold every text (`basicText_basicChars`, `multiBasicText_basicChars`), because a
character is written as itself only where the reader takes it for itself (`basicChar_cases`). The
literal forms hold a text only if it has none of their closing quotes and no character that needs an
escape; `QuoteForm.choose` asks for exactly that (`QuoteForm.holds_choose`).
-/

namespace VmSupport.Toml

/-! ## One character -/

theorem isLineChar_of_ne {c : Char} (hsmall : ¬ c < ' ') (hdel : c ≠ '\x7f') :
    isLineChar c = true := by
  have hle : ' ' ≤ c := Char.not_lt.mp hsmall
  simp only [isLineChar, hle, hdel, decide_true, ne_eq, not_false_eq_true, Bool.and_self,
    Bool.or_true]

theorem ne_lineFeed_of_isLineChar {c : Char} (h : isLineChar c = true) : c ≠ '\n' := by
  rintro rfl
  exact absurd h (by decide)

theorem ne_return_of_isLineChar {c : Char} (h : isLineChar c = true) : c ≠ '\r' := by
  rintro rfl
  exact absurd h (by decide)

/-- Four digits are enough for every character that is written by its number. -/
theorem hexChar?_fourHex : ∀ n < 128, hexChar? (fourHex n) = some (Char.ofNat n) := by
  decide

theorem escape_fourHex {c : Char} (h : c.toNat < 128) (r : List Char) :
    escape ('u' :: fourHex c.toNat ++ r) = some (c, r) := by
  have hchar := hexChar?_fourHex c.toNat h
  rw [Char.ofNat_toNat] at hchar
  show (hexChar? (fourHex c.toNat)).map (·, r) = some (c, r)
  rw [hchar, Option.map_some]

/-- Characters that read as an escape for another one, wherever they stand behind a backslash. -/
structure EscapesTo (e : List Char) (c : Char) : Prop where
  reads : ∀ r, escape (e ++ r) = some (c, r)
  /-- The backslash does not end a line. -/
  stays : ∀ r, breaksLine (e ++ r) = false

/-- **How a character is written** in a basic form: a line feed as itself over several lines, some
characters as an escape, and all others as themselves. -/
theorem basicChar_cases (multi : Bool) (c : Char) :
    (multi = true ∧ c = '\n' ∧ basicChar multi c = ['\n']) ∨
    (∃ e, basicChar multi c = '\\' :: e ∧ EscapesTo e c) ∨
    (basicChar multi c = [c] ∧ c ≠ '\\' ∧ isLineChar c = true) := by
  unfold basicChar
  split
  · next h => exact .inr (.inl ⟨['b'], rfl, fun _ => by rw [h]; rfl, fun _ => rfl⟩)
  split
  · next h => exact .inr (.inl ⟨['t'], rfl, fun _ => by rw [h]; rfl, fun _ => rfl⟩)
  split
  · next h =>
    cases multi with
    | false => exact .inr (.inl ⟨['n'], rfl, fun _ => by rw [h]; rfl, fun _ => rfl⟩)
    | true => exact .inl ⟨rfl, h, rfl⟩
  split
  · next h => exact .inr (.inl ⟨['f'], rfl, fun _ => by rw [h]; rfl, fun _ => rfl⟩)
  split
  · next h => exact .inr (.inl ⟨['r'], rfl, fun _ => by rw [h]; rfl, fun _ => rfl⟩)
  split
  · next h => exact .inr (.inl ⟨['\\'], rfl, fun _ => by rw [h]; rfl, fun _ => rfl⟩)
  split
  · next h =>
    have hsmall : c.toNat < 128 := by
      rw [Bool.or_eq_true, decide_eq_true_iff, decide_eq_true_iff] at h
      rcases h with h | rfl
      · have hlt : c.toNat < 32 := h
        omega
      · decide
    exact .inr (.inl ⟨_, rfl, escape_fourHex hsmall, fun _ => rfl⟩)
  · next hback h =>
    rw [Bool.or_eq_true, decide_eq_true_iff, decide_eq_true_iff, not_or] at h
    exact .inr (.inr ⟨rfl, hback, isLineChar_of_ne h.1 h.2⟩)

/-- A double quote that is written as an escape. -/
theorem escapesTo_quote : EscapesTo ['"'] '"' :=
  ⟨fun _ => rfl, fun _ => rfl⟩

/-! ## The basic form -/

theorem basicText_escape {e : List Char} {c : Char} (h : EscapesTo e c) (r : List Char) :
    basicText ('\\' :: (e ++ r)) = withChar c (basicText r) := by
  rw [basicText]
  split
  · next h' =>
    cases (h.reads r).symm.trans h'
    rfl
  · next h' => cases (h.reads r).symm.trans h'

theorem basicText_plain {c : Char} (hquote : c ≠ '"') (hback : c ≠ '\\')
    (hline : isLineChar c = true) (r : List Char) :
    basicText (c :: r) = withChar c (basicText r) := by
  rw [basicText, if_pos hline]
  · exact hquote
  · exact hback

theorem basicText_basicChar {c : Char} (hquote : c ≠ '"') (r : List Char) :
    basicText (basicChar false c ++ r) = withChar c (basicText r) := by
  obtain ⟨hmulti, -⟩ | ⟨e, he, hescape⟩ | ⟨hself, hback, hline⟩ := basicChar_cases false c
  · cases hmulti
  · rw [he]
    exact basicText_escape hescape r
  · rw [hself]
    exact basicText_plain hquote hback hline r

/-- Every text reads back from the basic form. -/
theorem basicText_basicChars (cs rest : List Char) :
    basicText (basicChars false 0 0 cs ++ '"' :: rest) = some (cs, rest) := by
  induction cs with
  | nil => rw [basicChars, List.nil_append, basicText]
  | cons c cs ih =>
    by_cases hquote : c = '"'
    · rw [basicChars, if_pos hquote, if_neg (Nat.lt_irrefl 0), hquote]
      show basicText ('\\' :: (['"'] ++ (basicChars false 0 0 cs ++ '"' :: rest))) = _
      rw [basicText_escape escapesTo_quote, ih]
      rfl
    · rw [basicChars, if_neg hquote, List.append_assoc, basicText_basicChar hquote, ih]
      rfl

/-! ## The basic form over several lines -/

theorem multiBasicText_lineFeed (r : List Char) :
    multiBasicText false ('\n' :: r) = withChar '\n' (multiBasicText false r) := by
  rw [multiBasicText, if_neg Bool.false_ne_true]

theorem multiBasicText_escape {e : List Char} {c : Char} (h : EscapesTo e c) (r : List Char) :
    multiBasicText false ('\\' :: (e ++ r)) = withChar c (multiBasicText false r) := by
  rw [multiBasicText, h.stays, if_neg Bool.false_ne_true]
  split
  · next h' =>
    cases (h.reads r).symm.trans h'
    rfl
  · next h' => cases (h.reads r).symm.trans h'

/-- A character stands for itself, also a double quote that is not one of three. -/
theorem multiBasicText_plain {c : Char} {r : List Char} (hback : c ≠ '\\')
    (hline : isLineChar c = true) (hquotes : c = '"' → ∀ r', r ≠ '"' :: '"' :: r') :
    multiBasicText false (c :: r) = withChar c (multiBasicText false r) := by
  rw [multiBasicText, Bool.false_and, if_neg Bool.false_ne_true, if_pos hline]
  · exact fun _ h => hquotes h _
  · exact fun _ h => hquotes h _
  · exact fun _ h => hquotes h _
  · exact fun _ h _ => ne_return_of_isLineChar hline h
  · exact ne_lineFeed_of_isLineChar hline
  · exact hback

theorem multiBasicText_basicChar {c : Char} (hquote : c ≠ '"') (r : List Char) :
    multiBasicText false (basicChar true c ++ r) = withChar c (multiBasicText false r) := by
  obtain ⟨-, hfeed, hself⟩ | ⟨e, he, hescape⟩ | ⟨hself, hback, hline⟩ := basicChar_cases true c
  · rw [hself, hfeed]
    exact multiBasicText_lineFeed r
  · rw [he]
    exact multiBasicText_escape hescape r
  · rw [hself]
    exact multiBasicText_plain hback hline (fun h => absurd h hquote)

/-- A character that is no quote is not written with a quote in front. -/
theorem head?_basicChar_ne {multi : Bool} {c : Char} (hquote : c ≠ '"') (r : List Char) :
    (basicChar multi c ++ r).head? ≠ some '"' := by
  obtain ⟨-, -, hself⟩ | ⟨e, he, -⟩ | ⟨hself, -, -⟩ := basicChar_cases multi c
  · rw [hself]
    exact fun h => absurd (Option.some.inj h) (by decide)
  · rw [he]
    exact fun h => absurd (Option.some.inj h) (by decide)
  · rw [hself]
    exact fun h => hquote (Option.some.inj h)

/-- Where no further quote may stand as itself, a text that is not empty begins with another
character. -/
theorem head?_basicChars_ne {multi : Bool} {allowed run : Nat} (hfull : allowed ≤ run)
    {cs : List Char} (hne : cs ≠ []) (r : List Char) :
    (basicChars multi allowed run cs ++ r).head? ≠ some '"' := by
  cases cs with
  | nil => exact absurd rfl hne
  | cons c cs =>
    by_cases hquote : c = '"'
    · rw [basicChars, if_pos hquote, if_neg (Nat.not_lt.mpr hfull)]
      exact fun h => absurd (Option.some.inj h) (by decide)
    · rw [basicChars, if_neg hquote, List.append_assoc]
      exact head?_basicChar_ne hquote _

/-- Behind a quote of a text that goes on there are no two quotes, unless the text ends with just
one more. -/
theorem basicChars_ne_quotes {run : Nat} {cs : List Char} (hne : cs ≠ [])
    (hlast : run = 1 → cs ≠ ['"']) (hrun : 1 ≤ run) (r r' : List Char) :
    basicChars true 2 run cs ++ r ≠ '"' :: '"' :: r' := by
  intro heq
  have hhead : (basicChars true 2 run cs ++ r).head? = some '"' := by rw [heq]; rfl
  by_cases hfull : 2 ≤ run
  · exact head?_basicChars_ne hfull hne r hhead
  · obtain rfl : run = 1 := by omega
    cases cs with
    | nil => exact hne rfl
    | cons c cs =>
      by_cases hquote : c = '"'
      · subst hquote
        rw [basicChars, if_pos rfl, if_pos (by decide), List.cons_append] at heq
        have htail : (basicChars true 2 2 cs ++ r).head? = some '"' := by
          rw [(List.cons.inj heq).2]
          rfl
        exact head?_basicChars_ne (Nat.le_refl 2) (fun h => hlast rfl (by rw [h])) r htail
      · rw [basicChars, if_neg hquote, List.append_assoc] at hhead
        exact head?_basicChar_ne hquote _ hhead

/-- Every text reads back from the basic form over several lines, also behind quotes that were
already written. -/
theorem multiBasicText_basicChars {rest : List Char} (hrest : rest.head? ≠ some '"')
    (cs : List Char) (run : Nat) :
    multiBasicText false (basicChars true 2 run cs ++ '"' :: '"' :: '"' :: rest) =
      some (cs, rest) := by
  have hrest' : ∀ r, rest ≠ '"' :: r := by
    rintro r rfl
    exact hrest rfl
  induction cs generalizing run with
  | nil =>
    rw [basicChars, List.nil_append, multiBasicText]
    · exact fun r => hrest' _
    · exact fun r => hrest' _
  | cons c cs ih =>
    by_cases hquote : c = '"'
    · subst hquote
      rw [basicChars, if_pos rfl]
      split
      · next hrun =>
        -- quotes at the end of the text run into the closing ones
        by_cases hnil : cs = []
        · rw [hnil, basicChars, List.cons_append, List.nil_append, multiBasicText]
          exact fun r => hrest' _
        by_cases hlast : run + 1 = 1 ∧ cs = ['"']
        · rw [hlast.1, hlast.2, basicChars, if_pos rfl, if_pos (by decide), basicChars,
            List.cons_append, List.cons_append, List.nil_append, multiBasicText]
        · rw [List.cons_append, multiBasicText_plain (by decide) (by decide), ih]
          · rfl
          · exact fun _ => basicChars_ne_quotes hnil (fun h h' => hlast ⟨h, h'⟩) (by omega) _
      · show multiBasicText false
          ('\\' :: (['"'] ++ (basicChars true 2 0 cs ++ '"' :: '"' :: '"' :: rest))) = _
        rw [multiBasicText_escape escapesTo_quote, ih]
        rfl
    · rw [basicChars, if_neg hquote, List.append_assoc, multiBasicText_basicChar hquote, ih]
      rfl

/-! ## The literal forms -/

/-- A character that needs no escape is a character of a line, but for the line feed. -/
theorem isLineChar_of_not_hard {c : Char} (hsoft : isHardControl c = false) (hfeed : c ≠ '\n') :
    isLineChar c = true := by
  by_cases htab : c = '\t'
  · subst htab
    decide
  simp only [isHardControl, htab, hfeed, ne_eq, not_false_eq_true, decide_true, Bool.and_true,
    Bool.or_eq_false_iff, decide_eq_false_iff_not] at hsoft
  exact isLineChar_of_ne hsoft.1 hsoft.2

/-- A text on one line reads back from the literal form if nothing in it needs an escape and it has
no single quote. -/
theorem literalText_append {cs : List Char} (hsoft : ∀ c ∈ cs, isHardControl c = false)
    (hfeed : '\n' ∉ cs) (hquote : '\x27' ∉ cs) (rest : List Char) :
    literalText (cs ++ '\x27' :: rest) = some (cs, rest) := by
  induction cs with
  | nil => rw [List.nil_append, literalText]
  | cons c cs ih =>
    rw [List.mem_cons, not_or] at hfeed hquote
    have hline : isLineChar c = true :=
      isLineChar_of_not_hard (hsoft c List.mem_cons_self) (Ne.symm hfeed.1)
    rw [List.cons_append, literalText, if_pos hline,
      ih (fun d hd => hsoft d (List.mem_cons_of_mem c hd)) hfeed.2 hquote.2]
    · rfl
    · exact Ne.symm hquote.1

/-- A character stands for itself, also a single quote that is not one of three. -/
theorem multiLiteralText_plain {c : Char} {r : List Char} (hline : isLineChar c = true)
    (hquotes : c = '\x27' → ∀ r', r ≠ '\x27' :: '\x27' :: r') :
    multiLiteralText (c :: r) = withChar c (multiLiteralText r) := by
  rw [multiLiteralText, if_pos hline]
  · exact fun _ h => hquotes h _
  · exact fun _ h => hquotes h _
  · exact fun _ h => hquotes h _
  · exact fun _ h _ => ne_return_of_isLineChar hline h
  · exact ne_lineFeed_of_isLineChar hline

theorem hasTriple_tail {q c : Char} {cs : List Char} (h : hasTriple q (c :: cs) = false) :
    hasTriple q cs = false := by
  match cs with
  | [] => rfl
  | [_] => rfl
  | _ :: _ :: _ =>
    rw [hasTriple, Bool.or_eq_false_iff] at h
    exact h.2

/-- Behind a quote of a text without three in a row there are no two quotes, unless the text ends
with just one more. -/
theorem append_ne_quotes {q : Char} {cs : List Char} (htriple : hasTriple q (q :: cs) = false)
    (hne : cs ≠ []) (hlast : cs ≠ [q]) (r r' : List Char) : cs ++ r ≠ q :: q :: r' := by
  intro heq
  match cs with
  | [] => exact hne rfl
  | [c] => exact hlast (by rw [(List.cons.inj heq).1])
  | c :: d :: cs =>
    obtain ⟨rfl, htail⟩ := List.cons.inj heq
    obtain ⟨rfl, -⟩ := List.cons.inj htail
    simp only [hasTriple, decide_true, Bool.and_self, Bool.true_or, Bool.true_eq_false] at htriple

/-- A text reads back from the literal form over several lines if nothing in it needs an escape and
it has no three single quotes in a row. -/
theorem multiLiteralText_append {rest : List Char} (hrest : rest.head? ≠ some '\x27')
    {cs : List Char} (hsoft : ∀ c ∈ cs, isHardControl c = false)
    (htriple : hasTriple '\x27' cs = false) :
    multiLiteralText (cs ++ '\x27' :: '\x27' :: '\x27' :: rest) = some (cs, rest) := by
  have hrest' : ∀ r, rest ≠ '\x27' :: r := by
    rintro r rfl
    exact hrest rfl
  induction cs with
  | nil =>
    rw [List.nil_append, multiLiteralText]
    · exact fun r => hrest' _
    · exact fun r => hrest' _
  | cons c cs ih =>
    have hsoft' : ∀ d ∈ cs, isHardControl d = false :=
      fun d hd => hsoft d (List.mem_cons_of_mem c hd)
    have ih' := ih hsoft' (hasTriple_tail htriple)
    by_cases hfeed : c = '\n'
    · rw [hfeed, List.cons_append, multiLiteralText, ih']
      rfl
    have hline : isLineChar c = true := isLineChar_of_not_hard (hsoft c List.mem_cons_self) hfeed
    by_cases hquote : c = '\x27'
    · -- quotes at the end of the text run into the closing ones
      subst hquote
      by_cases hnil : cs = []
      · rw [hnil, List.cons_append, List.nil_append, multiLiteralText]
        exact fun r => hrest' _
      by_cases hlast : cs = ['\x27']
      · rw [hlast, List.cons_append, List.cons_append, List.nil_append, multiLiteralText]
      · rw [List.cons_append, multiLiteralText_plain hline, ih']
        · rfl
        · exact fun _ => append_ne_quotes htriple hnil hlast _
    · rw [List.cons_append, multiLiteralText_plain hline (fun h => absurd h hquote), ih']
      rfl

/-! ## Any of them -/

/-- What the form in which a text is written asks of the text. -/
def QuoteForm.Holds (cs : List Char) : QuoteForm → Prop
  | .basic => True
  | .multiBasic => True
  | .literal => (∀ c ∈ cs, isHardControl c = false) ∧ '\n' ∉ cs ∧ '\x27' ∉ cs
  | .multiLiteral => (∀ c ∈ cs, isHardControl c = false) ∧ hasTriple '\x27' cs = false

/-- The form that is chosen for a text can hold it. -/
theorem QuoteForm.holds_choose (cs : List Char) : (choose cs).Holds cs := by
  simp only [choose]
  split
  · trivial
  split
  · next h =>
    simp only [Bool.and_eq_true, Bool.not_eq_true', List.any_eq_false, List.contains_eq_mem,
      decide_eq_false_iff_not, Bool.not_eq_true] at h
    exact ⟨h.1.1, h.1.2, h.2⟩
  split
  · trivial
  split
  · next h =>
    simp only [Bool.and_eq_true, Bool.not_eq_true', List.any_eq_false, Bool.not_eq_true] at h
    exact h
  split
  · trivial
  · trivial

/-- A body that begins with a line feed only if the text has one. -/
def BeginsLike (cs body : List Char) : Prop :=
  ∀ c, body.head? = some c → (c = '\n' ∧ '\n' ∈ cs) ∨ isLineChar c = true

/-- The line break that the reader drops is the one that was written for it. -/
theorem dropLineBreak_firstBreak {cs body : List Char} (h : BeginsLike cs body) :
    dropLineBreak (firstBreak cs ++ body) = body := by
  unfold firstBreak
  by_cases hfeed : '\n' ∈ cs
  · rw [if_pos (List.contains_iff_mem.mpr hfeed), List.cons_append, List.nil_append, dropLineBreak]
  rw [if_neg (fun h => hfeed (List.contains_iff_mem.mp h)), List.nil_append]
  cases body with
  | nil => rfl
  | cons c body =>
    have hline : isLineChar c = true := (h c rfl).resolve_left (fun h => hfeed h.2)
    rw [dropLineBreak]
    · exact fun _ h => ne_lineFeed_of_isLineChar hline (List.cons.inj h).1
    · exact fun _ h => ne_return_of_isLineChar hline (List.cons.inj h).1

theorem beginsLike_basicChars (cs r : List Char) :
    BeginsLike cs (basicChars true 2 0 cs ++ '"' :: r) := by
  intro d hd
  cases cs with
  | nil =>
    cases hd
    exact .inr (by decide)
  | cons c cs =>
    by_cases hquote : c = '"'
    · rw [basicChars, if_pos hquote, if_pos (by decide)] at hd
      cases hd
      exact .inr (by decide)
    rw [basicChars, if_neg hquote] at hd
    obtain ⟨-, hfeed, hself⟩ | ⟨e, he, -⟩ | ⟨hself, -, hline⟩ := basicChar_cases true c
    · rw [hself] at hd
      cases hd
      exact .inl ⟨rfl, by rw [hfeed]; exact List.mem_cons_self⟩
    · rw [he] at hd
      cases hd
      exact .inr (by decide)
    · rw [hself] at hd
      cases hd
      exact .inr hline

theorem beginsLike_literal {cs : List Char} (hsoft : ∀ c ∈ cs, isHardControl c = false)
    (r : List Char) : BeginsLike cs (cs ++ '\x27' :: r) := by
  intro d hd
  cases cs with
  | nil =>
    cases hd
    exact .inr (by decide)
  | cons c cs =>
    cases hd
    by_cases hfeed : d = '\n'
    · exact .inl ⟨hfeed, by rw [hfeed]; exact List.mem_cons_self⟩
    · exact .inr (isLineChar_of_not_hard (hsoft d List.mem_cons_self) hfeed)

/-- **Quoted text reads back**: any text, in the form that is chosen for it, in front of anything
that does not begin with a quote. -/
theorem text_writeText (cs : List Char) {rest : List Char} (hdouble : rest.head? ≠ some '"')
    (hsingle : rest.head? ≠ some '\x27') : text (writeText cs ++ rest) = some (cs, rest) := by
  have hholds := QuoteForm.holds_choose cs
  unfold writeText
  generalize QuoteForm.choose cs = form at hholds ⊢
  cases form with
  | basic =>
    simp only [QuoteForm.write, List.cons_append, List.append_assoc, List.nil_append]
    rw [text, basicText_basicChars]
    intro r heq
    cases cs with
    | nil =>
      rw [(List.cons.inj heq).2] at hdouble
      exact hdouble rfl
    | cons c cs =>
      exact head?_basicChars_ne (Nat.le_refl 0) (List.cons_ne_nil c cs) _ (by rw [heq]; rfl)
  | literal =>
    obtain ⟨hsoft, hfeed, hquote⟩ := hholds
    simp only [QuoteForm.write, List.cons_append, List.append_assoc, List.nil_append]
    rw [text, literalText_append hsoft hfeed hquote]
    intro r heq
    cases cs with
    | nil =>
      rw [(List.cons.inj heq).2] at hsingle
      exact hsingle rfl
    | cons c cs => exact hquote (by rw [(List.cons.inj heq).1]; exact List.mem_cons_self)
  | multiBasic =>
    simp only [QuoteForm.write, List.cons_append, List.append_assoc, List.nil_append]
    rw [text, dropLineBreak_firstBreak (beginsLike_basicChars cs _),
      multiBasicText_basicChars hdouble]
  | multiLiteral =>
    obtain ⟨hsoft, htriple⟩ := hholds
    simp only [QuoteForm.write, List.cons_append, List.append_assoc, List.nil_append]
    rw [text, dropLineBreak_firstBreak (beginsLike_literal hsoft _),
      multiLiteralText_append hsingle hsoft htriple]

end VmSupport.Toml
