import VmSupport.Text.Ranges

/-!
# White space, and text without it at the ends

A character is **blank** when it has the `White_Space` property: the controls from tab to carriage
return, next line, the plain and the no-break space, and the typographic spaces. The zero-width
space and the byte-order mark are not blank.

**The law** (`trimmed_append`): what is cut off at either end is blank, so a text is its trimmed
middle between two runs of blanks.
-/

namespace VmSupport.Text

/-- Closed ranges of the blank characters. -/
def blankRanges : List (Nat × Nat) :=
  [(0x0009, 0x000D), (0x0020, 0x0020), (0x0085, 0x0085), (0x00A0, 0x00A0), (0x1680, 0x1680),
   (0x2000, 0x200A), (0x2028, 0x2029), (0x202F, 0x202F), (0x205F, 0x205F), (0x3000, 0x3000)]

/-- Whether a character is white space. -/
def isBlank (c : Char) : Bool :=
  inRanges blankRanges c

/-- The characters without the blanks at the front. -/
def trimStart (cs : List Char) : List Char :=
  cs.dropWhile isBlank

/-- The characters without the blanks at the back. -/
def trimEnd (cs : List Char) : List Char :=
  (cs.reverse.dropWhile isBlank).reverse

/-- The characters without the blanks at either end. -/
def trimChars (cs : List Char) : List Char :=
  trimEnd (trimStart cs)

/-- The text without the blanks at either end. -/
def trim (s : String) : String :=
  String.ofList (trimChars s.toList)

theorem trimStart_append (cs : List Char) :
    cs = cs.takeWhile isBlank ++ trimStart cs :=
  (List.takeWhile_append_dropWhile).symm

theorem trimEnd_append (cs : List Char) :
    cs = trimEnd cs ++ (cs.reverse.takeWhile isBlank).reverse := by
  have h := congrArg List.reverse (trimStart_append cs.reverse)
  rwa [List.reverse_reverse, List.reverse_append] at h

/-- A text is its trimmed middle between two runs of blanks. -/
theorem trimmed_append (cs : List Char) :
    ∃ front back, cs = front ++ trimChars cs ++ back ∧
      (∀ c ∈ front, isBlank c = true) ∧ (∀ c ∈ back, isBlank c = true) := by
  refine ⟨cs.takeWhile isBlank, ((trimStart cs).reverse.takeWhile isBlank).reverse, ?_, ?_, ?_⟩
  · rw [List.append_assoc]
    conv => lhs; rw [trimStart_append cs]
    congr 1
    exact trimEnd_append (trimStart cs)
  · exact fun c h => List.all_eq_true.mp List.all_takeWhile c h
  · exact fun c h => List.all_eq_true.mp List.all_takeWhile c (List.mem_reverse.mp h)

theorem dropWhile_isBlank_eq_self {cs : List Char} (h : ∀ c ∈ cs.head?, isBlank c = false) :
    cs.dropWhile isBlank = cs := by
  cases cs with
  | nil => rfl
  | cons c cs =>
    refine List.dropWhile_cons_of_neg ?_
    rw [h c rfl]
    exact Bool.false_ne_true

/-- What stands between two runs of blanks is the trimmed middle, if no blank stands at its ends. -/
theorem trimChars_append {front mid back : List Char} (hfront : ∀ c ∈ front, isBlank c = true)
    (hback : ∀ c ∈ back, isBlank c = true) (hfirst : ∀ c ∈ mid.head?, isBlank c = false)
    (hlast : ∀ c ∈ mid.getLast?, isBlank c = false) : trimChars (front ++ mid ++ back) = mid := by
  rw [trimChars, trimStart, trimEnd, List.append_assoc, List.dropWhile_append_of_pos hfront]
  cases mid with
  | nil =>
    rw [List.nil_append, ← List.append_nil back, List.dropWhile_append_of_pos hback]
    rfl
  | cons c cs =>
    have hstart : (c :: cs ++ back).dropWhile isBlank = c :: cs ++ back :=
      dropWhile_isBlank_eq_self hfirst
    have hback' : ∀ c ∈ back.reverse, isBlank c = true :=
      fun c h => hback c (List.mem_reverse.mp h)
    have hlast' : ∀ d ∈ (c :: cs).reverse.head?, isBlank d = false := by
      rwa [List.head?_reverse]
    rw [hstart, List.reverse_append, List.dropWhile_append_of_pos hback',
      dropWhile_isBlank_eq_self hlast', List.reverse_reverse]

end VmSupport.Text
