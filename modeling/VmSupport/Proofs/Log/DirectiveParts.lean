import VmSupport.Log.Filter

/-!
# Reading directives without faults

A piece is read character by character, and what stands between two of its signs is cut out by bytes.
A cut can fall inside a character, but it cannot in a piece without blanks in front.

**The law** (`Directive.read_of_unindented`): a piece without blanks in front is read without a
fault: it is a directive, or it is none. What carries this is that every part begins where some of the
characters before it end (`Part.Sound`); a step keeps this (`Directive.step_fine`), and so the cuts
that it makes come out whole.

**What comes of it.** The pieces of a text of further directives are trimmed, so adding them does not
fault (`Filter.addPieces_eq`). A filter that is given as one text may fault, but only by a cut inside
a character (`Filter.read_fault`).
-/

namespace VmSupport

/-- The fault is a cut inside a character. -/
def Fault.IsCut (fault : Fault) : Prop :=
  ∃ edge index c first, fault = .insideCharacter edge index c first

theorem eq_error_of_map {ε α β : Type} {x : Except ε α} {f : α → β} {e : ε}
    (h : x.map f = .error e) : x = .error e := by
  cases x with
  | error e' =>
    cases h
    rfl
  | ok a => cases h

theorem eq_error_of_bind {ε α β : Type} {x : Except ε α} {f : α → Except ε β} {e : ε}
    (h : x.bind f = .error e) : x = .error e ∨ ∃ a, x = .ok a ∧ f a = .error e := by
  cases x with
  | error e' =>
    cases h
    exact .inl rfl
  | ok a => exact .inr ⟨a, rfl, h⟩

namespace Text

theorem cutFrom_fault {edge : Edge} {index passed : Nat} {cs : List Char} {fault : Fault}
    (h : cutFrom edge index passed cs = .error fault) : fault.IsCut := by
  induction cs generalizing passed with
  | nil => cases h
  | cons c cs ih =>
    unfold cutFrom at h
    split at h
    · cases h
    split at h
    · cases h
      exact ⟨edge, index, c, passed, rfl⟩
    split at h
    · cases h
    · next hrest =>
      cases h
      exact ih hrest

theorem dropBytes_fault {index : Nat} {cs : List Char} {fault : Fault}
    (h : dropBytes index cs = .error fault) : fault.IsCut :=
  cutFrom_fault (eq_error_of_map h)

theorem sliceBytes_fault {front back : Nat} {cs : List Char} {fault : Fault}
    (h : sliceBytes front back cs = .error fault) : fault.IsCut := by
  obtain hdrop | ⟨_, -, hcut⟩ := eq_error_of_bind h
  · exact dropBytes_fault hdrop
  · exact cutFrom_fault (eq_error_of_map hcut)

/-- What is trimmed has no blanks in front. -/
theorem trimStart_trimChars (cs : List Char) : trimStart (trimChars cs) = trimChars cs := by
  refine dropWhile_isBlank_eq_self fun c hc => ?_
  -- a character in front of the trimmed text is one in front of the text without leading blanks
  have hstart := trimEnd_append (trimStart cs)
  rw [← trimChars] at hstart
  have hhead : c ∈ (trimStart cs).head? := by
    rw [hstart, List.head?_append, Option.mem_def.mp hc]
    rfl
  have hfirst := List.head?_dropWhile_not isBlank cs
  rw [← trimStart, Option.mem_def.mp hhead] at hfirst
  exact hfirst

/-- A text without blanks in front is its trimmed part with what is cut off behind. -/
theorem trimChars_append_of_unindented {cs : List Char} (h : trimStart cs = cs) :
    ∃ back, cs = trimChars cs ++ back :=
  ⟨_, by rw [trimChars, h]; exact trimEnd_append cs⟩

end Text

namespace Log

open Text (byteLength)

variable {patterns : Patterns}

namespace Directive

/-! ## Only cuts fault -/

/-- Where the reading of a piece faults, it is a cut. -/
def OnlyCuts {α : Type} (x : Except Refusal α) : Prop :=
  ∀ fault, x = .error (.fault fault) → fault.IsCut

theorem OnlyCuts.map {α β : Type} {x : Except Refusal α} (h : OnlyCuts x) (f : α → β) :
    OnlyCuts (x.map f) :=
  fun fault heq => h fault (eq_error_of_map heq)

theorem OnlyCuts.bind {α β : Type} {x : Except Refusal α} {f : α → Except Refusal β}
    (h : OnlyCuts x) (hf : ∀ a, OnlyCuts (f a)) : OnlyCuts (x.bind f) := by
  intro fault heq
  obtain hx | ⟨a, -, ha⟩ := eq_error_of_bind heq
  · exact h fault hx
  · exact hf a fault ha

theorem onlyCuts_ok {α : Type} (a : α) : OnlyCuts (.ok a) := nofun

theorem onlyCuts_malformed {α : Type} : OnlyCuts (.error .malformed : Except Refusal α) := nofun

theorem onlyCuts_found {α : Type} (read : Option α) : OnlyCuts (found read) := by
  cases read with
  | none => exact onlyCuts_malformed
  | some a => exact onlyCuts_ok a

theorem onlyCuts_mapError {α : Type} {x : Except Fault α}
    (h : ∀ fault, x = .error fault → fault.IsCut) : OnlyCuts (x.mapError .fault) := by
  rintro fault heq
  cases x with
  | error f =>
    cases heq
    exact h _ rfl
  | ok a => cases heq

theorem onlyCuts_slice (front back : Nat) (piece : List Char) : OnlyCuts (slice front back piece) :=
  onlyCuts_mapError fun _ => Text.sliceBytes_fault

theorem onlyCuts_step (piece : List Char) (index : Nat) (c : Char) (d : Draft) :
    OnlyCuts (step patterns piece index c d) := by
  have hfield (front : Nat) (next : Part) (e : Directive) :
      OnlyCuts (readField patterns piece front index next e) :=
    (onlyCuts_slice _ _ _).bind fun _ => (onlyCuts_found _).map _
  have hlevel (front : Nat) (e : Directive) : OnlyCuts (readLevel piece front index e) :=
    (onlyCuts_slice _ _ _).bind fun _ => (onlyCuts_found _).map _
  obtain ⟨part, e⟩ := d
  cases part with
  | start =>
    rw [step]
    split
    · exact onlyCuts_ok _
    split
    · exact onlyCuts_ok _
    · exact onlyCuts_malformed
  | word =>
    rw [step]
    split
    · exact (onlyCuts_slice _ _ _).map _
    split
    · exact (onlyCuts_slice _ _ _).map _
    split
    · exact onlyCuts_ok _
    · exact onlyCuts_ok _
  | span front =>
    rw [step]
    split
    · exact (onlyCuts_slice _ _ _).map _
    split
    · exact (onlyCuts_slice _ _ _).map _
    · exact onlyCuts_ok _
  | field front =>
    rw [step]
    split
    · exact hfield _ _ _
    split
    · exact hfield _ _ _
    · exact onlyCuts_ok _
  | fields | spanned =>
    rw [step]
    split
    · exact onlyCuts_ok _
    · exact onlyCuts_malformed
  | level front =>
    rw [step]
    split
    · exact hlevel _ _
    · exact onlyCuts_ok _
  | complete => exact onlyCuts_malformed

theorem onlyCuts_stepAll (piece : List Char) (index : Nat) (d : Draft) (cs : List Char) :
    OnlyCuts (stepAll patterns piece index d cs) := by
  induction cs generalizing index d with
  | nil => exact onlyCuts_ok d
  | cons c cs ih => exact (onlyCuts_step piece index c d).bind fun d => ih _ d

theorem onlyCuts_finish (piece : List Char) (d : Draft) : OnlyCuts (finish piece d) := by
  obtain ⟨part, e⟩ := d
  cases part with
  | level front =>
    exact (onlyCuts_mapError fun _ => Text.dropBytes_fault).bind fun _ => (onlyCuts_found _).map _
  | word | spanned | complete => exact onlyCuts_ok _
  | start | span _ | field _ | fields => exact onlyCuts_malformed

/-- **Reading a piece** faults only where it cuts it inside a character. -/
theorem onlyCuts_read (piece : List Char) : OnlyCuts (read patterns piece) :=
  (onlyCuts_stepAll piece 0 _ _).bind (onlyCuts_finish piece)

/-! ## Cuts that come out whole -/

/-- A part begins where some of the characters that were read end. -/
def Part.Sound (before : List Char) : Part → Prop
  | .span front | .field front | .level front => ∃ a b, before = a ++ b ∧ front = byteLength a
  | _ => True

/-- Reading did not fault, and what is being read begins where it should. -/
def Fine (before : List Char) : Except Refusal Draft → Prop
  | .ok d => d.part.Sound before
  | .error r => r = .malformed

variable {before : List Char}

/-- A part that has begun goes on. -/
theorem Part.Sound.concat {p : Part} (h : p.Sound before) (c : Char) : p.Sound (before ++ [c]) := by
  cases p with
  | span front | field front | level front =>
    obtain ⟨a, b, rfl, hfront⟩ := h
    exact ⟨a, b ++ [c], List.append_assoc .., hfront⟩
  | _ => trivial

/-- The next part begins behind a sign of one byte. -/
theorem exists_front (before : List Char) {c : Char} (hc : c.utf8Size = 1) :
    ∃ a b, before ++ [c] = a ++ b ∧ byteLength before + 1 = byteLength a := by
  refine ⟨before ++ [c], [], (List.append_nil _).symm, ?_⟩
  rw [Text.byteLength_append, byteLength, byteLength, hc]

/-- What stands between the front of a part and the next character is cut out whole. -/
theorem exists_slice {front : Nat} (h : ∃ a b, before = a ++ b ∧ front = byteLength a)
    (rest : List Char) : ∃ cs, slice front (byteLength before) (before ++ rest) = .ok cs := by
  obtain ⟨a, b, rfl, rfl⟩ := h
  exact ⟨b, by rw [slice, Text.sliceBytes_append]; rfl⟩

theorem Fine.map_slice {front : Nat} (h : ∃ a b, before = a ++ b ∧ front = byteLength a)
    (rest : List Char) {after : List Char} {f : List Char → Draft}
    (hf : ∀ cs, (f cs).part.Sound after) :
    Fine after ((slice front (byteLength before) (before ++ rest)).map f) := by
  obtain ⟨cs, hcs⟩ := exists_slice h rest
  rw [hcs]
  exact hf cs

theorem Fine.bind_slice {front : Nat} (h : ∃ a b, before = a ++ b ∧ front = byteLength a)
    (rest : List Char) {after : List Char} {α : Type} {read : List Char → Option α}
    {f : α → Draft} (hf : ∀ a, (f a).part.Sound after) :
    Fine after ((slice front (byteLength before) (before ++ rest)).bind fun cs =>
      (found (read cs)).map f) := by
  obtain ⟨cs, hcs⟩ := exists_slice h rest
  rw [hcs]
  show Fine after ((found (read cs)).map f)
  cases read cs with
  | none => rfl
  | some a => exact hf a

/-- **One step** of reading a piece, behind the characters before, does not fault. -/
theorem step_fine (patterns : Patterns) (c : Char) (rest : List Char) {d : Draft}
    (h : d.part.Sound before) :
    Fine (before ++ [c]) (step patterns (before ++ c :: rest) (byteLength before) c d) := by
  obtain ⟨part, e⟩ := d
  have hnone : ∃ a b, before = a ++ b ∧ 0 = byteLength a := ⟨[], before, rfl, rfl⟩
  cases part with
  | start =>
    rw [step]
    split
    · next hc => exact exists_front before (hc ▸ rfl)
    split
    · trivial
    · rfl
  | word =>
    rw [step]
    split
    · next hc => exact .map_slice hnone _ fun _ => exists_front before (hc ▸ rfl)
    split
    · next hc => exact .map_slice hnone _ fun _ => exists_front before (hc ▸ rfl)
    split
    · trivial
    · trivial
  | span front =>
    rw [step]
    split
    · exact .map_slice h _ fun _ => trivial
    split
    · next hc => exact .map_slice h _ fun _ => exists_front before (hc ▸ rfl)
    · exact h.concat c
  | field front =>
    rw [step]
    split
    · exact .bind_slice h _ fun _ => trivial
    split
    · next hc => exact .bind_slice h _ fun _ => exists_front before (hc ▸ rfl)
    · exact h.concat c
  | fields =>
    rw [step]
    split
    · trivial
    · rfl
  | spanned =>
    rw [step]
    split
    · next hc => exact exists_front before (hc ▸ rfl)
    · rfl
  | level front =>
    rw [step]
    split
    · exact .bind_slice h _ fun _ => trivial
    · exact h.concat c
  | complete => rfl

/-- So all steps do not, whatever stands behind the characters that are read. -/
theorem stepAll_fine (patterns : Patterns) (cs back : List Char) {d : Draft}
    (h : d.part.Sound before) :
    Fine (before ++ cs) (stepAll patterns (before ++ cs ++ back) (byteLength before) d cs) := by
  induction cs generalizing before d with
  | nil =>
    rw [List.append_nil]
    exact h
  | cons c cs ih =>
    have hstep := step_fine patterns c (cs ++ back) h
    rw [← List.cons_append, ← List.append_assoc] at hstep
    rw [stepAll]
    cases hd : step patterns (before ++ c :: cs ++ back) (byteLength before) c d with
    | error r =>
      rw [hd] at hstep
      exact hstep
    | ok d' =>
      rw [hd] at hstep
      have hlater := ih hstep
      rw [List.append_assoc before, List.singleton_append, Text.byteLength_append] at hlater
      exact hlater

/-- **A piece without blanks in front** is a directive, or it is none. -/
theorem read_of_unindented (patterns : Patterns) {piece : List Char}
    (h : Text.trimStart piece = piece) :
    (∃ d, read patterns piece = .ok d) ∨ read patterns piece = .error .malformed := by
  obtain ⟨back, hback⟩ := Text.trimChars_append_of_unindented h
  have hstart : (Draft.mk .start {}).part.Sound [] := trivial
  have hfine := stepAll_fine patterns (Text.trimChars piece) back hstart
  rw [List.nil_append, ← hback] at hfine
  rw [read]
  cases hd : stepAll patterns piece 0 ⟨.start, {}⟩ (Text.trimChars piece) with
  | error r =>
    refine .inr ?_
    rw [show byteLength [] = 0 from rfl, hd] at hfine
    exact congrArg Except.error hfine
  | ok d =>
    rw [show byteLength [] = 0 from rfl, hd] at hfine
    show (∃ d', finish piece d = .ok d') ∨ finish piece d = .error .malformed
    obtain ⟨part, e⟩ := d
    cases part with
    | level front =>
      obtain ⟨a, b, hab, rfl⟩ := hfine
      have hdrop : Text.dropBytes (byteLength a) piece = .ok (b ++ back) := by
        rw [hback, hab, List.append_assoc]
        exact Text.dropBytes_append a (b ++ back)
      have hfinish : finish piece ⟨.level (byteLength a), e⟩ =
          (found (Threshold.readOrAll? (b ++ back))).map fun threshold => { e with threshold } := by
        rw [finish, hdrop]
        rfl
      rw [hfinish]
      cases Threshold.readOrAll? (b ++ back) with
      | none => exact .inr rfl
      | some t => exact .inl ⟨_, rfl⟩
    | word | spanned | complete => exact .inl ⟨_, rfl⟩
    | start | span _ | field _ | fields => exact .inr rfl

/-- What a piece says, if it is a directive. -/
def read? (patterns : Patterns) (piece : List Char) : Option Directive :=
  (read patterns piece).toOption

end Directive

namespace Filter

/-! ## Filters from text -/

theorem readAll_fault {pieces : List (List Char)} {fault : Fault}
    (h : readAll patterns pieces = .error fault) : fault.IsCut := by
  induction pieces with
  | nil => cases h
  | cons cs rest ih =>
    unfold readAll at h
    split at h
    · next hread =>
      cases h
      exact Directive.onlyCuts_read cs fault hread
    · cases h
    split at h
    · next hrest =>
      cases h
      exact ih hrest
    · cases h

/-- **Reading a filter** faults only where it cuts the text inside a character. -/
theorem read_fault {text : String} {fault : Fault} (h : read patterns text = .error fault) :
    fault.IsCut :=
  readAll_fault (eq_error_of_map h)

/-- The filter with a trimmed piece, and the pieces that are no directives. -/
def withPiece (patterns : Patterns) (state : Filter × List String) (cs : List Char) :
    Filter × List String :=
  match Directive.read? patterns cs with
  | some d => (state.1.add d, state.2)
  | none => (state.1, state.2 ++ [String.ofList cs])

/-- The filter with the pieces of a text. -/
def withPieces (patterns : Patterns) (f : Filter) (s : String) : Filter × List String :=
  (trimmedPieces s).foldl (withPiece patterns) (f, [])

theorem addPiece_eq {cs : List Char} (h : Text.trimStart cs = cs) (state : Filter × List String) :
    addPiece patterns state cs = .ok (withPiece patterns state cs) := by
  rw [addPiece, withPiece, Directive.read?]
  obtain ⟨d, hd⟩ | hnone := Directive.read_of_unindented patterns h
  · rw [hd]
    rfl
  · rw [hnone]
    rfl

theorem foldlM_addPiece {pieces : List (List Char)} (h : ∀ cs ∈ pieces, Text.trimStart cs = cs)
    (state : Filter × List String) :
    pieces.foldlM (addPiece patterns) state = .ok (pieces.foldl (withPiece patterns) state) := by
  induction pieces generalizing state with
  | nil => rfl
  | cons cs rest ih =>
    obtain ⟨hcs, hrest⟩ := List.forall_mem_cons.mp h
    rw [List.foldlM_cons, addPiece_eq hcs]
    exact ih hrest _

/-- **Adding the pieces of a text** does not fault. -/
theorem addPieces_eq (f : Filter) (s : String) :
    f.addPieces patterns s = .ok (f.withPieces patterns s) := by
  refine foldlM_addPiece (fun cs hcs => ?_) (f, [])
  obtain ⟨p, -, rfl⟩ := List.mem_map.mp (List.mem_filter.mp hcs).1
  exact Text.trimStart_trimChars _

/-- So nothing but the variable keeps a filter from being put together. -/
theorem build_eq (v : Option String) (l : Level) (further : Option String) :
    build patterns v l further =
      (v.elim (.ok none) (read patterns)).map fun base =>
        further.elim (base.getD (ofLevel l), []) ((base.getD (ofLevel l)).withPieces patterns) := by
  rw [build]
  cases v.elim (.ok none) (read patterns) with
  | error f => rfl
  | ok base =>
    cases further with
    | none => rfl
    | some s => exact addPieces_eq _ s

end Filter

/-- What is not closed is no directive. A span is one, also without a target, and like any part it is
cut out too early where a blank stands in front. -/
example :
    Directive.read (fun _ => true) "vm_native[x".toList = .error .malformed ∧
    Directive.read (fun _ => true) "[a]=info".toList =
      .ok { span := some "a", threshold := .level .info } ∧
    Directive.read (fun _ => true) "\u00a0a[b]".toList =
      .error (.fault (.insideCharacter .back 1 '\u00a0' 0)) :=
  ⟨rfl, rfl, rfl⟩

end Log

end VmSupport
