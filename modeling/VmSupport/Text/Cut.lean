import VmSupport.Fault

/-!
# Cutting text at bytes

Counted in bytes, a character takes one to four places. A text can be cut behind a number of bytes
only where a character ends; a cut that falls inside a character is a fault, and the fault names the
character.

**The law** (`dropBytes_append`, `sliceBytes_append`): a text that is made of parts comes apart again
where the bytes of the parts end.
-/

namespace VmSupport.Text

/-- The number of bytes that characters take. -/
def byteLength : List Char → Nat
  | [] => 0
  | c :: cs => c.utf8Size + byteLength cs

theorem byteLength_append (a b : List Char) :
    byteLength (a ++ b) = byteLength a + byteLength b := by
  induction a with
  | nil => simp [byteLength]
  | cons c cs ih => simp [byteLength, ih, Nat.add_assoc]

/-- Cuts a text in two at the byte `index`, of which `passed` bytes lie before these characters. A
text that ends before that byte stays whole. -/
def cutFrom (edge : Edge) (index passed : Nat) : List Char → Except Fault (List Char × List Char)
  | [] => .ok ([], [])
  | c :: cs =>
    if index ≤ passed then .ok ([], c :: cs)
    else if index < passed + c.utf8Size then .error (.insideCharacter edge index c passed)
    else
      match cutFrom edge index (passed + c.utf8Size) cs with
      | .ok (before, behind) => .ok (c :: before, behind)
      | .error f => .error f

/-- The piece of a text from a byte on. -/
def dropBytes (index : Nat) (cs : List Char) : Except Fault (List Char) :=
  (cutFrom .front index 0 cs).map Prod.snd

/-- The piece of a text between two bytes. The edge in front is cut first. -/
def sliceBytes (front back : Nat) (cs : List Char) : Except Fault (List Char) :=
  (dropBytes front cs).bind fun behind => (cutFrom .back back front behind).map Prod.fst

theorem cutFrom_append (edge : Edge) (passed : Nat) (before behind : List Char) :
    cutFrom edge (passed + byteLength before) passed (before ++ behind) = .ok (before, behind) := by
  induction before generalizing passed with
  | nil => cases behind <;> simp [cutFrom, byteLength]
  | cons c cs ih =>
    have size := c.utf8Size_pos
    have tail := ih (passed + c.utf8Size)
    rw [Nat.add_assoc] at tail
    rw [List.cons_append, cutFrom, if_neg (by simp only [byteLength]; omega),
      if_neg (by simp only [byteLength]; omega), byteLength, tail]

/-- Behind the bytes of the first part there is the second. -/
theorem dropBytes_append (before behind : List Char) :
    dropBytes (byteLength before) (before ++ behind) = .ok behind := by
  have h := cutFrom_append .front 0 before behind
  rw [Nat.zero_add] at h
  rw [dropBytes, h]
  rfl

/-- Between the bytes of the first part and those of the first two there is the second. -/
theorem sliceBytes_append (before middle behind : List Char) :
    sliceBytes (byteLength before) (byteLength (before ++ middle)) (before ++ middle ++ behind) =
      .ok middle := by
  have hback := cutFrom_append .back (byteLength before) middle behind
  rw [sliceBytes, List.append_assoc, dropBytes_append, byteLength_append]
  show (cutFrom .back _ _ _).map Prod.fst = _
  rw [hback]
  rfl

end VmSupport.Text
