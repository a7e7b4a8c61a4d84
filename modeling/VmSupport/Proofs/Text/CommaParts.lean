import Mathlib.Data.String.Basic

/-!
# A text cut at its commas

Cutting a text goes along its bytes and keeps positions. Here it is described by its characters: the
parts are those of the list of characters, cut at the commas (`splitOn_comma`).
-/

namespace VmSupport.Text

open String (utf8Len)
open String.Pos (Raw)

/-- The comma, as a separator, is passed in one step. -/
theorem comma_passed : Raw.get "," 0 = ',' ∧ Raw.next "," 0 = ⟨1⟩ ∧ Raw.atEnd "," ⟨1⟩ = true := by
  refine ⟨String.get_of_valid [] [','], String.next_of_valid [] ',' [], ?_⟩
  exact (String.atEnd_of_valid [','] []).mpr rfl

/-- The loop of the cutting, in the middle of a text: the parts so far are done, and of the present one
some characters are passed. -/
theorem splitOnAux_comma (front part rest : List Char) (parts : List String) :
    (String.ofList (front ++ part ++ rest)).splitOnAux "," ⟨utf8Len front⟩
        ⟨utf8Len front + utf8Len part⟩ 0 parts =
      parts.reverse ++ (rest.splitOnPPrepend (· == ',') part.reverse).map String.ofList := by
  induction rest generalizing front part parts with
  | nil =>
    have hend := String.atEnd_of_valid (front ++ part) []
    have hpart := String.extract_of_valid front part []
    rw [String.utf8Len_append] at hend
    rw [String.splitOnAux, if_pos (hend.mpr rfl), hpart, List.splitOnPPrepend_nil,
      List.reverse_reverse, List.reverse_cons]
    rfl
  | cons c rest ih =>
    obtain ⟨hcomma, hpassed, hover⟩ := comma_passed
    have hend := String.atEnd_of_valid (front ++ part) (c :: rest)
    have hget := String.get_of_valid (front ++ part) (c :: rest)
    have hnext := String.next_of_valid (front ++ part) c rest
    have hpart := String.extract_of_valid front part (c :: rest)
    rw [String.utf8Len_append] at hend hget hnext
    have hsame : Raw.unoffsetBy ⟨utf8Len front + utf8Len part⟩ 0 =
        ⟨utf8Len front + utf8Len part⟩ := rfl
    rw [String.splitOnAux, if_neg (mt hend.mp (List.cons_ne_nil _ _))]
    simp only [hget, hcomma, hpassed, hover, hnext, hsame, List.headD_cons, if_true, beq_iff_eq]
    by_cases hc : c = ','
    · subst hc
      have hback : Raw.unoffsetBy ⟨utf8Len front + utf8Len part + ','.utf8Size⟩ ⟨1⟩ =
          ⟨utf8Len front + utf8Len part⟩ := rfl
      have hsplit := ih (front ++ part ++ [',']) [] (String.ofList part :: parts)
      simp only [List.append_nil, List.append_assoc, List.singleton_append, List.reverse_cons,
        List.reverse_nil, List.splitOnPPrepend_nil_right, String.utf8Len_append,
        String.utf8Len_cons, String.utf8Len_nil, Nat.zero_add, Nat.add_zero,
        ← Nat.add_assoc] at hsplit
      rw [if_pos rfl, hback, hpart, List.splitOnPPrepend_cons_eq_if,
        if_pos (beq_self_eq_true _), List.reverse_reverse, List.append_assoc]
      exact hsplit
    · have hsplit := ih front (part ++ [c]) parts
      simp only [List.append_assoc, List.singleton_append, List.reverse_append, List.reverse_cons,
        List.reverse_nil, List.nil_append, String.utf8Len_append, String.utf8Len_cons,
        String.utf8Len_nil, Nat.zero_add, ← Nat.add_assoc] at hsplit
      rw [if_neg hc, List.splitOnPPrepend_cons_eq_if, if_neg (mt beq_iff_eq.mp hc),
        List.append_assoc]
      exact hsplit

/-- **A text cut at its commas** is cut where its characters are. -/
theorem splitOn_comma (s : String) :
    s.splitOn "," = (s.toList.splitOn ',').map String.ofList := by
  have hsplit := splitOnAux_comma [] [] s.toList []
  rw [List.append_nil, List.nil_append, String.ofList_toList] at hsplit
  exact hsplit

theorem map_toList_splitOn_comma (s : String) :
    (s.splitOn ",").map String.toList = s.toList.splitOn ',' := by
  simp only [splitOn_comma, List.map_map, Function.comp_def, String.toList_ofList, List.map_id']

end VmSupport.Text
