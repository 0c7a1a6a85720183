/-
Module: ReviewGroups.Proofs.FormCode
Purpose: Pairs that are written as a query string are read back as they were, and what a query
  string of pairs can consist of. Reading is what a server does with a query: cut it at the marks,
  read plus signs as blanks, and decode escapes; blank values are kept. That a query consists of
  characters which stay in an address keeps later steps from escaping it again.
Trusted boundary: none
Main exports: Form.decodeText_encodeText, Form.decodePair_encodePair, Form.decode_encode,
  Form.queryStays_of_mem_encode
-/
import ReviewGroups.Proofs.AppendedPath
import ReviewGroups.Url.Form

namespace ReviewGroups

namespace Text

theorem cutAt_append {mark : Char} {before : List Char} (first : mark ∉ before)
    (after : List Char) : cutAt mark (before ++ mark :: after) = some (before, after) :=
  cutAt_eq_some_iff.2 ⟨first, rfl⟩

end Text

namespace Url.Form

open Text

variable {c : Char} {s : String} {pairs : List (String × String)}

/-! ### Names and values -/

private theorem mem_encodeText (present : c ∈ encodeText s) :
    c = '+' ∨ c = '%' ∨ Percent.isUnreserved c = true := by
  obtain ⟨d, -, present⟩ := List.mem_flatMap.1 present
  split at present
  · exact .inl (List.mem_singleton.1 present)
  · right
    split at present
    next plain =>
      rw [List.mem_singleton.1 present]
      exact .inr plain
    next => exact Percent.mem_escapeChar present

/-- With spaces for plus signs, a name or a value is a text in which all but spaces and the
characters that need no escape are escaped. -/
theorem map_encodeText (s : String) :
    ((encodeText s).map fun c => if c = '+' then ' ' else c) =
      Percent.encode (fun c => c == ' ' || Percent.isUnreserved c) s.toList := by
  have kept {cs : List Char} (noPlus : '+' ∉ cs) :
      (cs.map fun c => if c = '+' then ' ' else c) = cs := by
    refine (List.map_congr_left ?_).trans (List.map_id cs)
    intro c present
    have other : c ≠ '+' := by
      rintro rfl
      exact noPlus present
    exact if_neg other
  unfold encodeText Percent.encode
  rw [List.map_flatMap]
  congr 1
  funext c
  by_cases space : c = ' '
  · simp [space]
  · by_cases plain : Percent.isUnreserved c = true
    · have other : c ≠ '+' := by
        rintro rfl
        exact absurd plain (by decide)
      simp [space, plain, other]
    · have noPlus : '+' ∉ Percent.escapeChar c := by
        intro present
        rcases Percent.mem_escapeChar present with percent | plain
        · exact absurd percent (by decide)
        · exact absurd plain (by decide)
      simp [space, plain, kept noPlus]

/-- A name or a value is read back as it was. -/
theorem decodeText_encodeText (s : String) : decodeText (encodeText s) = s := by
  rw [decodeText, map_encodeText, Percent.decode_encode (by decide), String.ofList_toList]

private theorem not_mem_encodeText {mark : Char}
    (reserved : mark ≠ '+' ∧ mark ≠ '%' ∧ Percent.isUnreserved mark = false) :
    mark ∉ encodeText s := by
  intro present
  rcases mem_encodeText present with plus | percent | plain
  · exact reserved.1 plus
  · exact reserved.2.1 percent
  · rw [reserved.2.2] at plain
    cases plain

/-! ### Pairs -/

/-- A pair is read back as it was. -/
theorem decodePair_encodePair (pair : String × String) : decodePair (encodePair pair) = pair := by
  have noMark : '=' ∉ encodeText pair.1 := not_mem_encodeText (by decide)
  unfold decodePair encodePair
  rw [cutAt_append noMark]
  simp only [decodeText_encodeText]

/-- A pair consists of plus signs, percent signs, characters that need no escape and the mark
between its name and its value. -/
private theorem mem_encodePair {pair : String × String} (present : c ∈ encodePair pair) :
    c = '=' ∨ c = '+' ∨ c = '%' ∨ Percent.isUnreserved c = true := by
  rcases List.mem_append.1 present with name | rest
  · exact .inr (mem_encodeText name)
  · rcases List.mem_cons.1 rest with mark | value
    · exact .inl mark
    · exact .inr (mem_encodeText value)

private theorem encodePair_ne_nil (pair : String × String) : encodePair pair ≠ [] :=
  List.append_ne_nil_of_right_ne_nil _ (List.cons_ne_nil _ _)

private theorem splitAt_encode (some : pairs ≠ []) :
    Text.splitAt '&' (encode pairs) = pairs.map encodePair := by
  rw [splitAt_eq_splitOn, encode, List.splitOn_intercalate]
  · intro piece present
    obtain ⟨pair, -, rfl⟩ := List.mem_map.1 present
    intro inside
    rcases mem_encodePair inside with equals | plus | percent | plain
    · exact absurd equals (by decide)
    · exact absurd plus (by decide)
    · exact absurd percent (by decide)
    · exact absurd plain (by decide)
  · simpa using some

/-- Pairs that are written as a query string are read back as they were, in order. -/
theorem decode_encode (pairs : List (String × String)) : decode (encode pairs) = pairs := by
  by_cases none : pairs = []
  · subst none
    rfl
  · have written : ((pairs.map encodePair).filter fun piece => !piece.isEmpty) =
        pairs.map encodePair := by
      rw [List.filter_eq_self]
      intro piece present
      obtain ⟨pair, -, rfl⟩ := List.mem_map.1 present
      simp [encodePair_ne_nil]
    unfold decode
    rw [splitAt_encode none, written, List.map_map]
    exact List.map_id'' decodePair_encodePair pairs

/-! ### Query strings inside addresses -/

private theorem mem_encode_cases (present : c ∈ encode pairs) :
    c = '&' ∨ ∃ pair ∈ pairs, c ∈ encodePair pair := by
  rcases mem_intercalate present with mark | ⟨piece, there, inside⟩
  · exact .inl mark
  · obtain ⟨pair, isPair, rfl⟩ := List.mem_map.1 there
    exact .inr ⟨pair, isPair, inside⟩

/-- Nothing in a query string of pairs needs an escape in an address. -/
theorem queryStays_of_mem_encode (present : c ∈ encode pairs) : queryStays c = true := by
  rcases mem_encode_cases present with rfl | ⟨pair, -, inside⟩
  · decide
  · rcases mem_encodePair inside with rfl | rfl | rfl | plain
    · decide
    · decide
    · decide
    · exact (Bool.and_eq_true_iff.1 (pathStays_of_isUnreserved plain)).1

end Url.Form

end ReviewGroups
