/-
Module: ReviewGroups.Proofs.PlainText
Purpose: Quoted texts of characters that need no escape are written with their characters as they
  are, and an object with a single member of that kind is read back. For samples: with it the answer
  of a server can be written down and is known to be read.
Trusted boundary: none
Main exports: Json.IsPlain, Json.writeText_of_isPlain, Json.parse_singleText
-/
import ReviewGroups.Proofs.WrittenJson

namespace ReviewGroups.Json

/-- A character stands for itself inside a quoted text. -/
def IsPlain (c : Char) : Prop :=
  c ≠ '"' ∧ c ≠ '\\' ∧ 0x20 ≤ c.toNat

variable {cs name : List Char}

private theorem escapeChar_of_isPlain {c : Char} (plain : IsPlain c) : escapeChar c = [c] := by
  obtain ⟨noQuote, noEscape, printable⟩ := plain
  unfold escapeChar
  split
  case h_1 => exact absurd rfl noQuote
  case h_2 => exact absurd rfl noEscape
  case h_8 => exact if_neg (Nat.not_lt.2 printable)
  all_goals exact absurd printable (by decide)

/-- A text of plain characters is written with its characters as they are. -/
theorem writeText_of_isPlain (plain : ∀ c ∈ cs, IsPlain c) :
    writeText (String.ofList cs) = '"' :: (cs ++ ['"']) := by
  have same : cs.flatMap escapeChar = cs := by
    induction cs with
    | nil => rfl
    | cons c cs inductionHypothesis =>
        rw [List.forall_mem_cons] at plain
        rw [List.flatMap_cons, escapeChar_of_isPlain plain.1, inductionHypothesis plain.2,
          List.singleton_append]
  rw [writeText, String.toList_ofList, same, List.cons_append]

/-- An object with a single member, a text, is read as it is written. -/
theorem parse_singleText (plainName : ∀ c ∈ name, IsPlain c) (plain : ∀ c ∈ cs, IsPlain c) :
    parse (String.ofList ('\x7b' :: '"' :: (name ++ '"' :: ':' :: '"' :: (cs ++ ['"', '\x7d'])))) =
      .ok (.object [(String.ofList name, .text (String.ofList cs))]) := by
  have written : String.ofList
      ('\x7b' :: '"' :: (name ++ '"' :: ':' :: '"' :: (cs ++ ['"', '\x7d']))) =
        render compact (.object [(String.ofList name, .text (String.ofList cs))]) := by
    simp [render, write, writeMembers, writeText_of_isPlain plainName, writeText_of_isPlain plain,
      compact]
  rw [written]
  refine parse_render compact_isPlain (.object (List.nodup_singleton _) ?_)
  simp [IsExact.text]

end ReviewGroups.Json
