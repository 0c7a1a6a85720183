/-
Module: ReviewGroups.Proofs.DocumentStart
Purpose: What may stand in front of a JSON value, what a value starts with, and that filler around a
  document makes no difference. The first character of a value decides which reader is used for it,
  so `opensValue` is a matter of one character; with it a text can be refused without being read.
  Used for bodies with a guard in front, and for bodies that are blank.
Trusted boundary: none
Main exports: Json.opensValue, Json.StartsValue, Json.startsValue_of_readValue,
  Json.parse_eq_ok_iff, Json.parse_append_filler, Json.parse_ne_ok_of_closed,
  Json.not_blank_of_parse
-/
import ReviewGroups.Json.Reader
import ReviewGroups.Text.Blank

namespace ReviewGroups.Json

variable {c : Char} {cs rest : List Char}

/-! ### Filler -/

theorem skip_filler {filler : List Char} (fills : filler.all isFiller = true) (cs : List Char) :
    skip (filler ++ cs) = skip cs :=
  List.dropWhile_append_of_pos (List.all_eq_true.1 fills)

theorem skip_cons (noFiller : isFiller c = false) (rest : List Char) :
    skip (c :: rest) = c :: rest := by
  simp [skip, noFiller]

private theorem isBlank_of_isFiller (filler : isFiller c = true) : Text.isBlank c = true := by
  simp only [isFiller, Bool.or_eq_true, beq_iff_eq] at filler
  rcases filler with ((rfl | rfl) | rfl) | rfl <;> decide

/-! ### What a value starts with -/

/-- A value starts with this character: a digit or a minus, a quote, a bracket or a brace that
opens, or the first letter of a word. -/
def opensValue (c : Char) : Bool :=
  c.isDigit || ['-', '"', '[', '\x7b', 'n', 't', 'f', 'N', 'I'].contains c

/-- A text starts with a character that starts a value. -/
def StartsValue (cs : List Char) : Prop :=
  ∃ c more, cs = c :: more ∧ opensValue c = true

private theorem not_blank_of_isDigit (digit : c.isDigit = true) : Text.isBlank c = false := by
  obtain ⟨least, greatest⟩ : 48 ≤ c.toNat ∧ c.toNat ≤ 57 := Char.isDigit_iff_toNat.1 digit
  simp only [Text.isBlank, Text.isSpace, Bool.or_eq_false_iff, Bool.and_eq_false_iff,
    decide_eq_false_iff_not, beq_eq_false_iff_ne]
  omega

/-- No value starts with a blank. -/
theorem not_blank_of_opensValue (opens : opensValue c = true) : Text.isBlank c = false := by
  simp only [opensValue, Bool.or_eq_true, List.contains_iff_mem, List.mem_cons,
    List.not_mem_nil, or_false] at opens
  rcases opens with digit | rfl | rfl | rfl | rfl | rfl | rfl | rfl | rfl | rfl
  · exact not_blank_of_isDigit digit
  all_goals decide

private theorem isFiller_of_opensValue (opens : opensValue c = true) : isFiller c = false := by
  cases filler : isFiller c with
  | false => rfl
  | true => exact absurd (isBlank_of_isFiller filler) (by rw [not_blank_of_opensValue opens]; simp)

theorem StartsValue.skip_append (starts : StartsValue cs) (rest : List Char) :
    skip (cs ++ rest) = cs ++ rest := by
  obtain ⟨c, more, rfl, opens⟩ := starts
  exact skip_cons (isFiller_of_opensValue opens) (more ++ rest)

private theorem startsValue_of_readWord? {parsed : Parsed Json cs}
    (read : readWord? cs = some parsed) :
    StartsValue cs := by
  unfold readWord? at read
  split at read
  case h_7 => cases read
  all_goals exact ⟨_, _, rfl, by decide⟩

/-- A number starts with a digit or a minus. -/
theorem startsValue_of_scan? {form : NumberForm}
    (found : NumberForm.scan? cs = some (form, rest)) : StartsValue cs := by
  obtain ⟨⟨whole, after⟩, wholeFound, -⟩ := Option.map_eq_some_iff.1 found
  unfold NumberForm.scanSign at wholeFound
  split at wholeFound
  next => exact ⟨'-', _, rfl, by decide⟩
  next =>
    cases cs with
    | nil => cases wholeFound
    | cons c tail =>
        refine ⟨c, tail, rfl, ?_⟩
        unfold NumberForm.scanWhole? at wholeFound
        split at wholeFound
        next zero =>
          cases zero
          decide
        next same =>
          cases same
          split at wholeFound
          next digit => rw [opensValue, digit, Bool.true_or]
          next => cases wholeFound
        next none => cases none

/-- What is read as a value starts like one. -/
theorem startsValue_of_readValue {parsed : Parsed Json cs} (read : readValue cs = .ok parsed) :
    StartsValue cs := by
  unfold readValue at read
  split at read
  next => exact ⟨'"', _, rfl, by decide⟩
  next => exact ⟨'[', _, rfl, by decide⟩
  next => exact ⟨'\x7b', _, rfl, by decide⟩
  next =>
    split at read
    next word => exact startsValue_of_readWord? word
    next =>
      unfold readNumber at read
      split at read
      next => cases read
      next found => exact startsValue_of_scan? found

/-! ### Documents -/

/-- A document is a value with filler around it.  The mark that is refused in front of a document
starts no value, so refusing it takes no value away. -/
theorem parse_eq_ok_iff {s : String} {value : Json} :
    parse s = .ok value ↔
      ∃ parsed, readValue (skip s.toList) = .ok parsed ∧ skip parsed.rest = [] ∧
        parsed.value = value := by
  unfold parse
  dsimp only
  constructor
  · intro read
    split at read
    next => cases read
    next =>
      split at read
      next => cases read
      next parsed first =>
        split at read
        next ended => exact ⟨parsed, first, ended, Except.ok.inj read⟩
        next => cases read
  · rintro ⟨parsed, first, ended, same⟩
    have unmarked : s.toList.head? ≠ some byteOrderMark := by
      intro mark
      obtain ⟨more, whole⟩ := List.head?_eq_some_iff.1 mark
      obtain ⟨c, others, starts, opens⟩ := startsValue_of_readValue first
      rw [whole, skip_cons (by decide : isFiller byteOrderMark = false)] at starts
      rw [← (List.cons.inj starts).1] at opens
      exact absurd opens (by decide)
    rw [if_neg unmarked, first]
    dsimp only
    rw [ended, same]

/-- Filler in front of a document makes no difference. -/
theorem parse_append_filler {filler : List Char} (fills : filler.all isFiller = true) {t : String}
    {value : Json} :
    parse (String.ofList filler ++ t) = .ok value ↔ parse t = .ok value := by
  rw [parse_eq_ok_iff, parse_eq_ok_iff, String.toList_append, String.toList_ofList,
    skip_filler fills]

/-- No value starts behind characters that start none, if the last of them is no filler. -/
theorem not_startsValue_skip {front : List Char} (closed : ∀ d ∈ front, opensValue d = false)
    (noFiller : isFiller c = false) (closedToo : opensValue c = false) :
    ¬ StartsValue (skip (front ++ c :: rest)) := by
  induction front with
  | nil =>
      rw [List.nil_append, skip_cons noFiller]
      rintro ⟨first, more, starts, opens⟩
      rw [← (List.cons.inj starts).1, closedToo] at opens
      cases opens
  | cons d front inductionHypothesis =>
      obtain ⟨here, there⟩ := List.forall_mem_cons.1 closed
      rw [List.cons_append]
      cases filler : isFiller d with
      | true =>
          have passed : skip (d :: (front ++ c :: rest)) = skip (front ++ c :: rest) := by
            rw [skip, List.dropWhile_cons_of_pos filler]
            rfl
          rw [passed]
          exact inductionHypothesis there
      | false =>
          rw [skip_cons filler]
          rintro ⟨first, more, starts, opens⟩
          rw [← (List.cons.inj starts).1, here] at opens
          cases opens

/-- A text is no document when all characters up to one that is no filler start no value. -/
theorem parse_ne_ok_of_closed {front : List Char} (closed : ∀ d ∈ front, opensValue d = false)
    (noFiller : isFiller c = false) (closedToo : opensValue c = false) {s : String}
    (whole : s.toList = front ++ c :: rest) (value : Json) : parse s ≠ .ok value := by
  intro read
  obtain ⟨parsed, first, -⟩ := parse_eq_ok_iff.1 read
  have starts := startsValue_of_readValue first
  rw [whole] at starts
  exact not_startsValue_skip closed noFiller closedToo starts

/-- A text that is read has a character that is not blank. -/
theorem not_blank_of_parse {s : String} {value : Json} (read : parse s = .ok value) :
    ∃ c ∈ s.toList, Text.isBlank c = false := by
  obtain ⟨parsed, first, -⟩ := parse_eq_ok_iff.1 read
  obtain ⟨c, rest, starts, opens⟩ := startsValue_of_readValue first
  refine ⟨c, (List.dropWhile_sublist isFiller).subset ?_, not_blank_of_opensValue opens⟩
  change c ∈ skip s.toList
  rw [starts]
  exact List.mem_cons_self

end ReviewGroups.Json
