/-
Module: ReviewGroups.Json.Reader
Purpose: Reading a JSON document, with the place and the kind of its first flaw.
Trusted boundary: none
Main exports: Parsed, Json.skip, Json.readWord?, Json.readValue, Json.readItems, Json.readMembers,
  Json.parse
-/
import ReviewGroups.Json.NumberReader
import ReviewGroups.Json.TextReader

namespace ReviewGroups

/-- What reading the start of a text answers: a value, and what follows it, which is shorter. -/
structure Parsed (α : Type) (cs : List Char) where
  value : α
  rest : List Char
  shorter : rest.length < cs.length

namespace Parsed

/-- Change the value, and see the answer from an earlier place. -/
def widen {α β : Type} {near far : List Char} (parsed : Parsed α near) (f : α → β)
    (later : near.length ≤ far.length) : Parsed β far :=
  ⟨f parsed.value, parsed.rest, Nat.lt_of_lt_of_le parsed.shorter later⟩

end Parsed

namespace Json

/-- The characters between tokens. -/
def isFiller (c : Char) : Bool :=
  c == ' ' || c == '\t' || c == '\n' || c == '\r'

/-- Pass over filler. -/
def skip (cs : List Char) : List Char :=
  cs.dropWhile isFiller

/-- Skipping blanks makes no text longer. -/
theorem skip_length_le (cs : List Char) : (skip cs).length ≤ cs.length :=
  (List.dropWhile_sublist isFiller).length_le

/-- The words that are values of their own. -/
def readWord? (cs : List Char) : Option (Parsed Json cs) :=
  match cs with
  | 'n' :: 'u' :: 'l' :: 'l' :: rest => some ⟨.null, rest, by simp +arith⟩
  | 't' :: 'r' :: 'u' :: 'e' :: rest => some ⟨.bool true, rest, by simp +arith⟩
  | 'f' :: 'a' :: 'l' :: 's' :: 'e' :: rest => some ⟨.bool false, rest, by simp +arith⟩
  | 'N' :: 'a' :: 'N' :: rest => some ⟨.float Binary64.nan, rest, by simp +arith⟩
  | 'I' :: 'n' :: 'f' :: 'i' :: 'n' :: 'i' :: 't' :: 'y' :: rest =>
      some ⟨.float (Binary64.infinity false), rest, by simp +arith⟩
  | '-' :: 'I' :: 'n' :: 'f' :: 'i' :: 'n' :: 'i' :: 't' :: 'y' :: rest =>
      some ⟨.float (Binary64.infinity true), rest, by simp +arith⟩
  | _ => none

/-- A number at the start of a text. -/
def readNumber (cs : List Char) : Except Fault (Parsed Json cs) :=
  match found : NumberForm.scan? cs with
  | none => .error ⟨.expectingValue, cs⟩
  | some (form, rest) =>
      match form.value with
      | .error flaw => .error ⟨flaw, cs⟩
      | .ok value => .ok ⟨value, rest, NumberForm.scan?_shorter found⟩

/-- A quoted text at the start of a text; `flaw` says what is missing when none starts there. -/
def readQuoted (flaw : Flaw) (cs : List Char) : Except Fault (Parsed String cs) :=
  match cs with
  | '"' :: inner =>
      match read : readText ('"' :: inner) inner with
      | .error fault => .error fault
      | .ok (body, rest) =>
          .ok ⟨String.ofList body, rest, by
            have := readText_shorter read
            simp only [List.length_cons]
            omega⟩
  | _ => .error ⟨flaw, cs⟩

/-- The mark `mark`, after filler. -/
def readMark (mark : Char) (flaw : Flaw) (cs : List Char) : Except Fault (Parsed Unit cs) :=
  match skipped : skip cs with
  | [] => .error ⟨flaw, []⟩
  | c :: rest =>
      if c = mark then
        .ok ⟨(), rest, by
          have := skip_length_le cs
          rw [skipped, List.length_cons] at this
          omega⟩
      else .error ⟨flaw, c :: rest⟩

mutual

/-- Read a value at the start of a text. -/
def readValue (cs : List Char) : Except Fault (Parsed Json cs) :=
  match cs with
  | '"' :: body =>
      (readQuoted .expectingValue ('"' :: body)).map (·.widen .text (Nat.le_refl _))
  | '[' :: inner =>
      match skipped : skip inner with
      | ']' :: rest =>
          .ok ⟨.list [], rest, by
            have := skip_length_le inner
            rw [skipped] at this
            simp only [List.length_cons] at this ⊢
            omega⟩
      | _ =>
          (readItems (skip inner)).map fun parsed => parsed.widen .list (by
            have := skip_length_le inner
            simp only [List.length_cons]
            omega)
  | '\x7b' :: inner =>
      match skipped : skip inner with
      | '\x7d' :: rest =>
          .ok ⟨.object [], rest, by
            have := skip_length_le inner
            rw [skipped] at this
            simp only [List.length_cons] at this ⊢
            omega⟩
      | _ =>
          (readMembers (skip inner)).map fun parsed =>
            parsed.widen (fun pairs => .object (Keyed.ofPairs pairs)) (by
              have := skip_length_le inner
              simp only [List.length_cons]
              omega)
  | cs =>
      match readWord? cs with
      | some parsed => .ok parsed
      | none => readNumber cs
termination_by (cs.length, 0)
decreasing_by
  all_goals
    have := skip_length_le inner
    simp only [Prod.lex_def, List.length_cons]
    omega

/-- Read values with commas between them, up to the closing bracket. -/
def readItems (cs : List Char) : Except Fault (Parsed (List Json) cs) :=
  match readValue cs with
  | .error fault => .error fault
  | .ok first =>
      match readMark ']' .expectingComma first.rest with
      | .ok closing =>
          .ok ⟨[first.value], closing.rest, Nat.lt_trans closing.shorter first.shorter⟩
      | .error _ =>
          match readMark ',' .expectingComma first.rest with
          | .error fault => .error fault
          | .ok comma =>
              (readItems (skip comma.rest)).map fun others =>
                others.widen (first.value :: ·) (by
                  have := skip_length_le comma.rest
                  have := comma.shorter
                  have := first.shorter
                  omega)
termination_by (cs.length, 1)
decreasing_by
  · simp [Prod.lex_def]
  · have := skip_length_le comma.rest
    have := comma.shorter
    have := first.shorter
    simp only [Prod.lex_def]
    omega

/-- Read names, colons and values with commas between them, up to the closing brace.  Repeated names
are all kept here. -/
def readMembers (cs : List Char) : Except Fault (Parsed (List (String × Json)) cs) :=
  match readQuoted .expectingName cs with
  | .error fault => .error fault
  | .ok name =>
      match readMark ':' .expectingColon name.rest with
      | .error fault => .error fault
      | .ok colon =>
          match readValue (skip colon.rest) with
          | .error fault => .error fault
          | .ok value =>
              match readMark '\x7d' .expectingComma value.rest with
              | .ok closing =>
                  .ok ⟨[(name.value, value.value)], closing.rest, by
                    have := skip_length_le colon.rest
                    have := name.shorter
                    have := colon.shorter
                    have := value.shorter
                    have := closing.shorter
                    omega⟩
              | .error _ =>
                  match readMark ',' .expectingComma value.rest with
                  | .error fault => .error fault
                  | .ok comma =>
                      (readMembers (skip comma.rest)).map fun others =>
                        others.widen ((name.value, value.value) :: ·) (by
                          have := skip_length_le comma.rest
                          have := skip_length_le colon.rest
                          have := name.shorter
                          have := colon.shorter
                          have := value.shorter
                          have := comma.shorter
                          omega)
termination_by (cs.length, 1)
decreasing_by
  · have := skip_length_le colon.rest
    have := name.shorter
    have := colon.shorter
    simp only [Prod.lex_def]
    omega
  · have := skip_length_le comma.rest
    have := skip_length_le colon.rest
    have := name.shorter
    have := colon.shorter
    have := value.shorter
    have := comma.shorter
    simp only [Prod.lex_def]
    omega

end

/-- The mark that may not stand before a document. -/
def byteOrderMark : Char := Char.ofNat 0xFEFF

/-- Read a document: one value with filler around it, and nothing else.

Nesting is not bounded.  A reader whose call stack is bounded gives up at 995 brackets inside one
another or soon after, with a failure of its own that is no `Fault`; nothing is said here of what
such a reader does from there on. -/
def parse (s : String) : Except Fault Json :=
  let cs := s.toList
  if cs.head? = some byteOrderMark then .error ⟨.byteOrderMark, cs⟩
  else
    match readValue (skip cs) with
    | .error fault => .error fault
    | .ok parsed =>
        match skip parsed.rest with
        | [] => .ok parsed.value
        | rest => .error ⟨.extraData, rest⟩

end Json

end ReviewGroups
