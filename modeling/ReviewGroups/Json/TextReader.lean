/-
Module: ReviewGroups.Json.TextReader
Purpose: Reading a quoted text of a JSON document, with its escapes.
Trusted boundary: none
Main exports: Json.simpleEscape?, Json.readText, Json.readText_shorter
-/
import ReviewGroups.Json.Fault
import ReviewGroups.Text.Hex
import ReviewGroups.Text.Utf16

namespace ReviewGroups.Json

/-- The character that a one-letter escape stands for. -/
def simpleEscape? (c : Char) : Option Char :=
  match c with
  | '"' => some '"'
  | '\\' => some '\\'
  | '/' => some '/'
  | 'b' => some '\x08'
  | 'f' => some '\x0c'
  | 'n' => some '\n'
  | 'r' => some '\r'
  | 't' => some '\t'
  | _ => none

/-- Put a character in front of the text that was read. -/
def prepend (c : Char) (reading : Except Fault (List Char × List Char)) :
    Except Fault (List Char × List Char) :=
  reading.map fun answer => (c :: answer.1, answer.2)

/-- Read the inside of a quoted text and its closing quote.  `opening` is the text from the opening
quote on, where a missing closing quote is reported.  A four-digit escape is only taken when some
character follows it. -/
def readText (opening : List Char) : List Char → Except Fault (List Char × List Char)
  | [] => .error ⟨.unterminatedText, opening⟩
  | '"' :: rest => .ok ([], rest)
  | '\\' :: 'u' :: digits =>
      match digits with
      | a :: b :: c :: d :: rest =>
          match rest, Text.Hex.unit? a b c d with
          | [], _ => .error ⟨.invalidUnicodeEscape, 'u' :: digits⟩
          | _ :: _, none => .error ⟨.invalidUnicodeEscape, 'u' :: digits⟩
          | '\\' :: 'u' :: e :: f :: g :: h :: next :: more, some unit =>
              if Text.Utf16.isHigh unit then
                match Text.Hex.unit? e f g h with
                | none =>
                    .error ⟨.invalidUnicodeEscape, 'u' :: e :: f :: g :: h :: next :: more⟩
                | some second =>
                    if Text.Utf16.isLow second then
                      prepend (Text.Utf16.join unit second) (readText opening (next :: more))
                    else
                      prepend (Text.Utf16.single unit)
                        (readText opening ('\\' :: 'u' :: e :: f :: g :: h :: next :: more))
              else
                prepend (Text.Utf16.single unit)
                  (readText opening ('\\' :: 'u' :: e :: f :: g :: h :: next :: more))
          | next :: more, some unit =>
              prepend (Text.Utf16.single unit) (readText opening (next :: more))
      | _ => .error ⟨.invalidUnicodeEscape, 'u' :: digits⟩
  | ['\\'] => .error ⟨.unterminatedText, opening⟩
  | '\\' :: c :: rest =>
      match simpleEscape? c with
      | some plain => prepend plain (readText opening rest)
      | none => .error ⟨.invalidEscape, '\\' :: c :: rest⟩
  | c :: rest =>
      if c.toNat < 0x20 then .error ⟨.controlCharacter, c :: rest⟩
      else prepend c (readText opening rest)


/-- A character is put in front of a text that was read, and of nothing else. -/
theorem prepend_eq_ok {c : Char} {reading : Except Fault (List Char × List Char)}
    {text rest : List Char} (read : prepend c reading = .ok (text, rest)) :
    ∃ tail, reading = .ok (tail, rest) ∧ text = c :: tail := by
  cases reading with
  | error fault => simp [prepend, Except.map] at read
  | ok answer =>
      simp only [prepend, Except.map, Except.ok.injEq, Prod.mk.injEq] at read
      exact ⟨answer.1, by rw [← read.2], read.1.symm⟩

/-- Reading a quoted text uses up at least its closing quote. -/
theorem readText_shorter {opening cs text rest : List Char}
    (read : readText opening cs = .ok (text, rest)) : rest.length < cs.length := by
  fun_induction readText opening cs generalizing text with
  | case2 =>
      simp only [Except.ok.injEq, Prod.mk.injEq] at read
      simp [read.2]
  | case6 | case7 | case8 | case9 | case12 | case15 =>
      rename_i inductionHypothesis
      obtain ⟨tail, inner, -⟩ := prepend_eq_ok read
      have := inductionHypothesis inner
      simp only [List.length_cons] at this ⊢
      omega
  | case1 | case3 | case4 | case5 | case10 | case11 | case13 | case14 => cases read

end ReviewGroups.Json
