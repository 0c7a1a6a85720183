/-
Module: ReviewGroups.Charset.Iso2022
Purpose: Character sets in seven bits, in which escape sequences switch between tables.
Trusted boundary: the list of Greek letters
Main exports: Iso2022.Table, Iso2022.Form, Iso2022.read, Iso2022.refusal?, Charset.switched
-/
import ReviewGroups.Charset.Chinese
import ReviewGroups.Charset.Japanese
import ReviewGroups.Charset.Korean

namespace ReviewGroups.Charset

namespace Iso2022

/-- The tables that an escape sequence can put in place. -/
inductive Table where
  | ascii
  | roman
  | kana
  | latin
  | greek
  | jis0208
  | jis0212
  | jis0213 (year : JisYear)
  | jis0213Second
  | korean
  | national
deriving Repr, Inhabited, DecidableEq

/-- How a table is called in an escape sequence: by the last byte of the sequence, and whether its
characters are written in two bytes. -/
structure Mark where
  final : Nat
  double : Bool
deriving Repr, Inhabited, DecidableEq

/-- One form: the tables that it has, whether bytes shift between two tables, whether single
characters can come from a third one, and whether sequences can be announced by another one. -/
structure Form where
  tables : List (Mark × Table)
  shifts : Bool
  third : Bool
  announced : Bool
deriving Repr, Inhabited, DecidableEq

/-- The table with a mark.  ASCII is part of every form. -/
def Form.table? (form : Form) (mark : Mark) : Option Table :=
  if mark = ⟨0x42, false⟩ then some .ascii else form.tables.lookup mark

/-- The tables in place, whether the second one is shifted to, and whether a sequence of no known
kind is passing through. -/
structure State where
  first : Table
  second : Table
  third : Table
  shifted : Bool
  passing : Bool
deriving Repr, Inhabited, DecidableEq

/-- The state before all bytes. -/
def State.start : State := ⟨.ascii, .ascii, .ascii, false, false⟩

/-- The bytes that end an escape sequence. -/
def isFinal (b : Nat) : Bool :=
  0x40 ≤ b && b ≤ 0x5A

/-- How far an escape sequence reaches. -/
inductive Extent where
  | length (bytes : Nat)
  | cutOff
  | endless
deriving Repr, Inhabited, DecidableEq

/-- The most bytes of an escape sequence. -/
def longest : Nat := 16

/-- How far an escape sequence reaches, of which `seen` bytes were looked at.  An announcement ends
like a sequence, but another sequence follows it. -/
def extent (announced : Bool) (seen : Nat) : List Nat → Extent
  | [] => if longest ≤ seen then .endless else .cutOff
  | b :: rest =>
      if longest ≤ seen then .endless
      else if isFinal b then .length (seen + 1)
      else if announced && b = 0x26 && rest.head? = some 0x40 then
        extent announced (seen + 3) (rest.drop 2)
      else extent announced (seen + 1) rest
termination_by bytes => bytes.length
decreasing_by all_goals simp only [List.length_drop, List.length_cons]; omega

/-- The place that a byte of an escape sequence names for a table. -/
def place? (form : Form) (state : State) (b : Nat) : Option (Table → State) :=
  if b = 0x28 then some fun table => { state with first := table }
  else if b = 0x29 then some fun table => { state with second := table }
  else if form.third && b = 0x2E then some fun table => { state with third := table }
  else none

/-- The state after an escape sequence, given the bytes after its first one. -/
def designated? (form : Form) (state : State) : List Nat → Option State
  | [0x24, final] => (form.table? ⟨final, true⟩).map fun table => { state with first := table }
  | [b, final] => do
      let place ← place? form state b
      let table ← form.table? ⟨final, false⟩
      pure (place table)
  | [0x24, b, final] => do
      let place ← if b = 0x2E then none else place? form state b
      let table ← form.table? ⟨final, true⟩
      pure (place table)
  | [_, _, 0x1B, 0x24, 0x42] =>
      if form.announced then
        (form.table? ⟨0x42, true⟩).map fun table => { state with first := table }
      else none
  | _ => none

/-- Greek letters, by bytes of which the highest bit is set. -/
def greekCodes : CodeList := .ofRows [
    "0-A0=0 A1-A2=2018 A3=A3 A6-A9=A6 AB-AD=AB AF=2015 B0-B3=B0 B4-B6=384 B7=B7 B8-BA=388 BB=BB",
    "BC=38C BD=BD BE-D1=38E D3-FE=3A3"]

/-- The piece of a single byte from the third table, after an escape and a letter.  Only some tables
can be read from there. -/
def thirdPiece (state : State) (b : Nat) : Piece State Char :=
  let found :=
    match state.third with
    | .ascii => some (if b < 0x80 then some [Char.ofNat b] else none)
    | .latin => some (if b < 0x80 then some [Char.ofNat (b + 0x80)] else none)
    | .greek => some (greekCodes.text? ((b + 0x80) % 0x100))
    | _ => none
  match found with
  | some (some cs) => .found cs 3 state
  | some none => .malformed 3
  | none => .stuck

/-- The piece in front of bytes that start with an escape, given the bytes after it. -/
def escapePiece (form : Form) (state : State) (rest : List Nat) : Piece State Char :=
  match rest with
  | [] => .cutOff
  | b :: others =>
      if b = 0x28 ∨ b = 0x29 ∨ b = 0x24 ∨ b = 0x2E ∨ b = 0x26 then
        match extent form.announced 1 rest with
        | .cutOff => .cutOff
        | .endless => .malformed 1
        | .length taken =>
            match designated? form state (rest.take (taken - 1)) with
            | some next => .found [] taken next
            | none => .malformed taken
      else if form.third && b = 0x4E then
        match others with
        | [] => .cutOff
        | c :: _ => thirdPiece state c
      else .found [Char.ofNat 0x1B] 1 { state with passing := true }

/-- How a table reads single bytes, or else pairs. -/
def Table.reader : Table → (Nat → Option (List Char)) ⊕ (Nat → Nat → Option (List Char))
  | .ascii => .inl fun b => some [Char.ofNat b]
  | .roman => .inl fun b => (romanChar? b).map fun c => [c]
  | .kana => .inl fun b => (kanaChar? (b + 0x80)).map fun c => [c]
  | .latin | .greek => .inl fun _ => none
  | .jis0208 => .inr jis0208Text?
  | .jis0212 => .inr jis0212Text?
  | .jis0213 year => .inr fun first second =>
      if first = 0x22 ∧ second = 0x32 then some ['~'] else jis0213Text? year first second
  | .jis0213Second => .inr (jis0213SecondText? .latter)
  | .korean => .inr koreanText?
  | .national => .inr fun first second => nationalText? (first + 0x80) (second + 0x80)

/-- The piece in front of bytes that a table reads. -/
def tablePiece (table : Table) (state : State) (bytes : List Nat) : Piece State Char :=
  match table.reader, bytes with
  | _, [] => .cutOff
  | .inl single?, b :: _ =>
      match single? b with
      | some cs => .found cs 1 state
      | none => .malformed 1
  | .inr _, [_] => .cutOff
  | .inr pair?, first :: second :: _ =>
      match pair? first second with
      | some cs => .found cs 2 state
      | none => .malformed 2

/-- The piece in front of bytes. -/
def piece (form : Form) (state : State) : List Nat → Piece State Char
  | [] => .cutOff
  | b :: rest =>
      if state.passing then .found [Char.ofNat b] 1 { state with passing := !isFinal b }
      else if b = 0x1B then escapePiece form state rest
      else if form.shifts && b = 0x0E then .found [] 1 { state with shifted := true }
      else if form.shifts && b = 0x0F then .found [] 1 { state with shifted := false }
      else if b = 0x0A then .found [Char.ofNat b] 1 { state with shifted := false }
      else if b < 0x20 then .found [Char.ofNat b] 1 state
      else if 0x80 ≤ b then .malformed 1
      else tablePiece (if state.shifted then state.second else state.first) state (b :: rest)

/-- Read bytes in a form. -/
def read (form : Form) (bytes : List UInt8) : Units :=
  (readPieces (piece form) .start (numbers bytes)).units

/-- The most bytes that may wait for the rest of a sequence. -/
def waitingLimit : Nat := 8

/-- Why bytes are not read at all in a form. -/
def refusal? (form : Form) (bytes : List UInt8) : Option Fault :=
  match (readPieces (piece form) .start (numbers bytes)).ending with
  | .whole => none
  | .cutOff left => if waitingLimit < left then some .overfull else none
  | .stuck => some .tableMissing

/-- The character set of a form. -/
def Form.charset (form : Form) (name : String) (aliases : List String) : Charset where
  names := [name]
  aliases := aliases
  read := read form
  refusal? := refusal? form

/-- A form for Japanese, with JIS X 0208 first. -/
def japaneseForm (others : List (Mark × Table)) : Form :=
  { tables := (⟨0x42, true⟩, .jis0208) :: others
    shifts := false
    third := false
    announced := true }

/-- The Japanese form of ASCII, and the former name of JIS X 0208. -/
def romanTables : List (Mark × Table) :=
  [(⟨0x4A, false⟩, .roman), (⟨0x40, true⟩, .jis0208)]

/-- JIS X 0212. -/
def supplementTables : List (Mark × Table) :=
  [(⟨0x44, true⟩, .jis0212)]

/-- Tables of other scripts beside the Japanese ones. -/
def foreignTables : List (Mark × Table) :=
  [(⟨0x43, true⟩, .korean), (⟨0x41, true⟩, .national), (⟨0x41, false⟩, .latin),
    (⟨0x46, false⟩, .greek)]

end Iso2022

open Iso2022

/-- The character sets with escape sequences. -/
def switched : List Charset := [
    Form.charset ⟨[(⟨0x43, true⟩, .korean)], true, false, false⟩
      "iso2022_kr" ["csiso2022kr", "iso2022kr", "iso_2022_kr"],
    (japaneseForm romanTables).charset
      "iso2022_jp" ["csiso2022jp", "iso2022jp", "iso_2022_jp"],
    (japaneseForm (supplementTables ++ romanTables)).charset
      "iso2022_jp_1" ["iso2022jp_1", "iso_2022_jp_1"],
    Form.charset
      { japaneseForm (supplementTables ++ romanTables ++ foreignTables) with third := true }
      "iso2022_jp_2" ["iso2022jp_2", "iso_2022_jp_2"],
    (japaneseForm
        [(⟨0x4F, true⟩, .jis0213 .former), (⟨0x50, true⟩, .jis0213Second)]).charset
      "iso2022_jp_3" ["iso2022jp_3", "iso_2022_jp_3"],
    (japaneseForm
        [(⟨0x51, true⟩, .jis0213 .latter), (⟨0x50, true⟩, .jis0213Second)]).charset
      "iso2022_jp_2004" ["iso2022jp_2004", "iso_2022_jp_2004"],
    (japaneseForm (supplementTables ++ romanTables ++ [(⟨0x49, false⟩, .kana)])).charset
      "iso2022_jp_ext" ["iso2022jp_ext", "iso_2022_jp_ext"]]

end ReviewGroups.Charset
