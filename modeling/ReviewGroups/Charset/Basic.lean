/-
Module: ReviewGroups.Charset.Basic
Purpose: Character sets: their labels, what keeps bytes from being read, and reading.
Trusted boundary: none
Main exports: Charset, Charset.Units, Charset.Fault, Charset.normalizeLabel, Charset.find?,
  Charset.decode, Charset.decodeStrict?, Charset.readWhole
-/
import ReviewGroups.Text.Blank
import ReviewGroups.Text.Hex

namespace ReviewGroups

/-- What bytes are read as, in order: characters, and `none` for bytes that write no character. -/
abbrev Charset.Units := List (Option Char)

/-- Why bytes are not read at all. -/
inductive Charset.Fault where
  | unmarked16
  | unmarked32
  | notText
  | notBytes
  | withheld
  | noStandIn
  | overfull
  | tableMissing
  | beyondAscii (byte : UInt8) (place : Nat)
  | unmapped (byte : UInt8) (place : Nat)
deriving Repr, Inhabited, DecidableEq

/-- A byte at a place that a reader with some name cannot read. -/
def Charset.Fault.atByte (reader : String) (byte : UInt8) (place : Nat) : String :=
  let shown := String.ofList (Text.Hex.digits 2 byte.toNat)
  s!"'{reader}' codec can't decode byte 0x{shown} in position {place}"

/-- The words for a fault. -/
def Charset.Fault.message : Charset.Fault → String
  | .unmarked16 => "UTF-16 stream does not start with BOM"
  | .unmarked32 => "UTF-32 stream does not start with BOM"
  | .notText => ""
  | .notBytes => "descriptor 'translate' for 'str' objects doesn't apply to a 'bytes' object"
  | .withheld => "undefined encoding"
  | .noStandIn => "Unsupported error handling replace"
  | .overfull => "pending buffer overflow"
  | .tableMissing => "internal codec error"
  | .beyondAscii byte place => atByte "ascii" byte place ++ ": ordinal not in range(128)"
  | .unmapped byte place => atByte "charmap" byte place ++ ": character maps to <undefined>"

/-- A character set.  Its names are labels that are written without a dot; in its further labels a
dot may stand for an underscore. -/
structure Charset where
  names : List String
  aliases : List String := []
  read : List UInt8 → Charset.Units
  refusal? : List UInt8 → Option Charset.Fault := fun _ => none
deriving Inhabited

namespace Charset

/-- The character that stands in for bytes that write none. -/
def standIn : Char := Char.ofNat 0xFFFD

/-- Labels are compared in lower case, with each run of other characters than letters, digits and
dots as one underscore, and none at the ends. -/
def normalizeLabel (label : List Char) : List Char :=
  Text.trimList (· == '_') <|
    label.foldr
      (fun c rest =>
        if c.isAlphanum || c == '.' then c.toLower :: rest
        else if rest.head? = some '_' then rest
        else '_' :: rest)
      []

/-- A label without its dots, which become underscores. -/
def withoutDots (label : List Char) : List Char :=
  label.map fun c => if c = '.' then '_' else c

/-- The set with a label: an alias as it is written counts first, then an alias in which dots are
underscores, then a name. -/
def find? (sets : List Charset) (label : List Char) : Option Charset :=
  let normal := normalizeLabel label
  let written := String.ofList normal
  let undotted := String.ofList (withoutDots normal)
  (sets.find? fun set => written ∈ set.aliases)
    <|> (sets.find? fun set => undotted ∈ set.aliases)
    <|> (sets.find? fun set => written ∈ set.names)

/-- Read bytes with a character that stands in for what is malformed. -/
def decode (set : Charset) (bytes : List UInt8) : Except Fault (List Char) :=
  match set.refusal? bytes with
  | some fault => .error fault
  | none => .ok ((set.read bytes).map (·.getD standIn))

/-- Read bytes that must all be well formed. -/
def decodeStrict? (set : Charset) (bytes : List UInt8) : Option (List Char) :=
  (set.read bytes).mapM id

/-- The fault of the first unit that is no character, in a set where every byte is a unit. -/
def firstFault (set : Charset) (bytes : List UInt8) : Fault :=
  let place := (set.read bytes).takeWhile Option.isSome |>.length
  let byte := bytes.getD place 0
  if "ascii" ∈ set.names then .beyondAscii byte place else .unmapped byte place

/-- Read bytes of which none may be malformed. -/
def readWhole (set : Charset) (bytes : List UInt8) : Except Fault (List Char) :=
  match set.refusal? bytes, set.decodeStrict? bytes with
  | some fault, _ => .error fault
  | none, some cs => .ok cs
  | none, none => .error (set.firstFault bytes)

end Charset

end ReviewGroups
