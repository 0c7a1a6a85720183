/-
Module: ReviewGroups.Url.Form
Purpose: Query strings of names and values.
Trusted boundary: none
Main exports: Form.group, Form.encodeText, Form.encode, Form.decode
-/
import ReviewGroups.Text.Blank
import ReviewGroups.Url.Percent

namespace ReviewGroups.Url.Form

/-- Add a value under a name: beside the values the name has, or as a new name at the end. -/
def add (name value : String) : List (String × List String) → List (String × List String)
  | [] => [(name, [value])]
  | (n, values) :: rest =>
      if n = name then (n, values ++ [value]) :: rest else (n, values) :: add name value rest

/-- Gather the values of each name at its first place. -/
def group (pairs : List (String × String)) : List (String × List String) :=
  pairs.foldl (fun gathered pair => add pair.1 pair.2 gathered) []

/-- The pairs of gathered values. -/
def ungroup (gathered : List (String × List String)) : List (String × String) :=
  gathered.flatMap fun (name, values) => values.map fun value => (name, value)

/-- A name or a value: a space is a plus sign, and only unreserved characters stay. -/
def encodeText (s : String) : List Char :=
  s.toList.flatMap fun c =>
    if c = ' ' then ['+'] else if Percent.isUnreserved c then [c] else Percent.escapeChar c

/-- One pair. -/
def encodePair (pair : String × String) : List Char :=
  encodeText pair.1 ++ '=' :: encodeText pair.2

/-- A query string of pairs in order. -/
def encode (pairs : List (String × String)) : List Char :=
  List.intercalate ['&'] (pairs.map encodePair)

/-- Undo the encoding of a name or a value. -/
def decodeText (cs : List Char) : String :=
  String.ofList (Percent.decode (cs.map fun c => if c = '+' then ' ' else c))

/-- Read one pair; a piece without an equals sign is a name with an empty value. -/
def decodePair (piece : List Char) : String × String :=
  match Text.cutAt '=' piece with
  | some (name, value) => (decodeText name, decodeText value)
  | none => (decodeText piece, "")

/-- Read the pairs of a query string; empty pieces are passed over. -/
def decode (cs : List Char) : List (String × String) :=
  ((Text.splitAt '&' cs).filter (!·.isEmpty)).map decodePair

end ReviewGroups.Url.Form
