/-
Module: ReviewGroups.Proofs.IdentifierCode
Purpose: What an identifier is written with as a segment of a path, and how the identifier and the
  parts behind it are found again in the path of a group. `Percent.IsCoded` builds escaped texts
  piece by piece and knows nothing of the encoder; decoding is the strict one of the standard
  library, and so is the splitting of paths. The identifier may be any text, the empty one included.
Trusted boundary: none
Main exports: Percent.IsCoded, Percent.isCoded_encode, Rest.pathPieces, Rest.readSegment?,
  Rest.splitGroupPath?, Rest.groupPath_eq_intercalate, Rest.encodeIdentifier_lossless
-/
import ReviewGroups.Proofs.GroupAddressing

namespace ReviewGroups

/-! ### What escaped text is written with -/

/-- A hexadecimal digit in upper case. -/
def Text.Hex.IsUpperDigit (c : Char) : Prop :=
  c.isDigit = true ∨ 'A' ≤ c ∧ c ≤ 'F'

/-- Escapes are written with digits in upper case. -/
theorem Text.Hex.isUpperDigit_upperDigit {n : Nat} (small : n < 16) :
    IsUpperDigit (upperDigit n) := by
  have all : ∀ n < 16, IsUpperDigit (upperDigit n) := by
    unfold IsUpperDigit
    decide
  exact all n small

namespace Url.Percent

open Text

/-- Text of characters that never need an escape, that is of letters and digits of ASCII, `_`, `.`,
`-` and `~`, and of escapes of single bytes with digits in upper case. -/
inductive IsCoded : List Char → Prop where
  | nil : IsCoded []
  | plain {c : Char} {cs : List Char} (unreserved : isUnreserved c = true) (rest : IsCoded cs) :
      IsCoded (c :: cs)
  | escape {high low : Char} {cs : List Char} (isHigh : Hex.IsUpperDigit high)
      (isLow : Hex.IsUpperDigit low) (rest : IsCoded cs) : IsCoded ('%' :: high :: low :: cs)

/-- The escapes of bytes may stand in front. -/
theorem IsCoded.escapes_append {cs : List Char} (rest : IsCoded cs) (bytes : List UInt8) :
    IsCoded (bytes.flatMap escapeByte ++ cs) := by
  induction bytes with
  | nil => exact rest
  | cons b bytes inductionHypothesis =>
      have bound : b.toNat < 256 := b.toNat_lt
      have isHigh : Hex.IsUpperDigit (Hex.upperDigit (b.toNat / 16)) :=
        Hex.isUpperDigit_upperDigit (by omega)
      have isLow : Hex.IsUpperDigit (Hex.upperDigit (b.toNat % 16)) :=
        Hex.isUpperDigit_upperDigit (by omega)
      exact .escape isHigh isLow inductionHypothesis

/-- Where nothing stays but what never needs an escape, any text is coded. -/
theorem isCoded_encode (cs : List Char) : IsCoded (encode isUnreserved cs) := by
  induction cs with
  | nil => exact .nil
  | cons c cs inductionHypothesis =>
      rw [encode_cons]
      by_cases unreserved : isUnreserved c = true
      · rw [if_pos unreserved]
        exact .plain unreserved inductionHypothesis
      -- A character beyond ASCII has several bytes, hence the lemma on lists of bytes.
      · rw [if_neg unreserved]
        exact inductionHypothesis.escapes_append (Utf8.encodeChar c)

end Url.Percent

namespace Rest

open Text Url

variable {id : String} {parts : List String}

/-! ### Reading segments and paths -/

/-- The texts between the slashes of a path. -/
def pathPieces (path : String) : List String :=
  (path.split '/').toList.map String.Slice.copy

/-- The identifier that a segment writes: its escapes are undone, and the bytes must be UTF-8. -/
def readSegment? (segment : String) : Option String :=
  String.fromUTF8? (Percent.decodeBytes segment.toList).toByteArray

/-- The identifier and the parts that the path of a group is made of. -/
def splitGroupPath? (path : String) : Option (String × List String) :=
  match pathPieces path with
  | "" :: "groups" :: segment :: parts => (readSegment? segment).map fun id => (id, parts)
  | _ => none

private theorem readSegment?_encodeIdentifier (id : String) :
    readSegment? (encodeIdentifier id) = some id := by
  unfold readSegment?
  rw [toList_encodeIdentifier, Percent.decodeBytes_encode (by decide), Utf8.fromUTF8?_encode]

/-- The path of a group has a slash before each of its segments. -/
theorem groupPath_eq_intercalate (id : String) (parts : List String) :
    groupPath id parts = "/".intercalate ("" :: "groups" :: encodeIdentifier id :: parts) := by
  -- The first two slashes are in the fixed front; what follows has one only where there are parts.
  have front : "" ++ "/" ++ ("groups" ++ "/") = "/groups/" := rfl
  rw [String.intercalate_cons_cons, String.intercalate_cons_cons, ← String.append_assoc, front]
  unfold groupPath
  cases parts with
  | nil => simp
  | cons part parts => simp [String.append_assoc]

/-- Parts without a slash are the pieces of the path behind the segment of the group. -/
theorem pathPieces_groupPath (slashFree : ∀ part ∈ parts, '/' ∉ part.toList) :
    pathPieces (groupPath id parts) = "" :: "groups" :: encodeIdentifier id :: parts := by
  have clean : ∀ piece ∈ "" :: "groups" :: encodeIdentifier id :: parts, '/' ∉ piece.toList := by
    simp only [List.forall_mem_cons]
    exact ⟨by decide, by decide, slash_not_mem_encodeIdentifier id, slashFree⟩
  rw [pathPieces, groupPath_eq_intercalate]
  exact String.toList_split_intercalate clean

/-- The identifier and parts without a slash are found in the path that is made of them. -/
theorem splitGroupPath?_groupPath (slashFree : ∀ part ∈ parts, '/' ∉ part.toList) :
    splitGroupPath? (groupPath id parts) = some (id, parts) := by
  unfold splitGroupPath?
  rw [pathPieces_groupPath slashFree]
  simp only [readSegment?_encodeIdentifier, Option.map_some]

/-- An identifier loses nothing as a segment of a path: it is written with characters that never
need an escape and with escapes, it is read back as it was, and the path of a group is cut at its
slashes into the segment of the identifier and the parts behind it, so that both are found in it. -/
theorem encodeIdentifier_lossless (id : String) :
    Percent.IsCoded (encodeIdentifier id).toList ∧
      readSegment? (encodeIdentifier id) = some id ∧
      ∀ parts : List String, (∀ part ∈ parts, '/' ∉ part.toList) →
        pathPieces (groupPath id parts) = "" :: "groups" :: encodeIdentifier id :: parts ∧
          splitGroupPath? (groupPath id parts) = some (id, parts) := by
  refine ⟨?_, readSegment?_encodeIdentifier id, ?_⟩
  · rw [toList_encodeIdentifier]
    exact Percent.isCoded_encode id.toList
  · intro parts slashFree
    exact ⟨pathPieces_groupPath slashFree, splitGroupPath?_groupPath slashFree⟩

/-- A slash, an escape and a letter beyond ASCII in an identifier are found in the path of its
members as they were. -/
theorem encodeIdentifier_lossless_members :
    (∀ part ∈ ["members", ""], '/' ∉ part.toList) ∧
      encodeIdentifier "a/%2Fé" = "a%2F%252F%C3%A9" ∧
      groupPath "a/%2Fé" ["members", ""] = "/groups/a%2F%252F%C3%A9/members/" ∧
      pathPieces (groupPath "a/%2Fé" ["members", ""]) =
        ["", "groups", "a%2F%252F%C3%A9", "members", ""] ∧
      splitGroupPath? (groupPath "a/%2Fé" ["members", ""]) =
        some ("a/%2Fé", ["members", ""]) := by
  have slashFree : ∀ part ∈ ["members", ""], '/' ∉ part.toList := by decide
  have segment : encodeIdentifier "a/%2Fé" = "a%2F%252F%C3%A9" := by decide
  have path : groupPath "a/%2Fé" ["members", ""] = "/groups/a%2F%252F%C3%A9/members/" := by decide
  obtain ⟨-, -, found⟩ := encodeIdentifier_lossless "a/%2Fé"
  obtain ⟨cut, whole⟩ := found ["members", ""] slashFree
  rw [segment] at cut
  exact ⟨slashFree, segment, path, cut, whole⟩

end Rest

end ReviewGroups
