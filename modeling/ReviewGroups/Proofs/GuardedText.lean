/-
Module: ReviewGroups.Proofs.GuardedText
Purpose: The guard in front of a body makes no difference to what the body decodes to, is taken away
  once, and must come first; and what is written as JSON in ASCII decodes to itself behind it. Texts
  that cannot be decoded stay so, and the complaint about them counts places behind the guard.
  `Json.dump` writes every character beyond ASCII as an escape, in two halves where it takes two,
  and is read back for every value that reads back at all. Nesting is not bounded.
Trusted boundary: none
Main exports: Json.escapeAscii, Json.dump, Json.parse_dump, Http.DecodesLike, Http.Undecodable,
  Http.guard_is_transparent
-/
import ReviewGroups.Proofs.PayloadShape
import ReviewGroups.Proofs.WrittenJson

namespace ReviewGroups

/-! ### JSON text in ASCII -/

namespace Text.Utf16

/-- The units of a character: itself, or the two halves of a pair. -/
def unitsOf (c : Char) : List Nat :=
  if c.toNat < 0x10000 then [c.toNat]
  else [0xD800 + (c.toNat - 0x10000) / 0x400, 0xDC00 + (c.toNat - 0x10000) % 0x400]

private theorem not_half (c : Char) : isHigh c.toNat = false ∧ isLow c.toNat = false := by
  have valid : c.toNat < 0xD800 ∨ (0xDFFF < c.toNat ∧ c.toNat < 0x110000) := c.valid
  simp only [isHigh, isLow, Bool.and_eq_false_iff, decide_eq_false_iff_not]
  omega

private theorem single_toNat (c : Char) : single c.toNat = c := by
  obtain ⟨notHigh, notLow⟩ := not_half c
  rw [single, notHigh, notLow]
  exact Char.ofNat_toNat c

/-- The other characters are each the character of a pair. -/
theorem join_unitsOf {c : Char} (large : 0x10000 ≤ c.toNat) :
    isHigh (0xD800 + (c.toNat - 0x10000) / 0x400) = true ∧
      isLow (0xDC00 + (c.toNat - 0x10000) % 0x400) = true ∧
      join (0xD800 + (c.toNat - 0x10000) / 0x400) (0xDC00 + (c.toNat - 0x10000) % 0x400) = c := by
  have valid : c.toNat < 0xD800 ∨ (0xDFFF < c.toNat ∧ c.toNat < 0x110000) := c.valid
  have whole : 0x10000 + (0xD800 + (c.toNat - 0x10000) / 0x400 - 0xD800) * 0x400 +
      (0xDC00 + (c.toNat - 0x10000) % 0x400 - 0xDC00) = c.toNat := by
    omega
  refine ⟨?_, ?_, ?_⟩
  · simp only [isHigh, Bool.and_eq_true, decide_eq_true_eq]
    omega
  · simp only [isLow, Bool.and_eq_true, decide_eq_true_eq]
    omega
  · rw [join, whole, Char.ofNat_toNat]

end Text.Utf16

namespace Json

open Text

/-- One character of a quoted text in ASCII: what is beyond it is written by the units of UTF-16,
four digits each. -/
def escapeAscii (c : Char) : List Char :=
  if c.toNat < 0x7F then escapeChar c
  else (Utf16.unitsOf c).flatMap fun unit => '\\' :: 'u' :: Hex.digits 4 unit

/-- The text of a document in ASCII, with a space after each comma and colon. -/
def dump (value : Json) : String :=
  String.ofList (writeWith escapeAscii spaced value)

private theorem readText_pair {a b c d e f g h : Char} {high low : Nat} {rest : List Char}
    (opening : List Char) (first : Hex.unit? a b c d = some high)
    (second : Hex.unit? e f g h = some low) (isHigh : Utf16.isHigh high = true)
    (isLow : Utf16.isLow low = true) (more : rest ≠ []) :
    readText opening ('\\' :: 'u' :: a :: b :: c :: d :: '\\' :: 'u' :: e :: f :: g :: h :: rest) =
      prepend (Utf16.join high low) (readText opening rest) := by
  obtain ⟨next, after, rfl⟩ := List.exists_cons_of_ne_nil more
  rw [readText.eq_def]
  simp only [first, second, isHigh, isLow, if_true]

/-- Whatever is escaped in ASCII is read back. -/
theorem escapeAscii_isEscape : IsEscape escapeAscii := by
  constructor
  intro opening c rest more
  unfold escapeAscii
  split
  next => exact readText_escape opening c more
  next =>
    unfold Utf16.unitsOf
    split
    next small =>
      obtain ⟨w, x, y, z, written, unit⟩ := Hex.exists_digits_unit small
      simp only [List.flatMap_cons, List.flatMap_nil, List.append_nil, written, List.cons_append,
        List.nil_append]
      rw [readText_unit opening unit (Utf16.not_half c).1 more, Utf16.single_toNat]
    next large =>
      obtain ⟨isHigh, isLow, joined⟩ := Utf16.join_unitsOf (Nat.not_lt.1 large)
      have valid : c.toNat < 0xD800 ∨ (0xDFFF < c.toNat ∧ c.toNat < 0x110000) := c.valid
      obtain ⟨w, x, y, z, high, unit⟩ :=
        Hex.exists_digits_unit (n := 0xD800 + (c.toNat - 0x10000) / 0x400) (by omega)
      obtain ⟨s, t, u, v, low, unitToo⟩ :=
        Hex.exists_digits_unit (n := 0xDC00 + (c.toNat - 0x10000) % 0x400) (by omega)
      simp only [List.flatMap_cons, List.flatMap_nil, List.append_nil, high, low,
        List.cons_append, List.nil_append]
      rw [readText_pair opening unit unitToo isHigh isLow more, joined]

private theorem spaced_isPlain : spaced.IsPlain :=
  ⟨⟨[' '], rfl, rfl⟩, ⟨[' '], rfl, rfl⟩⟩

/-- A document that is written in ASCII for an exact value is read as that value. -/
theorem parse_dump {value : Json} (exact : value.IsExact) : parse value.dump = .ok value :=
  parse_writeWith escapeAscii_isEscape spaced_isPlain exact

example : (Json.object [("a", .list [.int (-1), .text "\"é😀\u007f"])]).dump =
    "\x7b\"a\": [-1, \"\\\"\\u00e9\\ud83d\\ude00\\u007f\"]\x7d" := by
  decide +kernel

end Json

/-! ### The guard -/

namespace Http

/-- A body decodes to the value that `document` is read as, and to nothing if it is read as none; it
is malformed then. -/
structure DecodesLike (body document : String) : Prop where
  value : ∀ value, decodeJson body = .ok value ↔ Json.parse document = .ok value
  malformed : ∀ failure, decodeJson body = .error failure → failure.IsMalformed

/-- A body decodes to nothing, and is malformed. -/
def Undecodable (body : String) : Prop :=
  ∃ failure, decodeJson body = .error failure ∧ failure.IsMalformed

/-- A guard that is there is taken away. -/
theorem dropGuard_append (t : String) : dropGuard (guardText ++ t) = t := by
  have guarded : guardText.toList.isPrefixOf (guardText ++ t).toList = true := by
    rw [String.toList_append, List.isPrefixOf_iff_prefix]
    exact List.prefix_append _ _
  unfold dropGuard
  dsimp only
  rw [if_pos guarded, String.toList_append, List.drop_left, String.ofList_toList]

/-- Where there is no guard nothing is taken away. -/
theorem dropGuard_of_unguarded {t : String} (unguarded : ¬ guardText.toList <+: t.toList) :
    dropGuard t = t := by
  unfold dropGuard
  dsimp only
  rw [if_neg]
  rwa [List.isPrefixOf_iff_prefix]

private theorem decodesLike_of_parse {body document : String}
    (same : ∀ value, Json.parse (dropGuard body) = .ok value ↔ Json.parse document = .ok value) :
    DecodesLike body document := by
  constructor
  case value =>
      intro value
      rw [decodeJson_eq_ok_iff, same]
  case malformed => exact fun failure refused => decodeJson_error refused

private theorem undecodable_of_parse {body : String}
    (none : ∀ value, Json.parse (dropGuard body) ≠ .ok value) : Undecodable body := by
  cases decoded : decodeJson body with
  | ok value => exact absurd (decodeJson_eq_ok_iff.1 decoded) (none value)
  | error failure => exact ⟨failure, decoded, decodeJson_error decoded⟩

private theorem closed_of_blank {c : Char}
    (blank : Text.isBlank c = true ∨ c = Json.byteOrderMark) :
    Json.opensValue c = false := by
  cases opens : Json.opensValue c with
  | false => rfl
  | true =>
      rcases blank with blank | rfl
      · rw [Json.not_blank_of_opensValue opens] at blank
        cases blank
      · exact absurd opens (by decide)

private theorem parse_ne_ok_of_guard {front : List Char}
    (blank : ∀ c ∈ front, Text.isBlank c = true ∨ c = Json.byteOrderMark) (t : String)
    (value : Json) : Json.parse (String.ofList front ++ guardText ++ t) ≠ .ok value := by
  have closed : ∀ c ∈ front, Json.opensValue c = false := fun c present =>
    closed_of_blank (blank c present)
  have whole : (String.ofList front ++ guardText ++ t).toList =
      front ++ ')' :: (guardText.toList.drop 1 ++ t.toList) := by
    rw [String.toList_append, String.toList_append, String.toList_ofList, List.append_assoc]
    rfl
  exact Json.parse_ne_ok_of_closed closed (by decide) (by decide) whole value

/-- The guard in front of a body is transparent, with any filler behind it.  A body without it
decodes as it is read.  It is taken away once: behind a second one, or behind anything else in front
of it, nothing is found.  And what is written as JSON decodes to itself, with and without the
guard. -/
theorem guard_is_transparent :
    (∀ (filler : List Char) (t : String), filler.all Json.isFiller = true →
        DecodesLike (guardText ++ String.ofList filler ++ t) t) ∧
      (∀ t : String, ¬ guardText.toList <+: t.toList → DecodesLike t t) ∧
      (∀ (blanks : List Char) (t : String), blanks.all Text.isBlank = true →
        Undecodable (guardText ++ String.ofList blanks ++ guardText ++ t)) ∧
      (∀ (front : List Char) (t : String), front ≠ [] →
        (∀ c ∈ front, Text.isBlank c = true ∨ c = Json.byteOrderMark) →
          Undecodable (String.ofList front ++ guardText ++ t)) ∧
      ∀ value : Json, value.IsExact →
        decodeJson (guardText ++ "\n" ++ value.dump) = .ok value ∧
          decodeJson value.dump = .ok value := by
  have guarded : ∀ (filler : List Char) (t : String), filler.all Json.isFiller = true →
      DecodesLike (guardText ++ String.ofList filler ++ t) t := by
    intro filler t fills
    apply decodesLike_of_parse
    intro value
    rw [String.append_assoc, dropGuard_append, Json.parse_append_filler fills]
  have unguarded : ∀ t : String, ¬ guardText.toList <+: t.toList → DecodesLike t t := by
    intro t none
    apply decodesLike_of_parse
    intro value
    rw [dropGuard_of_unguarded none]
  refine ⟨guarded, unguarded, ?_, ?_, ?_⟩
  · intro blanks t blank
    apply undecodable_of_parse
    rw [String.append_assoc, String.append_assoc, dropGuard_append, ← String.append_assoc]
    exact parse_ne_ok_of_guard (fun c present => .inl (List.all_eq_true.1 blank c present)) t
  · intro front t some blank
    obtain ⟨c, others, rfl⟩ := List.exists_cons_of_ne_nil some
    apply undecodable_of_parse
    rw [dropGuard_of_unguarded]
    · exact parse_ne_ok_of_guard blank t
    · rw [String.toList_append, String.toList_append, String.toList_ofList]
      rintro ⟨more, same⟩
      have first : ')' = c := (List.cons.inj same).1
      rcases blank c List.mem_cons_self with bad | bad
      · rw [← first] at bad
        exact absurd bad (by decide)
      · exact absurd (first.trans bad) (by decide)
  · intro value exact
    have read := Json.parse_dump exact
    refine ⟨((guarded ['\n'] value.dump rfl).value value).2 read, ?_⟩
    refine ((unguarded value.dump ?_).value value).2 read
    rintro ⟨more, same⟩
    have whole : value.dump.toList = [] ++ ')' :: (guardText.toList.drop 1 ++ more) := same.symm
    exact Json.parse_ne_ok_of_closed (by simp) (by decide) (by decide) whole value read

/-- A line break behind the guard, a body without it, two guards with a space between them, a mark
in front of the guard, and a text in a list. -/
theorem guard_is_transparent_list :
    DecodesLike (guardText ++ String.ofList ['\n'] ++ "[0") "[0" ∧ DecodesLike "0" "0" ∧
      Undecodable (guardText ++ String.ofList [' '] ++ guardText ++ "0") ∧
      Undecodable (String.ofList [Json.byteOrderMark] ++ guardText ++ "0") ∧
      decodeJson (guardText ++ "\n" ++ (Json.list [.text "é"]).dump) = .ok (.list [.text "é"]) := by
  obtain ⟨guarded, unguarded, twice, late, written⟩ := guard_is_transparent
  have exact : (Json.list [.text "é"]).IsExact := by
    apply Json.IsExact.list
    intro item present
    rw [List.mem_singleton.1 present]
    exact .text "é"
  exact ⟨guarded ['\n'] "[0" (by decide), unguarded "0" (by decide +kernel),
    twice [' '] "0" (by decide),
    late [Json.byteOrderMark] "0" (by decide) fun _ only => .inr (List.mem_singleton.1 only),
    (written _ exact).1⟩

end Http

end ReviewGroups
