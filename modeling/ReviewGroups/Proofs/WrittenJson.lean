/-
Module: ReviewGroups.Proofs.WrittenJson
Purpose: JSON values are read back as they were written, so that a text tells which value it writes.
  Escape and separators are parameters of the writer (`writeWith`), which covers bodies of requests
  as well as what other programs write. The induction is on the value, with the text that follows
  left open; numbers are followed by something that ends them. Floating-point numbers are not exact
  and stay outside.
Trusted boundary: none
Main exports: Separators.IsPlain, Json.IsExact, Json.writeWith, Json.parse_writeWith,
  Json.parse_render, Json.render_injective
-/
import ReviewGroups.Proofs.DocumentStart
import ReviewGroups.Proofs.KeyedOrder
import ReviewGroups.Proofs.Result
import ReviewGroups.Proofs.WrittenText

namespace ReviewGroups

/-- Separators are a comma and a colon, with nothing but filler after them. -/
structure Separators.IsPlain (separators : Separators) : Prop where
  item : ∃ filler, separators.item = ',' :: filler ∧ filler.all Json.isFiller = true
  name : ∃ filler, separators.name = ':' :: filler ∧ filler.all Json.isFiller = true

theorem compact_isPlain : compact.IsPlain :=
  ⟨⟨[], rfl, rfl⟩, ⟨[], rfl, rfl⟩⟩

namespace Json

/-- A value can be written and read back exactly: its numbers are whole and have few enough digits,
and no name stands twice in an object. -/
inductive IsExact : Json → Prop where
  | null : IsExact .null
  | bool (b : Bool) : IsExact (.bool b)
  | int {n : Int} (short : IsShort n) : IsExact (.int n)
  | text (s : String) : IsExact (.text s)
  | list {items : List Json} (each : ∀ item ∈ items, IsExact item) : IsExact (.list items)
  | object {members : List (String × Json)} (distinct : (Keyed.keys members).Nodup)
      (each : ∀ member ∈ members, IsExact member.2) : IsExact (.object members)

variable {escape : Char → List Char} {separators : Separators} {value : Json} {cs rest : List Char}

/-! ### Writing with other escapes -/

mutual

/-- The text of a value, with `escape` for the characters of its texts. -/
def writeWith (escape : Char → List Char) (separators : Separators) : Json → List Char
  | .null => "null".toList
  | .bool true => "true".toList
  | .bool false => "false".toList
  | .int n => (toString n).toList
  | .float x => (x.render jsonFloatFormat).toList
  | .text s => writeQuoted escape s
  | .list [] => ['[', ']']
  | .list (item :: items) =>
      '[' :: writeWith escape separators item ++ writeItemsWith escape separators items
  | .object [] => ['\x7b', '\x7d']
  | .object ((name, value) :: members) =>
      '\x7b' :: writeQuoted escape name ++ separators.name ++ writeWith escape separators value ++
        writeMembersWith escape separators members

/-- The items after the first one, and the closing bracket. -/
def writeItemsWith (escape : Char → List Char) (separators : Separators) : List Json → List Char
  | [] => [']']
  | item :: items =>
      separators.item ++ writeWith escape separators item ++ writeItemsWith escape separators items

/-- The members after the first one, and the closing brace. -/
def writeMembersWith (escape : Char → List Char) (separators : Separators) :
    List (String × Json) → List Char
  | [] => ['\x7d']
  | (name, value) :: members =>
      separators.item ++ writeQuoted escape name ++ separators.name ++
        writeWith escape separators value ++ writeMembersWith escape separators members

end

mutual

/-- A value is usually written with the usual escapes. -/
theorem write_eq_writeWith (separators : Separators) :
    ∀ value, write separators value = writeWith escapeChar separators value
  | .null | .bool true | .bool false | .int _ | .float _ | .text _ | .list [] | .object [] => rfl
  | .list (item :: items) => by
      rw [write, writeWith, write_eq_writeWith separators item,
        writeItems_eq_writeItemsWith separators items]
  | .object ((name, value) :: members) => by
      rw [write, writeWith, write_eq_writeWith separators value,
        writeMembers_eq_writeMembersWith separators members]
      rfl

/-- Items are usually written with the usual escapes. -/
theorem writeItems_eq_writeItemsWith (separators : Separators) :
    ∀ items, writeItems separators items = writeItemsWith escapeChar separators items
  | [] => rfl
  | item :: items => by
      rw [writeItems, writeItemsWith, write_eq_writeWith separators item,
        writeItems_eq_writeItemsWith separators items]

/-- Members are usually written with the usual escapes. -/
theorem writeMembers_eq_writeMembersWith (separators : Separators) :
    ∀ members, writeMembers separators members = writeMembersWith escapeChar separators members
  | [] => rfl
  | (name, value) :: members => by
      rw [writeMembers, writeMembersWith, write_eq_writeWith separators value,
        writeMembers_eq_writeMembersWith separators members]
      rfl

end

/-! ### What values start with -/

private theorem startsValue_of_isDigit {c : Char} (digit : c.isDigit = true) (more : List Char) :
    StartsValue (c :: more) :=
  ⟨c, more, rfl, by rw [opensValue, digit, Bool.true_or]⟩

private theorem toList_toString_int_cases (n : Int) :
    ∃ c more, c.isDigit = true ∧
      ((toString n).toList = c :: more ∨ (toString n).toList = '-' :: c :: more) := by
  obtain ⟨c, more, written⟩ :=
    List.exists_cons_of_ne_nil (@Nat.toDigits_ne_nil n.natAbs 10)
  refine ⟨c, more, ?_, ?_⟩
  · exact Nat.isDigit_of_mem_toDigits (by decide) (by decide : 10 ≤ 10)
      (written ▸ List.mem_cons_self)
  · rw [toList_toString_int, written]
    split
    · exact .inr rfl
    · exact .inl rfl

/-- What is written for an exact value starts a value. -/
theorem IsExact.startsValue (exact : value.IsExact) :
    StartsValue (writeWith escape separators value) := by
  cases exact with
  | null => exact ⟨'n', _, rfl, by decide⟩
  | bool b =>
      cases b with
      | true => exact ⟨'t', _, rfl, by decide⟩
      | false => exact ⟨'f', _, rfl, by decide⟩
  | @int n short =>
      obtain ⟨c, more, digit, plain | minus⟩ := toList_toString_int_cases n
      · rw [writeWith, plain]
        exact startsValue_of_isDigit digit more
      · rw [writeWith, minus]
        exact ⟨'-', _, rfl, by decide⟩
  | text s => exact ⟨'"', _, rfl, by decide⟩
  | @list items each => cases items <;> exact ⟨'[', _, rfl, by decide⟩
  | @object members distinct each => cases members <;> exact ⟨'\x7b', _, rfl, by decide⟩

/-! ### Values one inside the other -/

/-- A value is read back from what is written for it, whatever follows that does not go on with a
number. -/
def ReadsBack (escape : Char → List Char) (separators : Separators) (value : Json) : Prop :=
  ∀ rest, StopsNumber rest → ∃ shorter,
    readValue (writeWith escape separators value ++ rest) = .ok ⟨value, rest, shorter⟩

private theorem exists_shorter {α : Type} {result : Except Fault (Parsed α cs)} {answer : α}
    (read : (result.map fun parsed => (parsed.value, parsed.rest)) = .ok (answer, rest)) :
    ∃ shorter, result = .ok ⟨answer, rest, shorter⟩ := by
  obtain ⟨parsed, rfl, same⟩ := Result.map_eq_ok_iff.1 read
  cases same
  exact ⟨parsed.shorter, rfl⟩

private theorem readMark_cons {mark : Char} (flaw : Flaw) (noFiller : isFiller mark = false)
    (rest : List Char) :
    ∃ shorter, readMark mark flaw (mark :: rest) = .ok ⟨(), rest, shorter⟩ := by
  have skipped := skip_cons noFiller rest
  unfold readMark
  split
  next none =>
    rw [skipped] at none
    cases none
  next c after found =>
    obtain ⟨rfl, rfl⟩ := List.cons.inj (skipped.symm.trans found)
    simp

private theorem readMark_other {mark c : Char} (flaw : Flaw) (noFiller : isFiller c = false)
    (other : c ≠ mark) (rest : List Char) :
    readMark mark flaw (c :: rest) = .error ⟨flaw, c :: rest⟩ := by
  have skipped := skip_cons noFiller rest
  unfold readMark
  split
  next none =>
    rw [skipped] at none
    cases none
  next d after found =>
    obtain ⟨rfl, rfl⟩ := List.cons.inj (skipped.symm.trans found)
    rw [if_neg other]

private theorem stopsNumber_cons {c : Char}
    (other : c.isDigit = false ∧ c ≠ '.' ∧ c ≠ 'e' ∧ c ≠ 'E') (rest : List Char) :
    StopsNumber (c :: rest) := by
  intro d first
  cases first
  exact other

private theorem readValue_of_readWord? {cs : List Char} {parsed : Parsed Json cs}
    (read : readWord? cs = some parsed) : readValue cs = .ok parsed := by
  rw [readValue.eq_def]
  split
  next => cases read
  next => cases read
  next => cases read
  next => rw [read]

theorem readsBack_null : ReadsBack escape separators .null :=
  fun _ _ => ⟨_, readValue_of_readWord? rfl⟩

/-- A truth value is read back. -/
theorem readsBack_bool (b : Bool) : ReadsBack escape separators (.bool b) := by
  intro rest _
  cases b with
  | true => exact ⟨_, readValue_of_readWord? rfl⟩
  | false => exact ⟨_, readValue_of_readWord? rfl⟩

/-- A text is read back. -/
theorem readsBack_text (escapes : IsEscape escape) (s : String) :
    ReadsBack escape separators (.text s) := by
  intro rest _
  obtain ⟨_, read⟩ := readQuoted_writeQuoted escapes .expectingValue s rest
  change ∃ _, readValue ('"' :: (s.toList.flatMap escape ++ ['"'] ++ rest)) = _
  change readQuoted .expectingValue ('"' :: (s.toList.flatMap escape ++ ['"'] ++ rest)) = _
    at read
  rw [readValue, read]
  exact ⟨_, rfl⟩

/-- What starts with a digit, or with a minus sign and a digit, is no word. -/
theorem readWord?_of_isDigit {c : Char} {more : List Char} (digit : c.isDigit = true)
    (starts : cs = c :: more ∨ cs = '-' :: c :: more) : readWord? cs = none := by
  unfold readWord?
  split
  case h_7 => rfl
  case h_6 =>
    rcases starts with same | same
    · rw [← (List.cons.inj same).1] at digit
      exact absurd digit (by decide)
    · rw [← (List.cons.inj (List.cons.inj same).2).1] at digit
      exact absurd digit (by decide)
  all_goals
    rcases starts with same | same
    · rw [← (List.cons.inj same).1] at digit
      exact absurd digit (by decide)
    · exact absurd (List.cons.inj same).1 (by decide)

/-- What starts with a digit, or with a minus sign and a digit, is read as a number. -/
theorem readValue_of_isDigit {c : Char} {more : List Char} (digit : c.isDigit = true)
    (starts : cs = c :: more ∨ cs = '-' :: c :: more) : readValue cs = readNumber cs := by
  have noWord := readWord?_of_isDigit digit starts
  have notOther (d : Char) (other : d.isDigit = false ∧ d ≠ '-') (tail : List Char) :
      cs ≠ d :: tail := by
    rintro rfl
    rcases starts with same | same
    · rw [← (List.cons.inj same).1, other.1] at digit
      cases digit
    · exact other.2 (List.cons.inj same).1
  rw [readValue.eq_def]
  split
  next => exact absurd rfl (notOther '"' (by decide) _)
  next => exact absurd rfl (notOther '[' (by decide) _)
  next => exact absurd rfl (notOther '\x7b' (by decide) _)
  next => rw [noWord]

/-- A whole number is read back, if it has few enough digits. -/
theorem readsBack_int {n : Int} (short : IsShort n) : ReadsBack escape separators (.int n) := by
  intro rest stops
  obtain ⟨c, more, digit, written⟩ := toList_toString_int_cases n
  have starts : (toString n).toList ++ rest = c :: (more ++ rest) ∨
      (toString n).toList ++ rest = '-' :: c :: (more ++ rest) := by
    rcases written with written | written
    · exact .inl (by rw [written]; rfl)
    · exact .inr (by rw [written]; rfl)
  obtain ⟨shorter, read⟩ := readNumber_whole short stops
  exact ⟨shorter, (readValue_of_isDigit digit starts).trans read⟩

/-! ### What stands between values -/

private theorem readMark_item (plain : separators.IsPlain) {closing : Char} (other : ',' ≠ closing)
    (tail : List Char) :
    ∃ after, (∃ fault, readMark closing .expectingComma (separators.item ++ tail) = .error fault) ∧
      (∃ shorter, readMark ',' .expectingComma (separators.item ++ tail) =
        .ok ⟨(), after, shorter⟩) ∧
      skip after = skip tail := by
  obtain ⟨filler, comma, fills⟩ := plain.item
  refine ⟨filler ++ tail, ?_, ?_, skip_filler fills tail⟩
  · rw [comma]
    exact ⟨_, readMark_other .expectingComma (by decide) other (filler ++ tail)⟩
  · rw [comma]
    exact readMark_cons .expectingComma (by decide) (filler ++ tail)

private theorem readMark_name (plain : separators.IsPlain) (tail : List Char) :
    ∃ after, (∃ shorter, readMark ':' .expectingColon (separators.name ++ tail) =
        .ok ⟨(), after, shorter⟩) ∧
      skip after = skip tail := by
  obtain ⟨filler, colon, fills⟩ := plain.name
  refine ⟨filler ++ tail, ?_, skip_filler fills tail⟩
  rw [colon]
  exact readMark_cons .expectingColon (by decide) (filler ++ tail)

private theorem stopsNumber_item (plain : separators.IsPlain) (tail : List Char) :
    StopsNumber (separators.item ++ tail) := by
  obtain ⟨filler, comma, -⟩ := plain.item
  rw [comma]
  exact stopsNumber_cons (by decide) (filler ++ tail)

/-! ### Lists -/

/-- Items are read back, if each of them is. -/
theorem readItems_writeItemsWith (plain : separators.IsPlain) {item : Json} {items : List Json}
    (each : ∀ other ∈ item :: items, IsExact other)
    (back : ∀ other ∈ item :: items, ReadsBack escape separators other) (rest : List Char) :
    ∃ shorter, readItems
        (writeWith escape separators item ++ (writeItemsWith escape separators items ++ rest)) =
      .ok ⟨item :: items, rest, shorter⟩ := by
  induction items generalizing item with
  | nil =>
      apply exists_shorter
      obtain ⟨_, first⟩ :=
        back item List.mem_cons_self (']' :: rest) (stopsNumber_cons (by decide) rest)
      obtain ⟨_, closed⟩ := readMark_cons .expectingComma (by decide : isFiller ']' = false) rest
      change Except.map _ (readItems (writeWith escape separators item ++ ']' :: rest)) = _
      rw [readItems, first]
      simp only [closed]
      rfl
  | cons next items inductionHypothesis =>
      have written : writeItemsWith escape separators (next :: items) ++ rest =
          separators.item ++ (writeWith escape separators next ++
            (writeItemsWith escape separators items ++ rest)) := by
        simp [writeItemsWith]
      obtain ⟨after, ⟨fault, goesOn⟩, ⟨_, comma⟩, skipped⟩ := readMark_item plain
        (by decide : ',' ≠ ']')
        (writeWith escape separators next ++ (writeItemsWith escape separators items ++ rest))
      -- A number ends at the comma, so the item is read back whatever kind of value it is.
      obtain ⟨_, first⟩ := back item List.mem_cons_self _ (stopsNumber_item plain _)
      obtain ⟨_, others⟩ :
          ∃ shorter, readItems (skip after) = .ok ⟨next :: items, rest, shorter⟩ := by
        rw [skipped, (each next (by simp)).startsValue.skip_append]
        exact inductionHypothesis (fun other there => each other (List.mem_cons_of_mem _ there))
          fun other there => back other (List.mem_cons_of_mem _ there)
      rw [written]
      apply exists_shorter
      rw [readItems, first]
      simp only [goesOn, comma, others]
      rfl

/-- A list is read back, if its items are. -/
theorem readsBack_list (plain : separators.IsPlain) {items : List Json}
    (each : ∀ item ∈ items, IsExact item)
    (back : ∀ item ∈ items, ReadsBack escape separators item) :
    ReadsBack escape separators (.list items) := by
  intro rest _
  apply exists_shorter
  cases items with
  | nil =>
      change Except.map _ (readValue ('[' :: ']' :: rest)) = _
      rw [readValue]
      rfl
  | cons item items =>
      have starts : StartsValue (writeWith escape separators item) :=
        (each item List.mem_cons_self).startsValue
      have skipped := starts.skip_append (writeItemsWith escape separators items ++ rest)
      obtain ⟨_, read⟩ : ∃ shorter,
          readItems (skip (writeWith escape separators item ++
              (writeItemsWith escape separators items ++ rest))) =
            .ok ⟨item :: items, rest, shorter⟩ := by
        rw [skipped]
        exact readItems_writeItemsWith plain each back rest
      have written : writeWith escape separators (.list (item :: items)) ++ rest =
          '[' :: (writeWith escape separators item ++
            (writeItemsWith escape separators items ++ rest)) := by
        simp [writeWith]
      rw [written, readValue]
      split
      -- The bracket cannot be closed at once: the first item would start with the closing one.
      next after closed =>
        obtain ⟨c, more, whole, opens⟩ := starts
        rw [skipped, whole, List.cons_append] at closed
        rw [(List.cons.inj closed).1] at opens
        exact absurd opens (by decide)
      next =>
        rw [read]
        rfl

/-! ### Objects -/

private theorem skip_writeQuoted (escape : Char → List Char) (s : String) (rest : List Char) :
    skip (writeQuoted escape s ++ rest) = writeQuoted escape s ++ rest :=
  skip_cons (by decide) _

/-- The parts of a member are read one after the other, if its value is read back. -/
theorem readMember_parts (escapes : IsEscape escape) (plain : separators.IsPlain) (name : String)
    {value : Json} (exact : value.IsExact) (back : ReadsBack escape separators value)
    {tail : List Char} (stops : StopsNumber tail) :
    ∃ after,
      (∃ shorter, readQuoted .expectingName
          (writeQuoted escape name ++
            (separators.name ++ (writeWith escape separators value ++ tail))) =
        .ok ⟨name, separators.name ++ (writeWith escape separators value ++ tail), shorter⟩) ∧
      (∃ shorter, readMark ':' .expectingColon
          (separators.name ++ (writeWith escape separators value ++ tail)) =
        .ok ⟨(), after, shorter⟩) ∧
      ∃ shorter, readValue (skip after) = .ok ⟨value, tail, shorter⟩ := by
  obtain ⟨after, colon, skipped⟩ := readMark_name plain (writeWith escape separators value ++ tail)
  refine ⟨after, readQuoted_writeQuoted escapes .expectingName name _, colon, ?_⟩
  rw [skipped, exact.startsValue.skip_append]
  exact back tail stops

/-- Members are read back, if the value of each of them is. -/
theorem readMembers_writeMembersWith (escapes : IsEscape escape) (plain : separators.IsPlain)
    {name : String} {value : Json} {members : List (String × Json)}
    (each : ∀ member ∈ (name, value) :: members, IsExact member.2)
    (back : ∀ member ∈ (name, value) :: members, ReadsBack escape separators member.2)
    (rest : List Char) :
    ∃ shorter, readMembers (writeQuoted escape name ++ (separators.name ++
        (writeWith escape separators value ++
          (writeMembersWith escape separators members ++ rest)))) =
      .ok ⟨(name, value) :: members, rest, shorter⟩ := by
  have exact := each (name, value) List.mem_cons_self
  have backHere := back (name, value) List.mem_cons_self
  induction members generalizing name value with
  | nil =>
      obtain ⟨after, ⟨_, named⟩, ⟨_, colon⟩, _, first⟩ :=
        readMember_parts escapes plain name exact backHere
          (stopsNumber_cons (by decide) rest : StopsNumber ('\x7d' :: rest))
      obtain ⟨_, closed⟩ :=
        readMark_cons .expectingComma (by decide : isFiller '\x7d' = false) rest
      apply exists_shorter
      change Except.map _ (readMembers (writeQuoted escape name ++
        (separators.name ++ (writeWith escape separators value ++ '\x7d' :: rest)))) = _
      rw [readMembers, named]
      simp only [colon, first, closed]
      rfl
  | cons next members inductionHypothesis =>
      obtain ⟨nextName, nextValue⟩ := next
      have written : writeMembersWith escape separators ((nextName, nextValue) :: members) ++ rest =
          separators.item ++ (writeQuoted escape nextName ++ (separators.name ++
            (writeWith escape separators nextValue ++
              (writeMembersWith escape separators members ++ rest)))) := by
        simp [writeMembersWith]
      obtain ⟨later, ⟨fault, goesOn⟩, ⟨_, comma⟩, passed⟩ := readMark_item plain
        (by decide : ',' ≠ '\x7d') (writeQuoted escape nextName ++ (separators.name ++
            (writeWith escape separators nextValue ++
              (writeMembersWith escape separators members ++ rest))))
      obtain ⟨after, ⟨_, named⟩, ⟨_, colon⟩, _, first⟩ :=
        readMember_parts escapes plain name exact backHere
          (stopsNumber_item plain (writeQuoted escape nextName ++ (separators.name ++
            (writeWith escape separators nextValue ++
              (writeMembersWith escape separators members ++ rest)))))
      have eachLater : ∀ member ∈ (nextName, nextValue) :: members, IsExact member.2 :=
        fun other there => each other (List.mem_cons_of_mem _ there)
      have backLater : ∀ member ∈ (nextName, nextValue) :: members,
          ReadsBack escape separators member.2 :=
        fun other there => back other (List.mem_cons_of_mem _ there)
      obtain ⟨_, others⟩ : ∃ shorter, readMembers (skip later) =
          .ok ⟨(nextName, nextValue) :: members, rest, shorter⟩ := by
        rw [passed, skip_writeQuoted]
        exact inductionHypothesis eachLater backLater (eachLater _ List.mem_cons_self)
          (backLater _ List.mem_cons_self)
      rw [written]
      apply exists_shorter
      rw [readMembers, named]
      simp only [colon, first, goesOn, comma, others]
      rfl

/-- An object is read back, if no name stands twice in it and its values are read back. -/
theorem readsBack_object (escapes : IsEscape escape) (plain : separators.IsPlain)
    {members : List (String × Json)} (distinct : (Keyed.keys members).Nodup)
    (each : ∀ member ∈ members, IsExact member.2)
    (back : ∀ member ∈ members, ReadsBack escape separators member.2) :
    ReadsBack escape separators (.object members) := by
  intro rest _
  apply exists_shorter
  cases members with
  | nil =>
      change Except.map _ (readValue ('\x7b' :: '\x7d' :: rest)) = _
      rw [readValue]
      rfl
  | cons member members =>
      obtain ⟨name, value⟩ := member
      have skipped := skip_writeQuoted escape name (separators.name ++
        (writeWith escape separators value ++ (writeMembersWith escape separators members ++ rest)))
      obtain ⟨_, read⟩ : ∃ shorter, readMembers (skip (writeQuoted escape name ++
          (separators.name ++ (writeWith escape separators value ++
            (writeMembersWith escape separators members ++ rest))))) =
            .ok ⟨(name, value) :: members, rest, shorter⟩ := by
        rw [skipped]
        exact readMembers_writeMembersWith escapes plain each back rest
      have written : writeWith escape separators (.object ((name, value) :: members)) ++ rest =
          '\x7b' :: (writeQuoted escape name ++ (separators.name ++
            (writeWith escape separators value ++
              (writeMembersWith escape separators members ++ rest)))) := by
        simp [writeWith]
      rw [written, readValue]
      split
      next after closed =>
        rw [skipped] at closed
        exact absurd (List.cons.inj closed).1 (by decide)
      next =>
        rw [read]
        simp only [Except.map, Parsed.widen, Keyed.ofPairs_of_nodup distinct]

/-! ### Whole documents -/

/-- An exact value is read back. -/
theorem IsExact.readsBack (escapes : IsEscape escape) (plain : separators.IsPlain)
    (exact : value.IsExact) : ReadsBack escape separators value := by
  induction exact with
  | null => exact readsBack_null
  | bool b => exact readsBack_bool b
  | int short => exact readsBack_int short
  | text s => exact readsBack_text escapes s
  | list each inductionHypothesis => exact readsBack_list plain each inductionHypothesis
  | object distinct each inductionHypothesis =>
      exact readsBack_object escapes plain distinct each inductionHypothesis

/-- A document that is written for an exact value is read as that value, with any escapes. -/
theorem parse_writeWith (escapes : IsEscape escape) (plain : separators.IsPlain)
    (exact : value.IsExact) :
    parse (String.ofList (writeWith escape separators value)) = .ok value := by
  have stops : StopsNumber [] := by
    intro c first
    cases first
  have starts : StartsValue (writeWith escape separators value) := exact.startsValue
  obtain ⟨shorter, read⟩ : ∃ shorter,
      readValue (skip (writeWith escape separators value)) = .ok ⟨value, [], shorter⟩ := by
    rw [← List.append_nil (writeWith escape separators value), starts.skip_append]
    exact exact.readsBack escapes plain [] stops
  rw [parse_eq_ok_iff, String.toList_ofList]
  exact ⟨_, read, rfl, rfl⟩

/-- A document that is written for an exact value is read as that value. -/
theorem parse_render (plain : separators.IsPlain) (exact : value.IsExact) :
    parse (render separators value) = .ok value := by
  rw [render, write_eq_writeWith]
  exact parse_writeWith escapeChar_isEscape plain exact

/-- The text of an exact value tells which value that is. -/
theorem render_injective (plain : separators.IsPlain) {other : Json} (exact : value.IsExact)
    (exactToo : other.IsExact) (same : render separators value = render separators other) :
    value = other := by
  have read := parse_render plain exact
  rw [same, parse_render plain exactToo] at read
  exact (Except.ok.inj read).symm

end Json

end ReviewGroups
