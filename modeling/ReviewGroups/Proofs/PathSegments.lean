/-
Module: ReviewGroups.Proofs.PathSegments
Purpose: Paths as segments between slashes, and what is left of them once segments of dots are
  resolved. Resolving is a fold over the segments with the path so far as a stack; a path is normal
  if it is left as it is. That resolving is done twice on the way to a request does no harm to a
  path that is normal, and escaping keeps a path normal.
Trusted boundary: none
Main exports: Text.splitAt_eq_splitOn, rooted, splitAt_append_rooted, IsDots, IsNormal,
  normalizePath_of_isNormal, normalizePath_dot, normalizePath_dots, isNormal_normalizePath,
  isNormal_encode
-/
import ReviewGroups.Proofs.PercentCode

namespace ReviewGroups

namespace Text

variable {mark : Char} {cs piece : List Char}

/-- Cutting at a character is splitting a list on it. -/
theorem splitAt_eq_splitOn (mark : Char) (cs : List Char) : splitAt mark cs = cs.splitOn mark := by
  induction cs with
  | nil => rfl
  | cons c cs inductionHypothesis =>
      rw [splitAt, List.splitOn_cons_eq_if_modifyHead, inductionHypothesis]
      by_cases hit : c = mark
      · simp [hit]
      · obtain ⟨piece, pieces, split⟩ := List.exists_cons_of_ne_nil (List.splitOn_ne_nil mark cs)
        simp [hit, split]

/-- No piece has the character at which a text is cut. -/
theorem not_mem_of_mem_splitAt (present : piece ∈ splitAt mark cs) : mark ∉ piece := by
  induction cs generalizing piece with
  | nil =>
      rw [splitAt, List.mem_singleton] at present
      simp [present]
  | cons c cs inductionHypothesis =>
      by_cases hit : c = mark
      · rw [splitAt, if_pos hit, List.mem_cons] at present
        rcases present with rfl | later
        · simp
        · exact inductionHypothesis later
      · obtain ⟨head, pieces, split⟩ := List.exists_cons_of_ne_nil (splitAt_ne_nil mark cs)
        rw [splitAt, if_neg hit, split, List.mem_cons] at present
        rcases present with rfl | later
        · have clean : mark ∉ head := inductionHypothesis (split ▸ List.mem_cons_self)
          simp [Ne.symm hit, clean]
        · exact inductionHypothesis (split ▸ List.mem_cons_of_mem _ later)

/-- The pieces of a text have its characters. -/
theorem mem_of_mem_splitAt {c : Char} (present : piece ∈ splitAt mark cs) (inside : c ∈ piece) :
    c ∈ cs := by
  induction cs generalizing piece with
  | nil =>
      rw [splitAt, List.mem_singleton] at present
      rwa [present] at inside
  | cons first cs inductionHypothesis =>
      by_cases hit : first = mark
      · rw [splitAt, if_pos hit, List.mem_cons] at present
        rcases present with rfl | later
        · cases inside
        · exact List.mem_cons_of_mem first (inductionHypothesis later inside)
      · obtain ⟨head, pieces, split⟩ := List.exists_cons_of_ne_nil (splitAt_ne_nil mark cs)
        rw [splitAt, if_neg hit, split, List.mem_cons] at present
        rcases present with rfl | later
        · rcases List.mem_cons.1 inside with rfl | there
          · exact List.mem_cons_self
          · exact List.mem_cons_of_mem first
              (inductionHypothesis (split ▸ List.mem_cons_self) there)
        · exact List.mem_cons_of_mem first
            (inductionHypothesis (split ▸ List.mem_cons_of_mem _ later) inside)

/-- What pieces are joined to has their characters, and the one between them. -/
theorem mem_intercalate {c : Char} {pieces : List (List Char)}
    (present : c ∈ List.intercalate [mark] pieces) : c = mark ∨ ∃ piece ∈ pieces, c ∈ piece := by
  induction pieces with
  | nil => cases present
  | cons piece pieces inductionHypothesis =>
      cases pieces with
      | nil => exact .inr ⟨piece, List.mem_cons_self, by simpa using present⟩
      | cons next pieces =>
          rw [List.intercalate_cons_cons, List.append_assoc, List.mem_append, List.mem_append,
            List.mem_singleton] at present
          rcases present with here | isMark | there
          · exact .inr ⟨piece, List.mem_cons_self, here⟩
          · exact .inl isMark
          · rcases inductionHypothesis there with isMark | ⟨other, later, inside⟩
            · exact .inl isMark
            · exact .inr ⟨other, List.mem_cons_of_mem _ later, inside⟩

/-- A text is cut at the first occurrence of a character. -/
theorem cutAt_eq_some_iff {before after : List Char} :
    cutAt mark cs = some (before, after) ↔ mark ∉ before ∧ cs = before ++ mark :: after := by
  induction cs generalizing before with
  | nil => simp [cutAt]
  | cons c cs inductionHypothesis =>
      by_cases hit : c = mark
      · cases before with
        | nil => simp [cutAt, hit, eq_comm]
        | cons first before => simp_all [cutAt, eq_comm]
      · cases before with
        | nil => simp [cutAt, hit]
        | cons first before => simp [cutAt, hit, inductionHypothesis]; grind

/-- A text is not cut exactly if it is without the character to cut it at. -/
theorem cutAt_eq_none_iff {mark : Char} {cs : List Char} : cutAt mark cs = none ↔ mark ∉ cs := by
  induction cs with
  | nil => simp [cutAt]
  | cons c cs inductionHypothesis =>
      by_cases hit : c = mark
      · simp [cutAt, hit]
      · simp [cutAt, hit, inductionHypothesis, Ne.symm hit]

end Text

namespace Url

open Text

variable {path : List Char} {segment : List Char} {segments before : List (List Char)}

/-- A path of segments, each behind a slash. -/
def rooted (segments : List (List Char)) : List Char :=
  segments.flatMap fun segment => '/' :: segment

/-- A path of segments consists of slashes and their characters. -/
theorem mem_rooted {c : Char} (present : c ∈ rooted segments) :
    c = '/' ∨ ∃ segment ∈ segments, c ∈ segment := by
  obtain ⟨segment, there, present⟩ := List.mem_flatMap.1 present
  rcases List.mem_cons.1 present with slash | inside
  · exact .inl slash
  · exact .inr ⟨segment, there, inside⟩

/-- Segments that are appended to a path are its last ones. -/
theorem splitAt_append_rooted (path : List Char) (plain : ∀ segment ∈ segments, '/' ∉ segment) :
    splitAt '/' (path ++ rooted segments) = splitAt '/' path ++ segments := by
  induction segments generalizing path with
  | nil => simp [rooted]
  | cons segment segments inductionHypothesis =>
      have shifted : path ++ rooted (segment :: segments) =
          (path ++ '/' :: segment) ++ rooted segments := by
        simp [rooted]
      have single : splitAt '/' segment = [segment] := by
        rw [splitAt_eq_splitOn]
        exact List.splitOn_eq_singleton (plain segment List.mem_cons_self)
      rw [shifted, inductionHypothesis]
      · rw [splitAt_eq_splitOn, List.splitOn_append_cons_self, ← splitAt_eq_splitOn,
          ← splitAt_eq_splitOn, single, List.append_assoc, List.singleton_append]
      · intro other present
        exact plain other (List.mem_cons_of_mem _ present)

private theorem intercalate_splitAt_append (path : List Char)
    (plain : ∀ segment ∈ segments, '/' ∉ segment) :
    List.intercalate ['/'] (splitAt '/' path ++ segments) = path ++ rooted segments := by
  rw [← splitAt_append_rooted path plain, splitAt_eq_splitOn, List.intercalate_splitOn]

/-! ### Segments of dots -/

/-- A segment that does not stay when a path is brought to normal form. -/
def IsDots (segment : List Char) : Prop :=
  segment = ['.'] ∨ segment = ['.', '.']

/-- No segment of a path is one of dots. -/
def IsNormal (path : List Char) : Prop :=
  ∀ segment ∈ splitAt '/' path, ¬ IsDots segment

/-- A path without segments of dots is in normal form. -/
theorem normalizePath_of_isNormal (normal : IsNormal path) : normalizePath path = path := by
  have none : ¬ (['.'] ∈ splitAt '/' path ∨ ['.', '.'] ∈ splitAt '/' path) := by
    rintro (present | present)
    · exact normal _ present (.inl rfl)
    · exact normal _ present (.inr rfl)
  unfold normalizePath
  rw [if_neg none]

/-- A path that has a segment of dots is brought to normal form segment by segment. -/
theorem normalizePath_of_isDots (present : segment ∈ splitAt '/' path) (dots : IsDots segment) :
    normalizePath path =
      List.intercalate ['/'] ((splitAt '/' path).foldl resolveSegment []).reverse := by
  have some : ['.'] ∈ splitAt '/' path ∨ ['.', '.'] ∈ splitAt '/' path := by
    rcases dots with rfl | rfl
    · exact .inl present
    · exact .inr present
  unfold normalizePath
  rw [if_pos some]

/-- Segments that are not of dots are kept. -/
theorem foldl_resolveSegment (plain : ∀ segment ∈ segments, ¬ IsDots segment) :
    segments.foldl resolveSegment before = segments.reverse ++ before := by
  induction segments generalizing before with
  | nil => rfl
  | cons segment segments inductionHypothesis =>
      have kept : resolveSegment before segment = segment :: before := by
        have plain := plain segment List.mem_cons_self
        unfold resolveSegment
        rw [if_neg fun dot => plain (.inl dot), if_neg fun dots => plain (.inr dots)]
      rw [List.foldl_cons, kept, inductionHypothesis]
      · simp
      · intro other present
        exact plain other (List.mem_cons_of_mem _ present)

/-- Only segments that are not of dots are left, and no others than there were. -/
theorem mem_foldl_resolveSegment (left : segment ∈ segments.foldl resolveSegment before) :
    segment ∈ before ∨ (segment ∈ segments ∧ ¬ IsDots segment) := by
  induction segments generalizing before with
  | nil => exact .inl left
  | cons first segments inductionHypothesis =>
      rcases inductionHypothesis left with earlier | ⟨later, plain⟩
      · unfold resolveSegment at earlier
        split_ifs at earlier with dot dots alone
        · exact .inl earlier
        · exact .inl earlier
        · exact .inl (List.mem_of_mem_drop earlier)
        · rcases List.mem_cons.1 earlier with rfl | earlier
          · exact .inr ⟨List.mem_cons_self, not_or.2 ⟨dot, dots⟩⟩
          · exact .inl earlier
      · exact .inr ⟨List.mem_cons_of_mem _ later, plain⟩

private theorem splitAt_intercalate (some : segments ≠ [])
    (plain : ∀ segment ∈ segments, '/' ∉ segment) :
    splitAt '/' (List.intercalate ['/'] segments) = segments := by
  rw [splitAt_eq_splitOn]
  exact List.splitOn_intercalate '/' plain some

private theorem isNormal_intercalate
    (plain : ∀ segment ∈ segments, '/' ∉ segment ∧ ¬ IsDots segment) :
    IsNormal (List.intercalate ['/'] segments) := by
  intro segment present
  by_cases none : segments = []
  · subst none
    rw [List.intercalate_nil, splitAt, List.mem_singleton] at present
    rintro (dot | dots) <;> simp_all
  · rw [splitAt_intercalate none fun other there => (plain other there).1] at present
    exact (plain segment present).2

/-- In normal form no segment is one of dots. -/
theorem isNormal_normalizePath (path : List Char) : IsNormal (normalizePath path) := by
  by_cases dotted : ∃ segment ∈ splitAt '/' path, IsDots segment
  · obtain ⟨segment, present, dots⟩ := dotted
    rw [normalizePath_of_isDots present dots]
    apply isNormal_intercalate
    intro other left
    rcases mem_foldl_resolveSegment (List.mem_reverse.1 left) with none | ⟨there, plain⟩
    · cases none
    · exact ⟨not_mem_of_mem_splitAt there, plain⟩
  · have normal : IsNormal path := fun segment present dots => dotted ⟨segment, present, dots⟩
    rw [normalizePath_of_isNormal normal]
    exact normal

/-! ### A path with one segment among others that could be of dots -/

variable {front back : List (List Char)}

/-- Segments that are not of dots leave a path in normal form as it is. -/
theorem isNormal_append_rooted (normal : IsNormal path)
    (plain : ∀ segment ∈ segments, '/' ∉ segment ∧ ¬ IsDots segment) :
    IsNormal (path ++ rooted segments) := by
  intro segment present
  rw [splitAt_append_rooted path fun other there => (plain other there).1] at present
  rcases List.mem_append.1 present with there | here
  · exact normal segment there
  · exact (plain segment here).2

/-- Of a path with one segment of dots, it is decided by that segment which ones before it are kept;
those after it all are. -/
theorem normalizePath_of_resolveSegment {dots : List Char} {kept : List (List Char)}
    (normal : IsNormal path) (isDots : IsDots dots)
    (plain : ∀ segment ∈ front ++ back, '/' ∉ segment ∧ ¬ IsDots segment)
    (fewer : ∀ segment ∈ kept, segment ∈ front)
    (resolved : resolveSegment (front.reverse ++ (splitAt '/' path).reverse) dots =
      kept.reverse ++ (splitAt '/' path).reverse) :
    normalizePath (path ++ rooted (front ++ dots :: back)) = path ++ rooted (kept ++ back) := by
  have noSlash : ∀ segment ∈ front ++ dots :: back, '/' ∉ segment := by
    intro segment present
    rcases List.mem_append.1 present with there | here
    · exact (plain segment (List.mem_append_left _ there)).1
    · rcases List.mem_cons.1 here with rfl | there
      · rcases isDots with rfl | rfl <;> decide
      · exact (plain segment (List.mem_append_right _ there)).1
  have keptPlain : ∀ segment ∈ kept ++ back, '/' ∉ segment := by
    intro segment present
    rcases List.mem_append.1 present with there | here
    · exact (plain segment (List.mem_append_left _ (fewer segment there))).1
    · exact (plain segment (List.mem_append_right _ here)).1
  have split := splitAt_append_rooted path noSlash
  have present : dots ∈ splitAt '/' (path ++ rooted (front ++ dots :: back)) := by
    rw [split]
    simp
  have before : (splitAt '/' path ++ front).foldl resolveSegment [] =
      front.reverse ++ (splitAt '/' path).reverse := by
    rw [foldl_resolveSegment, List.reverse_append, List.append_nil]
    intro segment present
    rcases List.mem_append.1 present with there | here
    · exact normal segment there
    · exact (plain segment (List.mem_append_left _ here)).2
  have after : ∀ before, back.foldl resolveSegment before = back.reverse ++ before := by
    intro before
    apply foldl_resolveSegment
    intro segment there
    exact (plain segment (List.mem_append_right _ there)).2
  rw [normalizePath_of_isDots present isDots, split, ← List.append_assoc, List.foldl_append,
    List.foldl_cons, before, resolved, after, ← intercalate_splitAt_append path keptPlain]
  simp

/-- One dot goes. -/
theorem normalizePath_dot (normal : IsNormal path)
    (plain : ∀ segment ∈ front ++ back, '/' ∉ segment ∧ ¬ IsDots segment) :
    normalizePath (path ++ rooted (front ++ ['.'] :: back)) = path ++ rooted (front ++ back) :=
  normalizePath_of_resolveSegment normal (.inl rfl) plain (fun _ there => there) rfl

/-- Two dots take the segment before them along. -/
theorem normalizePath_dots {last : List Char} (normal : IsNormal path)
    (plain : ∀ segment ∈ (front ++ [last]) ++ back, '/' ∉ segment ∧ ¬ IsDots segment) :
    normalizePath (path ++ rooted ((front ++ [last]) ++ ['.', '.'] :: back)) =
      path ++ rooted (front ++ back) := by
  apply normalizePath_of_resolveSegment normal (.inr rfl) plain
  · intro other there
    exact List.mem_append_left _ there
  · have several : (front ++ [last]).reverse ++ (splitAt '/' path).reverse ≠ [[]] := by
      intro single
      have length := congrArg List.length single
      have some := List.length_pos_iff.2 (splitAt_ne_nil '/' path)
      simp only [List.length_append, List.length_reverse, List.length_singleton] at length
      omega
    unfold resolveSegment
    rw [if_neg (by decide), if_pos rfl, if_neg several]
    simp

/-- A segment of dots leaves less than an empty segment in its place would, if there is one before
it. -/
theorem normalizePath_shorter (normal : IsNormal path) (dots : IsDots segment) (some : front ≠ [])
    (plain : ∀ segment ∈ front ++ back, '/' ∉ segment ∧ ¬ IsDots segment) :
    ∃ kept : List (List Char),
      normalizePath (path ++ rooted (front ++ segment :: back)) = path ++ rooted kept ∧
        (∀ segment ∈ kept, segment ∈ front ++ back) ∧
        (rooted kept).length < (rooted (front ++ [] :: back)).length := by
  rcases dots with rfl | rfl
  · refine ⟨front ++ back, normalizePath_dot normal plain, fun _ there => there, ?_⟩
    simp only [rooted, List.flatMap_append, List.flatMap_cons, List.length_append,
      List.length_singleton]
    omega
  · rcases List.eq_nil_or_concat front with none | ⟨before, last, whole⟩
    · exact absurd none some
    · rw [List.concat_eq_append] at whole
      subst whole
      refine ⟨before ++ back, normalizePath_dots normal plain, ?_, ?_⟩
      · intro segment there
        rcases List.mem_append.1 there with earlier | later
        · exact List.mem_append_left _ (List.mem_append_left _ earlier)
        · exact List.mem_append_right _ later
      · simp only [rooted, List.flatMap_append, List.flatMap_cons, List.flatMap_nil,
          List.length_append, List.length_cons, List.length_nil]
        omega

/-! ### Escapes in a path -/

/-- A path is escaped segment by segment. -/
theorem encode_intercalate {stays : Char → Bool} (slash : stays '/' = true)
    (segments : List (List Char)) :
    Percent.encode stays (List.intercalate ['/'] segments) =
      List.intercalate ['/'] (segments.map (Percent.encode stays)) := by
  induction segments with
  | nil => rfl
  | cons segment segments inductionHypothesis =>
      cases segments with
      | nil => simp
      | cons next segments =>
          have single : Percent.encode stays ['/'] = ['/'] := by
            simp [Percent.encode, slash]
          rw [List.intercalate_cons_cons, Percent.encode_append, Percent.encode_append, single,
            inductionHypothesis]
          simp

/-- An escaped segment is one of dots only if it was one before. -/
theorem isDots_of_encode {stays : Char → Bool} (dots : IsDots (Percent.encode stays segment)) :
    IsDots segment := by
  have clean : '%' ∉ Percent.encode stays segment := by
    rcases dots with dot | dots
    · rw [dot]
      decide
    · rw [dots]
      decide
  rwa [Percent.encode_eq_self_of_not_mem clean] at dots

/-- A path stays in normal form when it is escaped. -/
theorem isNormal_encode {stays : Char → Bool} (slash : stays '/' = true) (normal : IsNormal path) :
    IsNormal (Percent.encode stays path) := by
  have joined : List.intercalate ['/'] (splitAt '/' path) = path := by
    rw [splitAt_eq_splitOn, List.intercalate_splitOn]
  rw [← joined, encode_intercalate slash]
  apply isNormal_intercalate
  intro segment present
  obtain ⟨piece, there, rfl⟩ := List.mem_map.1 present
  constructor
  · intro inside
    rcases Percent.mem_encode inside with ⟨before, -⟩ | percent | plain
    · exact not_mem_of_mem_splitAt there before
    · exact absurd percent (by decide)
    · exact absurd plain (by decide)
  · intro dots
    exact normal piece there (isDots_of_encode dots)

end Url

end ReviewGroups
