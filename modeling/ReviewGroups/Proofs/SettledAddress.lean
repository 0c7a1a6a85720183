/-
Module: ReviewGroups.Proofs.SettledAddress
Purpose: An address that was read keeps its path, whatever else of it is replaced, and paths are
  appended to it as they are. Settled is what an address is after it was put together once: its path
  is normal and escaped, and so the passes that come later change nothing. Unlike in `AppendedPath`
  nothing is assumed of the text it was read from.
Trusted boundary: none
Main exports: Address.IsSettled, Address.isSettled_of_parse, Address.path_of_rebuild, Address.stem,
  Address.IsSettled.rawPath_of_asBase, Address.IsSettled.path_of_append
-/
import ReviewGroups.Proofs.AppendedPath

namespace ReviewGroups.Url.Address

open Text

variable {address changed : Address}

/-- The path of an address stays as it is when the address is put together once more: nothing in it
needs an escape, and it has no segments of dots, unless no scheme and no authority stand before it
and such segments are left alone. -/
structure IsSettled (address : Address) : Prop where
  normal : (address.scheme = "" ∧ address.authority = []) ∨ IsNormal address.path.toList
  escaped : Percent.encode pathStays address.path.toList = address.path.toList

/-- What components are assembled to is settled. -/
theorem isSettled_of_assemble {components : Components} {authority : Authority}
    (assembled : assemble components authority = .ok address) : IsSettled address := by
  unfold assemble at assembled
  obtain ⟨host, -, assembled⟩ := Result.bind_eq_ok_iff.1 assembled
  obtain ⟨port, -, assembled⟩ := Result.bind_eq_ok_iff.1 assembled
  obtain ⟨_, -, assembled⟩ := Result.bind_eq_ok_iff.1 assembled
  cases assembled
  constructor
  case normal =>
      dsimp only
      split
      next =>
        right
        rw [String.toList_ofList]
        exact isNormal_encode (by decide) (isNormal_normalizePath _)
      next alone =>
        left
        simp only [Bool.or_eq_true, Bool.not_eq_true', not_or, Bool.not_eq_false,
          Bool.not_eq_true, List.isEmpty_iff, Option.isSome_eq_false_iff,
          Option.isNone_iff_eq_none] at alone
        obtain ⟨noScheme, ⟨noUser, noHost⟩, noPort⟩ := alone
        simp [Address.authority, location, noScheme, noUser, noHost, noPort]
  case escaped =>
      rw [String.toList_ofList]
      exact encode_pathStays_encode _

/-- What a text is read as is settled. -/
theorem isSettled_of_parse {text : String} (read : parse text = .ok address) : IsSettled address :=
  isSettled_of_assemble (assemble_of_parse read)

private theorem path_of_assemble {components : Components} {authority : Authority}
    (normal : IsNormal components.path) (assembled : assemble components authority = .ok address) :
    address.path.toList = Percent.encode pathStays components.path := by
  unfold assemble at assembled
  obtain ⟨host, -, assembled⟩ := Result.bind_eq_ok_iff.1 assembled
  obtain ⟨port, -, assembled⟩ := Result.bind_eq_ok_iff.1 assembled
  obtain ⟨_, -, assembled⟩ := Result.bind_eq_ok_iff.1 assembled
  cases assembled
  simp only [normalizePath_of_isNormal normal, ite_self, String.toList_ofList]

/-- A settled address that is given another path has that path, if that has segments of dots only
where they are left alone and nothing in it needs an escape. -/
theorem IsSettled.path_of_rebuild {path : List Char} {query : Option (List Char)}
    (settled : IsSettled address) (keeps : IsNormal address.path.toList → IsNormal path)
    (escaped : Percent.encode pathStays path = path)
    (rebuilt : rebuild { address.components with path := path, query := query } = .ok changed) :
    changed.path.toList = path := by
  have assembled := assemble_of_rebuild rebuilt
  rcases settled.normal with ⟨noScheme, noAuthority⟩ | normal
  -- Without scheme and host, segments of dots are left alone, so the path need not be normal.
  · simp only [components, noScheme, noAuthority, String.toList_empty] at assembled
    rw [assemble_relative] at assembled
    obtain ⟨_, -, rfl⟩ := Result.map_eq_ok_iff.1 assembled
    rw [String.toList_ofList, escaped]
  · rw [path_of_assemble (keeps normal) assembled, escaped]

private theorem isSettled_of_rebuild {components : Components}
    (rebuilt : rebuild components = .ok changed) : IsSettled changed :=
  isSettled_of_assemble (assemble_of_rebuild rebuilt)

/-- A settled address that is given a path without a query has that path and no query. -/
theorem IsSettled.path_of_withRawPath {raw : List Char} (settled : IsSettled address)
    (keeps : IsNormal address.path.toList → IsNormal raw)
    (escaped : Percent.encode pathStays raw = raw)
    (replaced : address.withRawPath raw = .ok changed) :
    IsSettled changed ∧ changed.path.toList = raw ∧ changed.query = none := by
  have noMark : '?' ∉ raw := by
    rw [← escaped]
    intro present
    exact absurd (Percent.mem_of_mem_encode (by decide) present).2 (by decide)
  unfold withRawPath at replaced
  rw [cutAt_eq_none_iff.2 noMark] at replaced
  exact ⟨isSettled_of_rebuild replaced, settled.path_of_rebuild keeps escaped replaced,
    (isAssembled_of_rebuild replaced).query⟩

/-- A settled address that is given another query keeps its path. -/
theorem IsSettled.path_of_withQuery {query : Option (List Char)} (settled : IsSettled address)
    (replaced : address.withQuery query = .ok changed) :
    changed.path = address.path ∧
      changed.query = query.map fun query => String.ofList (Percent.encode queryStays query) := by
  refine ⟨?_, (isAssembled_of_rebuild replaced).query⟩
  apply String.toList_injective
  have rebuilt : rebuild { address.components with
      path := address.path.toList, query := query } = .ok changed := replaced
  exact settled.path_of_rebuild id settled.escaped rebuilt

/-! ### What others are appended to -/

/-- The path of an address without the slash at its end. -/
def stem (address : Address) : List Char :=
  if address.path.toList.getLast? = some '/' then address.path.toList.dropLast
  else address.path.toList

private theorem path_eq_stem (address : Address) :
    address.path.toList = address.stem ∧ address.path.toList.getLast? ≠ some '/' ∨
      address.path.toList = address.stem ++ ['/'] := by
  unfold stem
  split
  next slash => exact .inr (List.dropLast_append_getLast? _ slash).symm
  next other => exact .inl ⟨rfl, other⟩

private theorem isNormal_append_slash {path : List Char} :
    IsNormal (path ++ ['/']) ↔ IsNormal path := by
  have split : Text.splitAt '/' (path ++ rooted [[]]) = Text.splitAt '/' path ++ [[]] :=
    splitAt_append_rooted path (by simp)
  change (∀ segment ∈ Text.splitAt '/' (path ++ rooted [[]]), ¬ IsDots segment) ↔ IsNormal path
  rw [split]
  simp [IsNormal, IsDots, or_imp, forall_and]

private theorem isNormal_stem (normal : IsNormal address.path.toList) : IsNormal address.stem := by
  rcases path_eq_stem address with ⟨same, -⟩ | slashed
  · rwa [← same]
  · rw [slashed] at normal
    exact isNormal_append_slash.1 normal

/-- Nothing in the stem of a settled address needs an escape. -/
theorem IsSettled.encode_stem (settled : IsSettled address) :
    Percent.encode pathStays address.stem = address.stem := by
  have escaped := settled.escaped
  rcases path_eq_stem address with ⟨same, -⟩ | slashed
  · rwa [← same]
  · rw [slashed, Percent.encode_append] at escaped
    exact List.append_cancel_right escaped

/-- Others are appended to a settled address behind its stem and a slash. -/
theorem IsSettled.rawPath_of_asBase {base : Address} (settled : IsSettled address)
    (noQuery : address.query = none) (based : address.asBase = .ok base) :
    IsSettled base ∧ base.stem = address.stem ∧ base.rawPath = base.stem ++ ['/'] := by
  unfold asBase at based
  by_cases none : address.path = ""
  · have raw : address.rawPath = ['/'] := by
      simp [rawPath, none, noQuery]
    rw [raw, if_pos (by decide)] at based
    cases based
    exact ⟨settled, rfl, by simp [raw, stem, none]⟩
  · have raw : address.rawPath = address.path.toList := by
      simp [rawPath, none, noQuery]
    rw [raw] at based
    rcases path_eq_stem address with ⟨same, other⟩ | slashed
    · have escaped : Percent.encode pathStays (address.path.toList ++ ['/']) =
          address.path.toList ++ ['/'] := by
        rw [Percent.encode_append, settled.escaped]
        rfl
      rw [if_neg other] at based
      obtain ⟨settledToo, path, noQuery⟩ :=
        settled.path_of_withRawPath isNormal_append_slash.2 escaped based
      have ended : base.stem = address.path.toList := by
        simp [stem, path]
      refine ⟨settledToo, ended.trans same, ?_⟩
      have some : base.path ≠ "" := by
        intro none
        rw [none] at path
        simp at path
      simp [rawPath, some, noQuery, path, ended]
    · rw [if_pos (by simp [slashed])] at based
      cases based
      exact ⟨settled, rfl, raw.trans slashed⟩

/-- A path that is appended to a settled address stands behind its stem as it is. -/
theorem IsSettled.path_of_append {base reference : Address} {rest : List Char}
    (settled : IsSettled base) (raw : base.rawPath = base.stem ++ ['/'])
    (relative : reference.isAbsolute = false) (written : reference.rawPath = '/' :: rest)
    (single : rest.head? ≠ some '/') (clean : ∀ c ∈ rest, pathStays c = true)
    (plain : IsNormal base.stem → IsNormal (base.stem ++ '/' :: rest))
    (appended : base.append reference = .ok changed) :
    IsSettled changed ∧ changed.path.toList = base.stem ++ '/' :: rest ∧ changed.query = none := by
  have escaped :
      Percent.encode pathStays (base.stem ++ '/' :: rest) = base.stem ++ '/' :: rest := by
    have kept : Percent.encode pathStays ('/' :: rest) = '/' :: rest := by
      apply Percent.encode_of_stays
      intro c present
      rcases List.mem_cons.1 present with rfl | later
      · decide
      · exact clean c later
    rw [Percent.encode_append, settled.encode_stem, kept]
  rw [append_eq raw relative written single] at appended
  exact settled.path_of_withRawPath (plain ∘ isNormal_stem) escaped appended

end ReviewGroups.Url.Address
