/-
Module: ReviewGroups.Proofs.AppendedPath
Purpose: The path of an address that a path is appended to, from the text of the one and the text of
  the other. An address is taken apart and put together again at every step (reading, making a base,
  appending, replacing a query), and each step escapes, resolves and checks once more; what is
  proved of a step is therefore what it does to the raw path, and the steps are chained on raw
  paths. Base addresses are plain here: an absolute address with a path that stays as it is.
  `SettledAddress` lifts that restriction.
Trusted boundary: none
Main exports: Address.IsAssembled, Address.IsPlainBase, Address.IsPlainBase.rawPath_of_asBase,
  Address.path_of_withRawPath, Address.path_of_withQuery, Address.path_of_append
-/
import Mathlib.Data.List.TakeWhile
import ReviewGroups.Proofs.PathSegments
import ReviewGroups.Proofs.Result

namespace ReviewGroups.Url

open Text

/-! ### Characters of a path -/

theorem pathStays_of_isUnreserved {c : Char} (plain : Percent.isUnreserved c = true) :
    pathStays c = true :=
  Percent.stays_of_isUnreserved (by decide) plain

/-- The characters that end a path do not stay in one. -/
theorem not_mark_of_pathStays {c : Char} (stays : pathStays c = true) : c ≠ '?' ∧ c ≠ '#' := by
  constructor
  · rintro rfl
    exact absurd stays (by decide)
  · rintro rfl
    exact absurd stays (by decide)

theorem encode_pathStays_encode (path : List Char) :
    Percent.encode pathStays (Percent.encode pathStays path) = Percent.encode pathStays path :=
  Percent.encode_encode (by decide) (fun _ => pathStays_of_isUnreserved) path

namespace Address

/-- An address with a scheme is the normal form of components: the path is without segments of dots,
and what does not stay in it is escaped. -/
structure IsAssembled (components : Components) (address : Address) : Prop where
  scheme : address.scheme.toList = components.scheme.map Char.toLower
  path :
    components.scheme ≠ [] →
      address.path.toList = Percent.encode pathStays (normalizePath components.path)
  query :
    address.query =
      components.query.map fun query => String.ofList (Percent.encode queryStays query)
  fragment :
    address.fragment =
      components.fragment.map fun fragment => String.ofList (Percent.encode fragmentStays fragment)

/-- What components are assembled to is their normal form. -/
theorem isAssembled_of_assemble {components : Components} {authority : Authority}
    {address : Address} (assembled : assemble components authority = .ok address) :
    IsAssembled components address := by
  unfold assemble at assembled
  obtain ⟨host, -, assembled⟩ := Result.bind_eq_ok_iff.1 assembled
  obtain ⟨port, -, assembled⟩ := Result.bind_eq_ok_iff.1 assembled
  obtain ⟨_, -, assembled⟩ := Result.bind_eq_ok_iff.1 assembled
  cases assembled
  constructor
  case scheme => simp
  case path =>
      intro hasScheme
      simp [hasScheme]
  case query => rfl
  case fragment => rfl

/-- What components are rebuilt to is assembled from them. -/
theorem assemble_of_rebuild {components : Components} {address : Address}
    (rebuilt : rebuild components = .ok address) :
    assemble components (splitAuthority components.authority) = .ok address := by
  unfold rebuild rebuildWith at rebuilt
  split at rebuilt
  · cases rebuilt
  · exact rebuilt

theorem isAssembled_of_rebuild {components : Components} {address : Address}
    (rebuilt : rebuild components = .ok address) : IsAssembled components address :=
  isAssembled_of_assemble (assemble_of_rebuild rebuilt)

/-- What a text is read as is assembled from its components. -/
theorem assemble_of_parse {s : String} {address : Address} (read : parse s = .ok address) :
    assemble (splitComponents s.toList) (splitAuthority (splitComponents s.toList).authority) =
      .ok address := by
  unfold parse at read
  dsimp only at read
  split at read
  · cases read
  · split at read
    · cases read
    · exact read

theorem splitScheme_slash (rest : List Char) : splitScheme ('/' :: rest) = ([], '/' :: rest) := by
  have slash : isSchemeChar '/' = false := by decide
  simp [splitScheme, slash]

/-- A text that starts with a single slash, and has no query and no fragment, is a path. -/
theorem splitComponents_rooted {rest : List Char} (single : rest.head? ≠ some '/')
    (clean : ∀ c ∈ rest, c ≠ '?' ∧ c ≠ '#') :
    splitComponents ('/' :: rest) = ⟨[], [], '/' :: rest, none, none⟩ := by
  have stays : ∀ c ∈ '/' :: rest, (c != '?' && c != '#') = true := by
    intro c present
    rcases List.mem_cons.1 present with rfl | later
    · decide
    · simp [clean c later]
  have whole := List.takeWhile_eq_self_iff.2 stays
  have nothing := List.dropWhile_eq_nil_iff.2 stays
  have noAuthority : splitMarkedAuthority ('/' :: rest) = ([], '/' :: rest) := by
    rw [splitMarkedAuthority]
    intro after same
    cases same
    exact single rfl
  unfold splitComponents splitAfterScheme
  simp only [splitScheme_slash, noAuthority, whole, nothing]

/-- Components without a scheme and an authority keep their path, escapes apart. -/
theorem assemble_relative (path : List Char) (query fragment : Option (List Char)) :
    assemble ⟨[], [], path, query, fragment⟩ (splitAuthority []) =
      (checkPath path false false).map fun _ =>
        ⟨"", "", "", none, String.ofList (Percent.encode pathStays path),
          query.map fun query => String.ofList (Percent.encode queryStays query),
          fragment.map fun fragment => String.ofList (Percent.encode fragmentStays fragment)⟩ :=
  rfl

/-- A reference that starts with a single slash and has nothing to escape is the path that it is
written as, and no address of its own. -/
theorem rawPath_of_parse_rooted {rest : List Char} {reference : Address}
    (single : rest.head? ≠ some '/') (clean : ∀ c ∈ rest, pathStays c = true)
    (read : parse (String.ofList ('/' :: rest)) = .ok reference) :
    reference.isAbsolute = false ∧ reference.rawPath = '/' :: rest := by
  have assembled := assemble_of_parse read
  have noMark : ∀ c ∈ rest, c ≠ '?' ∧ c ≠ '#' := fun c present =>
    not_mark_of_pathStays (clean c present)
  have kept : Percent.encode pathStays ('/' :: rest) = '/' :: rest := by
    apply Percent.encode_of_stays
    intro c present
    rcases List.mem_cons.1 present with rfl | later
    · decide
    · exact clean c later
  rw [String.toList_ofList, splitComponents_rooted single noMark, assemble_relative,
    kept] at assembled
  obtain ⟨_, -, rfl⟩ := Result.map_eq_ok_iff.1 assembled
  simp [isAbsolute, rawPath]

/-! ### Addresses with another path or another query -/

variable {address changed : Address}

/-- An address that is given another path has that path, in normal form. -/
theorem path_of_withRawPath {raw : List Char} (hasScheme : address.scheme ≠ "")
    (noMark : '?' ∉ raw) (replaced : address.withRawPath raw = .ok changed) :
    changed.scheme ≠ "" ∧ changed.query = none ∧
      changed.path.toList = Percent.encode pathStays (normalizePath raw) := by
  have uncut : cutAt '?' raw = none := cutAt_eq_none_iff.2 noMark
  unfold withRawPath at replaced
  rw [uncut] at replaced
  have assembled := isAssembled_of_rebuild replaced
  have some : address.components.scheme ≠ [] := by
    simpa [components] using hasScheme
  refine ⟨?_, assembled.query, assembled.path some⟩
  intro none
  have scheme := assembled.scheme
  rw [none] at scheme
  exact some (List.map_eq_nil_iff.1 scheme.symm)

/-- An address that is given another query keeps its path, in normal form. -/
theorem path_of_withQuery {query : Option (List Char)} (hasScheme : address.scheme ≠ "")
    (replaced : address.withQuery query = .ok changed) :
    changed.path.toList = Percent.encode pathStays (normalizePath address.path.toList) := by
  apply (isAssembled_of_rebuild replaced).path
  simpa [components] using hasScheme

/-! ### Base addresses -/

private theorem snd_suffix_splitMarkedAuthority (cs : List Char) :
    (splitMarkedAuthority cs).2 <:+ cs := by
  unfold splitMarkedAuthority
  split
  next rest =>
    have after := List.dropWhile_suffix (fun c => c != '/' && c != '?' && c != '#') (l := rest)
    exact after.trans ((List.suffix_cons _ _).trans (List.suffix_cons _ _))
  next => exact List.suffix_rfl

private theorem snd_suffix_splitScheme (cs : List Char) : (splitScheme cs).2 <:+ cs := by
  unfold splitScheme
  have after := List.dropWhile_suffix isSchemeChar (l := cs)
  dsimp only
  split
  next rest hit =>
    split
    · rw [hit] at after
      exact (List.suffix_cons _ _).trans after
    · exact List.suffix_rfl
  next => exact List.suffix_rfl

/-- Without a query and a fragment, all that follows an authority is a path. -/
theorem path_splitAfterScheme {scheme cs : List Char}
    (noQuery : (splitAfterScheme scheme cs).query = none)
    (noFragment : (splitAfterScheme scheme cs).fragment = none) :
    (splitAfterScheme scheme cs).path = (splitMarkedAuthority cs).2 := by
  have whole := List.takeWhile_append_dropWhile (p := fun c => c != '?' && c != '#')
    (l := (splitMarkedAuthority cs).2)
  have stops := List.head?_dropWhile_not (fun c => c != '?' && c != '#') (splitMarkedAuthority cs).2
  unfold splitAfterScheme at *
  rcases ended : (splitMarkedAuthority cs).2.dropWhile fun c => c != '?' && c != '#' with
    _ | ⟨c, rest⟩
  · simp only [ended, List.append_nil] at whole ⊢
    exact whole
  · rw [ended] at stops
    have mark : c = '?' ∨ c = '#' := by
      simp at stops
      grind
    rcases mark with rfl | rfl
    · simp only [ended] at noQuery
      split at noQuery <;> cases noQuery
    · simp only [ended] at noFragment
      cases noFragment

private theorem path_suffix_of_parse {text : String} (read : parse text = .ok address)
    (noQuery : address.query = none) (noFragment : address.fragment = none) :
    (splitComponents text.toList).path <:+ text.toList := by
  have assembled := isAssembled_of_assemble (assemble_of_parse read)
  have query : (splitComponents text.toList).query = none := by
    rw [← Option.map_eq_none_iff, ← assembled.query, noQuery]
  have fragment : (splitComponents text.toList).fragment = none := by
    rw [← Option.map_eq_none_iff, ← assembled.fragment, noFragment]
  have path := path_splitAfterScheme query fragment
  change (splitAfterScheme _ _).path <:+ _
  rw [path]
  exact (snd_suffix_splitMarkedAuthority _).trans (snd_suffix_splitScheme _)

/-- A text is a plain base address: complete, without a query and a fragment, and without segments
of dots. -/
structure IsPlainBase (text : String) (address : Address) : Prop where
  read : parse text = .ok address
  absolute : address.isAbsolute = true
  noQuery : address.query = none
  noFragment : address.fragment = none
  noDots : IsNormal (splitComponents text.toList).path

variable {text : String}

/-- A plain base address has a scheme. -/
theorem IsPlainBase.hasScheme (plain : IsPlainBase text address) : address.scheme ≠ "" := by
  intro none
  have absolute := plain.absolute
  unfold isAbsolute at absolute
  rw [none] at absolute
  cases absolute

/-- The path of a plain base address is as it is written, escapes apart. -/
theorem IsPlainBase.path_eq (plain : IsPlainBase text address) :
    address.path.toList = Percent.encode pathStays (splitComponents text.toList).path := by
  have assembled := isAssembled_of_assemble (assemble_of_parse plain.read)
  have some : (splitComponents text.toList).scheme ≠ [] := by
    intro none
    have scheme := assembled.scheme
    rw [none, List.map_nil] at scheme
    exact plain.hasScheme (String.toList_eq_nil_iff.1 scheme)
  rw [assembled.path some, normalizePath_of_isNormal plain.noDots]

theorem IsPlainBase.isNormal_path (plain : IsPlainBase text address) :
    IsNormal address.path.toList := by
  rw [plain.path_eq]
  exact isNormal_encode (by decide) plain.noDots

theorem IsPlainBase.encode_path (plain : IsPlainBase text address) :
    Percent.encode pathStays address.path.toList = address.path.toList := by
  rw [plain.path_eq, encode_pathStays_encode]

/-- A plain base address that is written without a slash at its end has none there. -/
theorem IsPlainBase.getLast?_path (plain : IsPlainBase text address)
    (noSlash : text.toList.getLast? ≠ some '/') : address.path.toList.getLast? ≠ some '/' := by
  intro slash
  rw [plain.path_eq] at slash
  obtain ⟨front, joined⟩ := path_suffix_of_parse plain.read plain.noQuery plain.noFragment
  apply noSlash
  rw [← joined, List.getLast?_append, Percent.getLast?_of_getLast?_encode (by decide) slash]
  rfl

/-- There is no question mark in the path of a plain base address. -/
theorem IsPlainBase.not_mem_path (plain : IsPlainBase text address) :
    '?' ∉ address.path.toList := by
  rw [plain.path_eq]
  intro present
  have stays := (Percent.mem_of_mem_encode (by decide) present).2
  exact absurd stays (by decide)

/-- Others are appended to a plain base address behind a slash. -/
theorem IsPlainBase.rawPath_of_asBase {base : Address} (plain : IsPlainBase text address)
    (noSlash : text.toList.getLast? ≠ some '/') (based : address.asBase = .ok base) :
    base.scheme ≠ "" ∧ base.rawPath = address.path.toList ++ ['/'] := by
  unfold asBase at based
  by_cases none : address.path = ""
  · have raw : address.rawPath = ['/'] := by
      simp [rawPath, none, plain.noQuery]
    rw [raw, if_pos (by decide)] at based
    cases based
    rw [raw, none]
    exact ⟨plain.hasScheme, rfl⟩
  · have raw : address.rawPath = address.path.toList := by
      simp [rawPath, none, plain.noQuery]
    have normal : IsNormal (address.path.toList ++ ['/']) := by
      have empty : ∀ segment ∈ [[]], '/' ∉ segment ∧ ¬ IsDots segment := by
        intro segment only
        rw [List.mem_singleton.1 only]
        exact ⟨List.not_mem_nil, by rintro (dot | dots) <;> contradiction⟩
      exact isNormal_append_rooted plain.isNormal_path empty
    have noMark : '?' ∉ address.path.toList ++ ['/'] := by
      simp [plain.not_mem_path]
    rw [raw, if_neg (plain.getLast?_path noSlash)] at based
    obtain ⟨hasScheme, noQuery, path⟩ := path_of_withRawPath plain.hasScheme noMark based
    rw [normalizePath_of_isNormal normal, Percent.encode_append, plain.encode_path] at path
    have ended : base.path.toList = address.path.toList ++ ['/'] := path
    have some : base.path ≠ "" := by
      intro none
      rw [none] at ended
      simp at ended
    exact ⟨hasScheme, by simp [rawPath, some, noQuery, ended]⟩

/-! ### What is appended -/

variable {base reference : Address} {before rest : List Char}

/-- A reference that is a path goes behind path and query of a base without its slash. -/
theorem append_eq_withRawPath (relative : reference.isAbsolute = false)
    (written : reference.rawPath = '/' :: rest) (single : rest.head? ≠ some '/') :
    base.append reference = base.withRawPath (base.rawPath ++ rest) := by
  have unslashed : ('/' :: rest).dropWhile (· == '/') = rest := by
    cases rest with
    | nil => rfl
    | cons c rest =>
        have other : c ≠ '/' := fun slash => single (congrArg some slash)
        simp [other]
  unfold append
  rw [if_neg (by simp [relative]), written, unslashed]

/-- A reference that is a path goes behind the path of a base that ends in a slash. -/
theorem append_eq (raw : base.rawPath = before ++ ['/']) (relative : reference.isAbsolute = false)
    (written : reference.rawPath = '/' :: rest) (single : rest.head? ≠ some '/') :
    base.append reference = base.withRawPath (before ++ '/' :: rest) := by
  rw [append_eq_withRawPath relative written single, raw, List.append_assoc,
    List.singleton_append]

/-- The path of a reference goes behind the path of a base, and the whole is brought to normal
form. -/
theorem path_of_append (hasScheme : base.scheme ≠ "") (raw : base.rawPath = before ++ ['/'])
    (relative : reference.isAbsolute = false) (written : reference.rawPath = '/' :: rest)
    (single : rest.head? ≠ some '/') (noMark : '?' ∉ before ++ '/' :: rest)
    (appended : base.append reference = .ok changed) :
    changed.scheme ≠ "" ∧
      changed.path.toList = Percent.encode pathStays (normalizePath (before ++ '/' :: rest)) := by
  rw [append_eq raw relative written single] at appended
  obtain ⟨schemeToo, -, path⟩ := path_of_withRawPath hasScheme noMark appended
  exact ⟨schemeToo, path⟩

/-- To bring a path to normal form and escape it a second time changes nothing. -/
theorem encode_normalizePath_twice (path : List Char) :
    Percent.encode pathStays
        (normalizePath (Percent.encode pathStays (normalizePath path))) =
      Percent.encode pathStays (normalizePath path) := by
  have normal : IsNormal (Percent.encode pathStays (normalizePath path)) :=
    isNormal_encode (by decide) (isNormal_normalizePath path)
  rw [normalizePath_of_isNormal normal, encode_pathStays_encode]

end Address

end ReviewGroups.Url
