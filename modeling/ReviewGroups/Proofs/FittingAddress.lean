/-
Module: ReviewGroups.Proofs.FittingAddress
Purpose: When an address with another path or another query can be put together: where the server
  can be worked with, that takes parts that are not too long, and nothing else. The parts are
  checked one after the other when an address is put together; each check gets its condition, the
  condition of the whole is `Components.Fits` and `NamesServer`, and the operations on addresses
  (reading, appending, replacing the query) get an equivalence each. What keeps this from being a
  matter of lengths alone are characters that cannot be sent: a sound address has none left.
Trusted boundary: none
Main exports: IsRooted, length_normalizePath_le, Components.Fits, Components.NamesServer,
  Address.exists_rebuild_iff, Address.IsSound, Address.SharesServer, Components.withRaw,
  Address.exists_append_iff, Address.exists_withQuery_iff, Address.exists_parse_rooted_iff
-/
import ReviewGroups.Proofs.KeptServer

namespace ReviewGroups.Url

open Text

/-! ### Paths behind a server -/

/-- A path can stand behind a server: there is none, or it starts with a slash. -/
def IsRooted (path : List Char) : Prop :=
  path = [] ∨ path.head? = some '/'

private theorem intercalate_cons_eq (segment : List Char) (segments : List (List Char)) :
    List.intercalate ['/'] (segment :: segments) = segment ++ rooted segments := by
  induction segments generalizing segment with
  | nil => simp [rooted]
  | cons next segments inductionHypothesis =>
      rw [List.intercalate_cons_cons, inductionHypothesis]
      simp [rooted]

private theorem length_intercalate (segments : List (List Char)) :
    (List.intercalate ['/'] segments).length = (rooted segments).length - 1 := by
  cases segments with
  | nil => rfl
  | cons segment segments =>
      rw [intercalate_cons_eq]
      simp [rooted]

private theorem length_rooted_reverse (segments : List (List Char)) :
    (rooted segments.reverse).length = (rooted segments).length := by
  unfold rooted
  exact ((List.reverse_perm segments).flatMap_right _).length_eq

/-- To resolve a segment leaves no more than the segments before it and the segment. -/
theorem length_resolveSegment_le (before : List (List Char)) (segment : List Char) :
    (rooted (resolveSegment before segment)).length ≤ (rooted (segment :: before)).length := by
  have longer (first : List Char) (others : List (List Char)) :
      (rooted others).length ≤ (rooted (first :: others)).length := by
    rw [rooted, rooted, List.flatMap_cons, List.length_append]
    omega
  unfold resolveSegment
  split_ifs
  · exact longer segment before
  · exact longer segment before
  · refine le_trans ?_ (longer segment before)
    cases before with
    | nil => exact le_rfl
    | cons last before => exact longer last before
  · exact le_rfl

private theorem length_foldl_resolveSegment_le (before segments : List (List Char)) :
    (rooted (segments.foldl resolveSegment before)).length ≤
      (rooted before).length + (rooted segments).length := by
  induction segments generalizing before with
  | nil => simp
  | cons segment segments inductionHypothesis =>
      have step := length_resolveSegment_le before segment
      have rest := inductionHypothesis (resolveSegment before segment)
      simp only [rooted, List.flatMap_cons, List.length_append, List.foldl_cons] at *
      omega

/-- No path becomes longer in normal form. -/
theorem length_normalizePath_le (path : List Char) :
    (normalizePath path).length ≤ path.length := by
  by_cases normal : IsNormal path
  · rw [normalizePath_of_isNormal normal]
  · have dotted : ∃ segment ∈ splitAt '/' path, IsDots segment := by
      simpa [IsNormal] using normal
    obtain ⟨segment, present, dots⟩ := dotted
    have joined : List.intercalate ['/'] (splitAt '/' path) = path := by
      rw [splitAt_eq_splitOn, List.intercalate_splitOn]
    have left := length_foldl_resolveSegment_le [] (splitAt '/' path)
    rw [normalizePath_of_isDots present dots, length_intercalate, length_rooted_reverse]
    conv_rhs => rw [← joined, length_intercalate]
    have nothing : (rooted []).length = 0 := rfl
    omega

private theorem mem_of_mem_normalizePath {c : Char} {path : List Char}
    (present : c ∈ normalizePath path) : c = '/' ∨ c ∈ path := by
  unfold normalizePath at present
  dsimp only at present
  split at present
  next =>
    rcases mem_intercalate present with slash | ⟨segment, left, inside⟩
    · exact .inl slash
    · rcases mem_foldl_resolveSegment (List.mem_reverse.1 left) with none | ⟨there, -⟩
      · cases none
      · exact .inr (mem_of_mem_splitAt there inside)
  next => exact .inr present

/-- Whatever is resolved behind the empty segment in front of the first slash, that one stays. -/
theorem exists_foldl_resolveSegment (kept segments : List (List Char)) :
    ∃ others, segments.foldl resolveSegment (kept ++ [[]]) = others ++ [[]] := by
  induction segments generalizing kept with
  | nil => exact ⟨kept, rfl⟩
  | cons segment segments inductionHypothesis =>
      have step : ∃ next, resolveSegment (kept ++ [[]]) segment = next ++ [[]] := by
        unfold resolveSegment
        split_ifs with dot dots alone
        · exact ⟨kept, rfl⟩
        · exact ⟨kept, rfl⟩
        · cases kept with
          | nil => exact absurd rfl alone
          | cons last kept => exact ⟨kept, rfl⟩
        · exact ⟨segment :: kept, rfl⟩
      obtain ⟨next, same⟩ := step
      rw [List.foldl_cons, same]
      exact inductionHypothesis next

/-- A path that can stand behind a server still can in normal form. -/
theorem IsRooted.normalizePath {path : List Char} (isRooted : IsRooted path) :
    IsRooted (normalizePath path) := by
  by_cases normal : IsNormal path
  · rwa [normalizePath_of_isNormal normal]
  · have dotted : ∃ segment ∈ splitAt '/' path, IsDots segment := by
      simpa [IsNormal] using normal
    obtain ⟨segment, present, dots⟩ := dotted
    rw [normalizePath_of_isDots present dots]
    rcases isRooted with none | slash
    · subst none
      rw [splitAt, List.mem_singleton] at present
      rcases dots with rfl | rfl <;> cases present
    · obtain ⟨rest, rfl⟩ := List.head?_eq_some_iff.1 slash
      have first : splitAt '/' ('/' :: rest) = [] :: splitAt '/' rest := by
        rw [splitAt, if_pos rfl]
      obtain ⟨others, resolved⟩ := exists_foldl_resolveSegment [] (splitAt '/' rest)
      have whole : (splitAt '/' ('/' :: rest)).foldl resolveSegment [] = others ++ [[]] := by
        rw [first]
        exact resolved
      rw [whole, List.reverse_append, List.reverse_singleton, List.singleton_append,
        intercalate_cons_eq, List.nil_append]
      cases others.reverse with
      | nil => exact .inl rfl
      | cons segment segments => exact .inr rfl

/-- A path that can stand behind a server still can when it is escaped. -/
theorem IsRooted.encode {path : List Char} {stays : Char → Bool} (slash : stays '/' = true)
    (isRooted : IsRooted path) : IsRooted (Percent.encode stays path) := by
  rcases isRooted with rfl | starts
  · exact .inl rfl
  · obtain ⟨rest, rfl⟩ := List.head?_eq_some_iff.1 starts
    right
    rw [Percent.encode, List.flatMap_cons, if_pos slash]
    rfl

/-! ### Parts that are not too long -/

namespace Address

private theorem isGraphic_of_queryStays {c : Char} (stays : queryStays c = true) :
    isGraphic c = true :=
  (Bool.and_eq_true_iff.1 stays).1

private theorem queryStays_of_pathStays {c : Char} (stays : pathStays c = true) :
    queryStays c = true :=
  (Bool.and_eq_true_iff.1 stays).1

variable {part : List Char}

private theorem controlCharacter?_eq_none (graphic : ∀ c ∈ part, isGraphic c = true) :
    controlCharacter? part = none := by
  rw [controlCharacter?, List.find?_eq_none]
  rintro ⟨c, position⟩ present
  have here := graphic c (List.fst_mem_of_mem_zipIdx present)
  simp only [isGraphic, Bool.and_eq_true, decide_eq_true_eq] at here
  simp only [Bool.or_eq_true, decide_eq_true_eq, beq_iff_eq]
  omega

private theorem componentFault?_eq_none_iff (name : String)
    (graphic : ∀ c ∈ part, isGraphic c = true) :
    componentFault? name part = none ↔ part.length ≤ lengthLimit := by
  unfold componentFault?
  rw [controlCharacter?_eq_none graphic]
  simp

end Address

namespace Components

/-- Path and query are not too long. -/
def Fits (components : Components) : Prop :=
  components.path.length ≤ lengthLimit ∧ (components.query.getD []).length ≤ lengthLimit

/-- What stands around path and query can be worked with. -/
def NamesServer (components : Components) : Prop :=
  Address.componentFault? "scheme" components.scheme = none ∧
    Address.componentFault? "authority" components.authority = none ∧
    Address.componentFault? "fragment" (components.fragment.getD []) = none ∧
    (∃ host, normalizeHost (splitAuthority components.authority).host = .ok host) ∧
    ∃ port, normalizePort components.scheme (splitAuthority components.authority).port = .ok port

/-- Path and query can stand behind a server as they are. -/
structure IsClean (components : Components) : Prop where
  schemed : components.scheme ≠ []
  rooted : IsRooted components.path
  path : ∀ c ∈ components.path, pathStays c = true
  query : ∀ c ∈ components.query.getD [], queryStays c = true

end Components

namespace Address

variable {components : Components} {address other changed : Address}

private theorem componentsFault?_eq_none_iff :
    componentsFault? components = none ↔
      componentFault? "scheme" components.scheme = none ∧
        componentFault? "authority" components.authority = none ∧
        componentFault? "path" components.path = none ∧
        componentFault? "query" (components.query.getD []) = none ∧
        componentFault? "fragment" (components.fragment.getD []) = none := by
  simp [componentsFault?, List.findSome?_eq_none_iff]

private theorem checkPath_of_isRooted {path : List Char} (isRooted : IsRooted path)
    (hasAuthority : Bool) :
    checkPath path true hasAuthority = .ok () := by
  unfold checkPath
  rcases isRooted with rfl | starts
  · simp
  · simp [starts]

/-- Components with a rooted path behind a scheme can be assembled exactly if their host and their
port can be read. -/
theorem exists_assemble_iff (authority : Authority) (schemed : components.scheme ≠ [])
    (isRooted : IsRooted components.path) :
    (∃ address, assemble components authority = .ok address) ↔
      (∃ host, normalizeHost authority.host = .ok host) ∧
        ∃ port, normalizePort components.scheme authority.port = .ok port := by
  constructor
  · rintro ⟨address, assembled⟩
    obtain ⟨host, port⟩ := location_of_assemble assembled
    exact ⟨⟨_, host⟩, ⟨_, port⟩⟩
  · rintro ⟨⟨host, hosted⟩, ⟨port, ported⟩⟩
    have scheme : (!components.scheme.isEmpty) = true := by
      simpa using schemed
    unfold assemble
    rw [hosted, ported]
    simp only [Result.ok_bind]
    rw [scheme, checkPath_of_isRooted isRooted]
    exact ⟨_, rfl⟩

/-- Components that are clean can be put together exactly if what stands around path and query can
be worked with and the two are not too long. -/
theorem exists_rebuild_iff (clean : components.IsClean) :
    (∃ address, rebuild components = .ok address) ↔
      components.NamesServer ∧ components.Fits := by
  have path := componentFault?_eq_none_iff "path" fun c present =>
    isGraphic_of_queryStays (queryStays_of_pathStays (clean.path c present))
  have query := componentFault?_eq_none_iff "query" fun c present =>
    isGraphic_of_queryStays (clean.query c present)
  have assembles :=
    exists_assemble_iff (splitAuthority components.authority) clean.schemed clean.rooted
  unfold rebuild rebuildWith Components.NamesServer Components.Fits
  rw [← path, ← query]
  cases fault : componentsFault? components with
  | some fault =>
      have some : componentsFault? components ≠ none := by simp [fault]
      rw [Ne, componentsFault?_eq_none_iff] at some
      simp
      tauto
  | none =>
      obtain ⟨scheme, authority, path, query, fragment⟩ := componentsFault?_eq_none_iff.1 fault
      simp [scheme, authority, path, query, fragment, assembles]

/-! ### Addresses that are sound -/

/-- An address has a scheme, and its path and its query can stand behind it as they are. -/
structure IsSound (address : Address) : Prop where
  schemed : address.scheme ≠ ""
  rooted : IsRooted address.path.toList
  path : ∀ c ∈ address.path.toList, pathStays c = true
  query : ∀ c ∈ (address.query.getD "").toList, queryStays c = true

private theorem queryStays_of_mem_encode {query : List Char} {c : Char}
    (present : c ∈ Percent.encode queryStays query) : queryStays c = true := by
  have twice : Percent.encode queryStays (Percent.encode queryStays query) =
      Percent.encode queryStays query :=
    Percent.encode_encode (by decide) (fun _ => Percent.stays_of_isUnreserved (by decide)) query
  exact Percent.encode_eq_self_iff.1 twice c present

/-- What components with a rooted path behind a scheme are assembled to is sound. -/
theorem isSound_of_assemble {authority : Authority} (schemed : components.scheme ≠ [])
    (isRooted : IsRooted components.path)
    (assembled : assemble components authority = .ok address) : address.IsSound := by
  have form := isAssembled_of_assemble assembled
  constructor
  case schemed =>
      intro none
      have scheme := form.scheme
      rw [none] at scheme
      exact schemed (List.map_eq_nil_iff.1 scheme.symm)
  case rooted =>
      rw [form.path schemed]
      exact isRooted.normalizePath.encode (by decide)
  case path =>
      rw [form.path schemed]
      exact Percent.encode_eq_self_iff.1 (encode_pathStays_encode _)
  case query =>
      rw [form.query]
      cases components.query with
      | none => simp
      | some query =>
          intro c present
          exact queryStays_of_mem_encode (by simpa using present)

private theorem isRooted_of_checkPath {path : List Char} {hasScheme : Bool} {value : Unit}
    (checked : checkPath path hasScheme true = .ok value) : IsRooted path := by
  unfold checkPath at checked
  split at checked
  next => cases checked
  next fine =>
    simp only [Bool.true_and, Bool.and_eq_true, Bool.not_eq_true', List.isEmpty_eq_false_iff,
      bne_iff_ne, not_and, not_not] at fine
    exact or_iff_not_imp_left.2 fine

/-- The components of an address that is complete have a scheme and a rooted path. -/
theorem isRooted_of_assemble {authority : Authority}
    (assembled : assemble components authority = .ok address)
    (absolute : address.isAbsolute = true) :
    components.scheme ≠ [] ∧ IsRooted components.path := by
  unfold assemble at assembled
  obtain ⟨host, -, assembled⟩ := Result.bind_eq_ok_iff.1 assembled
  obtain ⟨port, -, assembled⟩ := Result.bind_eq_ok_iff.1 assembled
  obtain ⟨_, checked, assembled⟩ := Result.bind_eq_ok_iff.1 assembled
  cases assembled
  have parts : components.scheme ≠ [] ∧ host ≠ [] := by
    simpa [isAbsolute] using absolute
  have hasAuthority : (!(Percent.encode userinfoStays authority.userinfo).isEmpty ||
      !host.isEmpty || port.isSome) = true := by
    simp [parts.2]
  rw [hasAuthority] at checked
  exact ⟨parts.1, isRooted_of_checkPath checked⟩

private theorem length_path_of_rebuild (clean : components.IsClean)
    (rebuilt : rebuild components = .ok address) :
    address.path.toList.length ≤ components.path.length := by
  have stays : ∀ c ∈ normalizePath components.path, pathStays c = true := by
    intro c present
    rcases mem_of_mem_normalizePath present with rfl | there
    · decide
    · exact clean.path c there
  rw [(isAssembled_of_rebuild rebuilt).path clean.schemed, Percent.encode_of_stays stays]
  exact length_normalizePath_le components.path

/-! ### Addresses that differ in path and query -/

/-- Two addresses are the same, path and query apart. -/
structure SharesServer (address other : Address) : Prop where
  scheme : address.scheme = other.scheme
  userinfo : address.userinfo = other.userinfo
  host : address.host = other.host
  port : address.port = other.port
  fragment : address.fragment = other.fragment

/-- What components are put together to is the same around path and query if they are. -/
theorem sharesServer_of_rebuild {others : Components}
    (schemed : components.scheme = others.scheme)
    (located : components.authority = others.authority)
    (ended : components.fragment = others.fragment) (rebuilt : rebuild components = .ok address)
    (rebuiltToo : rebuild others = .ok other) : SharesServer address other := by
  have assembled := assemble_of_rebuild rebuilt
  have assembledToo := assemble_of_rebuild rebuiltToo
  rw [located] at assembled
  have form := isAssembled_of_assemble assembled
  have formToo := isAssembled_of_assemble assembledToo
  obtain ⟨host, port⟩ := location_of_assemble assembled
  obtain ⟨hostToo, portToo⟩ := location_of_assemble assembledToo
  constructor
  case scheme =>
      apply String.toList_injective
      rw [form.scheme, formToo.scheme, schemed]
  case userinfo =>
      apply String.toList_injective
      rw [userinfo_of_assemble assembled, userinfo_of_assemble assembledToo]
  case host =>
      apply String.toList_injective
      exact Except.ok.inj (host.symm.trans hostToo)
  case port =>
      rw [schemed] at port
      exact Except.ok.inj (port.symm.trans portToo)
  case fragment => rw [form.fragment, formToo.fragment, ended]

theorem SharesServer.authority (shares : SharesServer address other) :
    address.authority = other.authority := by
  simp only [Address.authority, location, shares.userinfo, shares.host, shares.port]

theorem SharesServer.namesServer_iff (shares : SharesServer address other) :
    address.components.NamesServer ↔ other.components.NamesServer := by
  simp only [Components.NamesServer, components, shares.scheme, shares.authority, shares.fragment]

theorem SharesServer.shownHost (shares : SharesServer address other) :
    address.shownHost = other.shownHost := by
  simp only [Address.shownHost, shares.host]

end Address

/-! ### Another path -/

/-- Components with another path and another query, which starts at the first question mark. -/
def Components.withRaw (components : Components) (raw : List Char) : Components :=
  match cutAt '?' raw with
  | some (path, query) => { components with path := path, query := some query }
  | none => { components with path := raw, query := none }

namespace Address

variable {base reference address changed other : Address} {rest : List Char}

theorem withRawPath_eq (address : Address) (raw : List Char) :
    address.withRawPath raw = rebuild (address.components.withRaw raw) := by
  unfold withRawPath Components.withRaw
  cases cutAt '?' raw <;> rfl

private theorem around_withRaw (components : Components) (raw : List Char) :
    (components.withRaw raw).scheme = components.scheme ∧
      (components.withRaw raw).authority = components.authority ∧
      (components.withRaw raw).fragment = components.fragment := by
  unfold Components.withRaw
  split <;> exact ⟨rfl, rfl, rfl⟩

private theorem namesServer_withRaw (components : Components) (raw : List Char) :
    (components.withRaw raw).NamesServer ↔ components.NamesServer := by
  obtain ⟨scheme, authority, fragment⟩ := around_withRaw components raw
  simp only [Components.NamesServer, scheme, authority, fragment]

/-- In front of the query of a sound address there is a path that starts with a slash, and in which
nothing needs an escape. -/
theorem IsSound.exists_rawPath (sound : base.IsSound) :
    ∃ front, base.rawPath = front ++ base.query.elim [] (fun query => '?' :: query.toList) ∧
      front.head? = some '/' ∧ ∀ c ∈ front, pathStays c = true := by
  refine ⟨if base.path.isEmpty then ['/'] else base.path.toList, ?_, ?_, ?_⟩
  · unfold rawPath
    cases base.query <;> rfl
  · split
    next => rfl
    next some =>
      refine sound.rooted.resolve_left fun none => some ?_
      rw [String.toList_eq_nil_iff.1 none]
      rfl
  · split
    · intro c only
      rw [List.mem_singleton.1 only]
      decide
    · exact sound.path

/-- What is put behind a sound address where nothing needs an escape leaves it clean. -/
theorem IsSound.isClean_withRaw (sound : base.IsSound) (clean : ∀ c ∈ rest, pathStays c = true) :
    (base.components.withRaw (base.rawPath ++ rest)).IsClean := by
  have schemed : base.components.scheme ≠ [] := by
    simpa [components] using sound.schemed
  have noMark {cs : List Char} (stays : ∀ c ∈ cs, pathStays c = true) : '?' ∉ cs :=
    fun present => (not_mark_of_pathStays (stays _ present)).1 rfl
  obtain ⟨front, isFront, starts, stays⟩ := sound.exists_rawPath
  rw [isFront]
  cases asked : base.query with
  | none =>
      have whole : ∀ c ∈ front ++ rest, pathStays c = true :=
        List.forall_mem_append.2 ⟨stays, clean⟩
      have parts : base.components.withRaw (front ++ [] ++ rest) =
          { base.components with path := front ++ rest, query := none } := by
        rw [List.append_nil, Components.withRaw, cutAt_eq_none_iff.2 (noMark whole)]
      rw [Option.elim_none, parts]
      exact ⟨schemed, .inr (by simp [starts]), whole, by simp⟩
  | some query =>
      have cut : cutAt '?' (front ++ '?' :: query.toList ++ rest) =
          some (front, query.toList ++ rest) := by
        rw [cutAt_eq_some_iff]
        exact ⟨noMark stays, by simp⟩
      have parts : base.components.withRaw (front ++ '?' :: query.toList ++ rest) =
          { base.components with path := front, query := some (query.toList ++ rest) } := by
        rw [Components.withRaw, cut]
      rw [Option.elim_some, parts]
      refine ⟨schemed, .inr starts, stays, List.forall_mem_append.2 ⟨?_, ?_⟩⟩
      · intro c present
        exact sound.query c (by simpa [asked] using present)
      · exact fun c present => queryStays_of_pathStays (clean c present)

/-- A reference that is a path can be put behind a sound address exactly if what stands around path
and query can be worked with and the two are not too long. -/
theorem exists_append_iff (sound : base.IsSound) (relative : reference.isAbsolute = false)
    (written : reference.rawPath = '/' :: rest) (single : rest.head? ≠ some '/')
    (clean : ∀ c ∈ rest, pathStays c = true) :
    (∃ changed, base.append reference = .ok changed) ↔
      base.components.NamesServer ∧
        (base.components.withRaw (base.rawPath ++ rest)).Fits := by
  rw [append_eq_withRawPath relative written single, withRawPath_eq,
    exists_rebuild_iff (sound.isClean_withRaw clean), namesServer_withRaw]

/-- What a path is put behind is sound again, and its path is no longer than the two. -/
theorem IsSound.append (sound : base.IsSound) (relative : reference.isAbsolute = false)
    (written : reference.rawPath = '/' :: rest) (single : rest.head? ≠ some '/')
    (clean : ∀ c ∈ rest, pathStays c = true) (appended : base.append reference = .ok changed) :
    changed.IsSound ∧ changed.path.toList.length ≤ lengthLimit := by
  have isClean := sound.isClean_withRaw clean
  have fits := ((exists_append_iff sound relative written single clean).1 ⟨changed, appended⟩).2
  rw [append_eq_withRawPath relative written single, withRawPath_eq] at appended
  exact ⟨isSound_of_assemble isClean.schemed isClean.rooted (assemble_of_rebuild appended),
    (length_path_of_rebuild isClean appended).trans fits.1⟩

/-- Behind one address paths are put together to addresses that are the same but for path and
query. -/
theorem sharesServer_of_append {one two : Address} (relative : one.isAbsolute = false)
    (relativeToo : two.isAbsolute = false) (appended : base.append one = .ok address)
    (appendedToo : base.append two = .ok other) : SharesServer address other := by
  unfold append at appended appendedToo
  rw [if_neg (by simp [relative]), withRawPath_eq] at appended
  rw [if_neg (by simp [relativeToo]), withRawPath_eq] at appendedToo
  obtain ⟨scheme, authority, fragment⟩ := around_withRaw base.components
    (base.rawPath ++ one.rawPath.dropWhile (· == '/'))
  obtain ⟨schemeToo, authorityToo, fragmentToo⟩ := around_withRaw base.components
    (base.rawPath ++ two.rawPath.dropWhile (· == '/'))
  exact sharesServer_of_rebuild (scheme.trans schemeToo.symm) (authority.trans authorityToo.symm)
    (fragment.trans fragmentToo.symm) appended appendedToo

/-! ### Another query -/

/-- A sound address can be given another query exactly if what stands around path and query can be
worked with and the query is not too long. -/
theorem exists_withQuery_iff {query : Option (List Char)} (sound : address.IsSound)
    (short : address.path.toList.length ≤ lengthLimit)
    (stays : ∀ c ∈ query.getD [], queryStays c = true) :
    (∃ changed, address.withQuery query = .ok changed) ↔
      address.components.NamesServer ∧ (query.getD []).length ≤ lengthLimit := by
  have clean : ({ address.components with query := query } : Components).IsClean := by
    refine ⟨?_, sound.rooted, sound.path, stays⟩
    simpa [components] using sound.schemed
  refine (exists_rebuild_iff clean).trans (and_congr_right fun _ => ?_)
  exact and_iff_right short

/-- Addresses that are the same but for path and query are so with other queries. -/
theorem SharesServer.withQuery {one two : Option (List Char)} {before : Address}
    (shares : SharesServer before other) (replaced : before.withQuery one = .ok address)
    (replacedToo : other.withQuery two = .ok changed) : SharesServer address changed := by
  refine sharesServer_of_rebuild ?_ shares.authority ?_ replaced replacedToo
  · exact congrArg String.toList shares.scheme
  · exact congrArg (Option.map String.toList) shares.fragment

/-! ### Paths that are read -/

/-- A path that starts with a single slash and has nothing to escape can be read exactly if it is
not too long. -/
theorem exists_parse_rooted_iff (single : rest.head? ≠ some '/')
    (clean : ∀ c ∈ rest, pathStays c = true) :
    (∃ reference, parse (String.ofList ('/' :: rest)) = .ok reference) ↔
      ('/' :: rest).length ≤ lengthLimit := by
  have stays : ∀ c ∈ '/' :: rest, pathStays c = true := by
    rw [List.forall_mem_cons]
    exact ⟨by decide, clean⟩
  have noControl : controlCharacter? ('/' :: rest) = none := controlCharacter?_eq_none
    fun c present => isGraphic_of_queryStays (queryStays_of_pathStays (stays c present))
  have noMark : ∀ c ∈ rest, c ≠ '?' ∧ c ≠ '#' := fun c present =>
    not_mark_of_pathStays (clean c present)
  have inOrder : checkPath ('/' :: rest) false false = .ok () := by
    cases rest with
    | nil => rfl
    | cons c rest =>
        have other : c ≠ '/' := fun slash => single (congrArg some slash)
        simp [checkPath, other]
  unfold parse
  simp only [String.toList_ofList]
  by_cases long : lengthLimit < ('/' :: rest).length
  · rw [if_pos long]
    refine iff_of_false ?_ (Nat.not_le_of_lt long)
    rintro ⟨reference, ⟨⟩⟩
  · rw [if_neg long, noControl]
    simp only
    rw [splitComponents_rooted single noMark, assemble_relative, inOrder]
    exact iff_of_true ⟨_, rfl⟩ (Nat.le_of_not_lt long)

end Address

end ReviewGroups.Url
