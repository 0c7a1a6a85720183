/-
Module: ReviewGroups.Proofs.GroupAddressing
Purpose: Where the first request of an operation on a single group goes, and for which identifiers
  that is the group. The identifier is escaped twice on its way, once into a segment of the path and
  once with the whole address; what a server decodes is compared with what the caller gave. The
  identifiers that are lost are those that read as dots, which are resolved away; the equivalence
  names them.
Trusted boundary: none
Main exports: Rest.pathBelow, Rest.Addresses, Operation.first_request_addresses_iff
-/
import ReviewGroups.Proofs.GroupOperation
import ReviewGroups.Proofs.RequestPath

namespace ReviewGroups.Rest

open Http Text Url

variable {client : Client} {base : Address} {operation : Operation} {id : String}

/-! ### Parts of a path as segments -/

/-- The segments of a path behind its first slash. -/
def segments (path : String) : List (List Char) :=
  (splitAt '/' path.toList).tail

/-- What the path of an operation ends in consists of segments that stay. -/
theorem Operation.suffix_segments (operation : Operation) :
    operation.suffix.toList = rooted (segments operation.suffix) ∧
      (∀ segment ∈ segments operation.suffix, '/' ∉ segment ∧ ¬ IsDots segment) ∧
      operation.suffix.toList.all pathStays = true := by
  have all : ∀ suffix ∈ ["", "/detail", "/name", "/description", "/owner", "/options", "/members/",
      "/members.add", "/members.delete", "/groups/", "/groups.add", "/groups.delete", "/index"],
      suffix.toList = rooted (segments suffix) ∧
        (∀ segment ∈ segments suffix, '/' ∉ segment ∧ ¬ IsDots segment) ∧
        suffix.toList.all pathStays = true := by
    unfold IsDots
    decide
  apply all
  cases operation with
  | resolve identifier => simp [Operation.suffix]
  | create input => simp [Operation.suffix]
  | perform call => cases call <;> simp [Operation.suffix, Call.suffix]

/-- What stands in a path before the groups: a mark for clients with credentials. -/
def mark (client : Client) : String :=
  if client.isAuthenticated then "/a" else ""

/-- The segments in front of the one of a group. -/
def frontSegments (client : Client) : List (List Char) :=
  segments (mark client) ++ ["groups".toList]

private theorem frontSegments_plain (client : Client) :
    ∀ segment ∈ frontSegments client,
      '/' ∉ segment ∧ ¬ IsDots segment ∧ segment.all pathStays = true := by
  have all : ∀ mark ∈ ["/a", ""], ∀ segment ∈ segments mark ++ ["groups".toList],
      '/' ∉ segment ∧ ¬ IsDots segment ∧ segment.all pathStays = true := by
    unfold IsDots
    decide
  apply all (mark client)
  unfold mark
  split <;> simp

/-- The path of an operation below a base address, with a segment for the group. -/
def pathBelow (client : Client) (operation : Operation) (segment : List Char) : List Char :=
  rooted (frontSegments client ++ segment :: segments operation.suffix)

/-- The path of an operation, its segments put together. -/
theorem pathBelow_eq (client : Client) (operation : Operation) (segment : List Char) :
    pathBelow client operation segment =
      (mark client ++ "/groups/").toList ++ segment ++ operation.suffix.toList := by
  have front : rooted (frontSegments client) ++ ['/'] = (mark client ++ "/groups/").toList := by
    unfold frontSegments mark
    split <;> decide
  rw [← front, operation.suffix_segments.1]
  simp [pathBelow, rooted]

/-- A client goes to the segment of a group in the same way for every group. -/
theorem buildPath_eq (client : Client) (operation : Operation) (id : String) :
    client.buildPath ("/groups/" ++ encodeIdentifier id ++ operation.suffix) =
      String.ofList (pathBelow client operation (encodeIdentifier id).toList) := by
  have starts :
      ("/groups/" ++ encodeIdentifier id ++ operation.suffix).toList.head? = some '/' := by
    simp
  apply String.toList_injective
  rw [String.toList_ofList, pathBelow_eq]
  rw [Client.buildPath_of_rooted starts]
  unfold mark
  split <;> simp

private theorem pathBelow_eq_cons (client : Client) (operation : Operation) (segment : List Char) :
    ∃ c more, c ≠ '/' ∧ pathBelow client operation segment = '/' :: c :: more := by
  rw [pathBelow_eq]
  unfold mark
  split
  · exact ⟨'a', _, by decide, rfl⟩
  · exact ⟨'g', _, by decide, rfl⟩

theorem toList_encodeIdentifier (id : String) :
    (encodeIdentifier id).toList = Percent.encode Percent.isUnreserved id.toList :=
  String.toList_ofList

theorem decode_encodeIdentifier (id : String) :
    Percent.decode (encodeIdentifier id).toList = id.toList := by
  rw [toList_encodeIdentifier]
  exact Percent.decode_encode (by decide) id.toList

/-- An identifier that is not empty is a segment that is not empty. -/
theorem toList_encodeIdentifier_ne_nil (some : id ≠ "") : (encodeIdentifier id).toList ≠ [] := by
  intro none
  rw [toList_encodeIdentifier] at none
  have same : Percent.encode Percent.isUnreserved id.toList =
      Percent.encode Percent.isUnreserved [] := none
  exact some (String.toList_eq_nil_iff.1 (Percent.encode_injective (by decide) same))

/-- An identifier is a segment of dots exactly if it is one as it is written. -/
theorem isDots_encodeIdentifier_iff : IsDots (encodeIdentifier id).toList ↔ IsDots id.toList := by
  rw [toList_encodeIdentifier]
  constructor
  · exact isDots_of_encode
  · rintro (dot | dots)
    · rw [dot]
      exact .inl (by decide)
    · rw [dots]
      exact .inr (by decide)

/-- An identifier that is a segment consists of percent signs and of characters that never need an
escape. -/
theorem mem_encodeIdentifier {c : Char} (present : c ∈ (encodeIdentifier id).toList) :
    c = '%' ∨ Percent.isUnreserved c = true := by
  rw [toList_encodeIdentifier] at present
  rcases Percent.mem_encode present with ⟨-, unreserved⟩ | escaped
  · exact .inr unreserved
  · exact escaped

/-- Nothing in an identifier that is a segment needs an escape once more. -/
theorem pathStays_of_mem_encodeIdentifier {c : Char} (present : c ∈ (encodeIdentifier id).toList) :
    pathStays c = true := by
  rcases mem_encodeIdentifier present with rfl | unreserved
  · decide
  · exact pathStays_of_isUnreserved unreserved

/-- An identifier that is a segment has no slash in it. -/
theorem slash_not_mem_encodeIdentifier (id : String) : '/' ∉ (encodeIdentifier id).toList := by
  intro present
  rcases mem_encodeIdentifier present with percent | unreserved
  · exact absurd percent (by decide)
  · exact absurd unreserved (by decide)

/-- Of the segments of an operation, all but that of the group stay. -/
theorem segments_plain (client : Client) (operation : Operation) :
    ∀ segment ∈ frontSegments client ++ segments operation.suffix,
      '/' ∉ segment ∧ ¬ IsDots segment ∧ segment.all pathStays = true := by
  intro segment present
  rcases List.mem_append.1 present with front | back
  · exact frontSegments_plain client segment front
  · obtain ⟨whole, plain, stays⟩ := operation.suffix_segments
    refine ⟨(plain segment back).1, (plain segment back).2, ?_⟩
    rw [List.all_eq_true] at stays ⊢
    intro c inside
    apply stays
    rw [whole]
    exact List.mem_flatMap.2 ⟨segment, back, List.mem_cons_of_mem _ inside⟩

private theorem pathStays_of_mem_pathBelow {c : Char}
    (present : c ∈ pathBelow client operation (encodeIdentifier id).toList) :
    pathStays c = true := by
  rcases mem_rooted present with rfl | ⟨segment, there, inside⟩
  · decide
  · rcases List.mem_append.1 there with front | here
    · exact List.all_eq_true.1 (frontSegments_plain client segment front).2.2 c inside
    · rcases List.mem_cons.1 here with rfl | back
      · exact pathStays_of_mem_encodeIdentifier inside
      · have plain := segments_plain client operation segment (List.mem_append_right _ back)
        exact List.all_eq_true.1 plain.2.2 c inside

private theorem encode_pathBelow (client : Client) (operation : Operation) (id : String) :
    Percent.encode pathStays (pathBelow client operation (encodeIdentifier id).toList) =
      pathBelow client operation (encodeIdentifier id).toList :=
  Percent.encode_of_stays fun _ present => pathStays_of_mem_pathBelow present

/-! ### The first request -/

/-- A path goes to one segment, which stands for an identifier, below the groups of a server, and
ends as that of an operation does. -/
def Addresses (client : Client) (base : Address) (operation : Operation) (id : String)
    (path : String) : Prop :=
  ∃ segment : List Char, segment ≠ [] ∧ '/' ∉ segment ∧ Percent.decode segment = id.toList ∧
    path.toList = base.path.toList ++ (mark client ++ "/groups/").toList ++ segment ++
      operation.suffix.toList

/-- The first request of an operation goes to the segment of the group behind the base address, in
normal form. -/
theorem path_of_starts {task : Task} {request : Request}
    (plain : Address.IsPlainBase client.baseUrl base)
    (noSlash : client.baseUrl.toList.getLast? ≠ some '/') (made : operation.task = .ok task)
    (identified : operation.identifier? = some id) (starts : task.Starts client request) :
    request.address.path.toList =
      Percent.encode pathStays (normalizePath (base.path.toList ++
        pathBelow client operation (encodeIdentifier id).toList)) := by
  obtain ⟨appended, isBase, sent⟩ := starts
  obtain ⟨c, more, other, whole⟩ :=
    pathBelow_eq_cons client operation (encodeIdentifier id).toList
  have asked : task.intent.path = "/groups/" ++ encodeIdentifier id ++ operation.suffix :=
    Operation.path_of_task made identified
  have built := buildPath_eq client operation id
  rw [← asked, whole] at built
  rw [whole]
  refine Client.path_of_request plain noSlash isBase built ?_ ?_ sent
  · intro slash
    exact other (Option.some.inj slash)
  · intro d present
    have inside : d ∈ pathBelow client operation (encodeIdentifier id).toList := by
      rw [whole]
      exact List.mem_cons_of_mem _ present
    exact pathStays_of_mem_pathBelow inside

/-- An identifier that is not one of dots is the segment of the group in a request. -/
theorem addresses_of_not_isDots (plain : Address.IsPlainBase client.baseUrl base)
    (some : id ≠ "") (noDots : ¬ IsDots id.toList) {path : String}
    (written : path.toList =
      Percent.encode pathStays (normalizePath (base.path.toList ++
        pathBelow client operation (encodeIdentifier id).toList))) :
    Addresses client base operation id path := by
  have plainSegments : ∀ segment ∈ frontSegments client ++
      (encodeIdentifier id).toList :: segments operation.suffix,
      '/' ∉ segment ∧ ¬ IsDots segment := by
    intro segment present
    rcases List.mem_append.1 present with front | here
    · obtain ⟨noSlash, noDots, -⟩ := frontSegments_plain client segment front
      exact ⟨noSlash, noDots⟩
    · rcases List.mem_cons.1 here with rfl | back
      · exact ⟨slash_not_mem_encodeIdentifier id, fun dots =>
          noDots (isDots_encodeIdentifier_iff.1 dots)⟩
      · exact operation.suffix_segments.2.1 segment back
  have normal : IsNormal (base.path.toList ++
      pathBelow client operation (encodeIdentifier id).toList) :=
    isNormal_append_rooted plain.isNormal_path plainSegments
  refine ⟨(encodeIdentifier id).toList, toList_encodeIdentifier_ne_nil some,
    slash_not_mem_encodeIdentifier id, decode_encodeIdentifier id, ?_⟩
  rw [written, normalizePath_of_isNormal normal, Percent.encode_append, plain.encode_path,
    encode_pathBelow, pathBelow_eq]
  simp

/-- An identifier of dots leads to a path that is too short for any segment. -/
theorem not_addresses_of_isDots (plain : Address.IsPlainBase client.baseUrl base)
    (dots : IsDots id.toList) {other path : String}
    (written : path.toList =
      Percent.encode pathStays (normalizePath (base.path.toList ++
        pathBelow client operation (encodeIdentifier id).toList))) :
    ¬ Addresses client base operation other path := by
  have segment := isDots_encodeIdentifier_iff.2 dots
  have front : frontSegments client ≠ [] := by
    simp [frontSegments]
  obtain ⟨left, shorter, fewer, length⟩ :=
    normalizePath_shorter plain.isNormal_path segment front fun segment present =>
      ⟨(segments_plain client operation segment present).1,
        (segments_plain client operation segment present).2.1⟩
  have kept : Percent.encode pathStays (rooted left) = rooted left := by
    apply Percent.encode_of_stays
    intro c present
    rcases mem_rooted present with rfl | ⟨segment, there, inside⟩
    · decide
    · have plain := segments_plain client operation segment (fewer segment there)
      exact List.all_eq_true.1 plain.2.2 c inside
  rintro ⟨other, -, -, -, whole⟩
  change normalizePath (base.path.toList ++ pathBelow client operation _) = _ at shorter
  change _ < (pathBelow client operation []).length at length
  rw [written, shorter, Percent.encode_append, plain.encode_path, kept, List.append_assoc,
    List.append_assoc] at whole
  have same := congrArg List.length (List.append_cancel_left whole)
  rw [pathBelow_eq] at length
  simp only [List.length_append, List.length_nil] at same length
  omega

private theorem not_addresses_empty
    {path : String} : ¬ Addresses client base operation "" path := by
  rintro ⟨segment, some, -, decoded, -⟩
  exact Percent.decode_ne_nil some decoded

namespace Operation

/-- The first request of an operation goes to the segment of its group, below the groups of the
server, exactly if the identifier is neither empty nor one of the segments of dots. -/
theorem first_request_addresses_iff {url : String} {username password : Option String}
    {timeout : Value} {headers : Keyed Value} {base : Address}
    (plain : Address.IsPlainBase (Client.new url username password timeout headers).baseUrl base)
    (operation : Operation) {id : String} (identified : operation.identifier? = some id)
    (network : Network) (wire : Wire) {first : Request} {more : List Request}
    (sent : (operation.run (Client.new url username password timeout headers)
      network wire).2.requests = wire.requests ++ first :: more) :
    Addresses (Client.new url username password timeout headers) base operation id
        first.address.path ↔
      id ≠ "" ∧ id ≠ "." ∧ id ≠ ".." := by
  have noSlash := getLast?_dropTrailingSlashes url
  obtain ⟨task, made, starts⟩ := operation.run_startsWith _ network wire first more sent
  have written := path_of_starts plain noSlash made identified starts
  constructor
  · intro addresses
    refine ⟨?_, ?_, ?_⟩
    · rintro rfl
      exact not_addresses_empty addresses
    · rintro rfl
      exact not_addresses_of_isDots plain (.inl rfl) written addresses
    · rintro rfl
      exact not_addresses_of_isDots plain (.inr rfl) written addresses
  · rintro ⟨some, noDot, noDots⟩
    apply addresses_of_not_isDots plain some _ written
    rintro (dot | dots)
    · exact noDot (String.toList_injective dot)
    · exact noDots (String.toList_injective dots)

/-! ### Samples -/

/-- A client with credentials for a server below a path. -/
def sampleClient : Client :=
  Client.new "http://gerrit.test/r/" (some "ann") (some "secret") (.int 30) []

/-- Where the sample client sends its requests. -/
def sampleBase : Address := ⟨"http", "", "gerrit.test", none, "/r", none, none⟩

/-- A client without credentials for a server at the root. -/
def anonymousClient : Client :=
  Client.new "http://gerrit.test" none none (.int 30) []

/-- Where the client without credentials sends its requests. -/
def anonymousBase : Address := ⟨"http", "", "gerrit.test", none, "", none, none⟩

/-- Nothing is answered in time. -/
def silence : Network := fun _ => .fault .timeout ""

/-- The sample client has a plain base address. -/
theorem isPlainBase_sample : Address.IsPlainBase sampleClient.baseUrl sampleBase := by
  constructor
  case read =>
      apply Result.eq_ok_of_toOption
      decide +kernel
  case absolute => decide +kernel
  case noQuery => rfl
  case noFragment => rfl
  case noDots =>
      unfold IsNormal IsDots
      decide +kernel

/-- The client without credentials has a plain base address. -/
theorem isPlainBase_anonymous : Address.IsPlainBase anonymousClient.baseUrl anonymousBase := by
  constructor
  case read =>
      apply Result.eq_ok_of_toOption
      decide +kernel
  case absolute => decide +kernel
  case noQuery => rfl
  case noFragment => rfl
  case noDots =>
      unfold IsNormal IsDots
      decide +kernel

/-- An identifier with a slash in it is a segment. -/
theorem first_request_addresses_slash :
    Address.IsPlainBase sampleClient.baseUrl sampleBase ∧
      ∃ first,
        ((perform (.getDetail (.text "a/b"))).run sampleClient silence .fresh).2.requests =
          [first] ∧
        Addresses sampleClient sampleBase (perform (.getDetail (.text "a/b"))) "a/b"
          first.address.path := by
  have paths : (((perform (.getDetail (.text "a/b"))).run sampleClient silence
      .fresh).2.requests.map fun request => request.address.path) =
      ["/r/a/groups/a%2Fb/detail"] := by
    decide +kernel
  obtain ⟨first, sent, -⟩ := List.map_eq_singleton_iff.1 paths
  refine ⟨isPlainBase_sample, first, sent, ?_⟩
  exact (first_request_addresses_iff isPlainBase_sample _ rfl silence .fresh sent).2 (by decide)

/-- An identifier that is a dot is left out of the path: the request to index that group does not
name it. -/
theorem first_request_without_dot :
    Address.IsPlainBase anonymousClient.baseUrl anonymousBase ∧
      ∃ first,
        ((perform (.index (.text "."))).run anonymousClient silence .fresh).2.requests = [first] ∧
        first.address.path = "/groups/index" ∧
        ¬ Addresses anonymousClient anonymousBase (perform (.index (.text "."))) "."
          first.address.path := by
  have paths : (((perform (.index (.text "."))).run anonymousClient silence
      .fresh).2.requests.map fun request => request.address.path) = ["/groups/index"] := by
    decide +kernel
  obtain ⟨first, sent, path⟩ := List.map_eq_singleton_iff.1 paths
  refine ⟨isPlainBase_anonymous, first, sent, path, ?_⟩
  rintro ⟨segment, -, -, -, whole⟩
  rw [path] at whole
  have length := congrArg List.length whole
  have front : (mark anonymousClient ++ "/groups/").toList.length = "/groups/".toList.length := by
    decide
  have back : (perform (.index (.text "."))).suffix = "/index" := rfl
  have short :
      "/groups/index".toList.length < "/groups/".toList.length + "/index".toList.length := by
    decide
  rw [List.length_append, List.length_append, List.length_append, front, back] at length
  omega

end Operation

end ReviewGroups.Rest
