/-
Module: ReviewGroups.Proofs.UserInformation
Purpose: The user information of an address stays what it is, whatever else of the address is
  replaced: no host that an address keeps holds the at-sign that ends it. The credentials in an
  address are what is decoded from its user information, and so they stay the same from the base
  address to every request.
Trusted boundary: none
Main exports: cutAtLast_eq_some_iff, Address.KeepsUser, Address.KeepsUser.cut_authority,
  Address.KeepsUser.userinfo_of_rebuild, Client.credentials_of_makes
-/
import ReviewGroups.Proofs.AppendedPath
import ReviewGroups.Proofs.RequestParts
import ReviewGroups.Proofs.WrittenLocation

namespace ReviewGroups

namespace Url

/-! ### Authorities -/

private theorem userinfo_splitAuthority (cs : List Char) :
    (splitAuthority cs).userinfo = ((cutAtLast '@' cs).getD ([], cs)).1 := by
  unfold splitAuthority
  dsimp only
  split <;> rfl

/-- A text is cut at the last occurrence of a character. -/
theorem cutAtLast_eq_some_iff {mark : Char} {cs before after : List Char} :
    cutAtLast mark cs = some (before, after) ↔ mark ∉ after ∧ cs = before ++ mark :: after := by
  unfold cutAtLast
  rw [Option.map_eq_some_iff]
  constructor
  · rintro ⟨⟨reversedAfter, reversedBefore⟩, cut, same⟩
    obtain ⟨rfl, rfl⟩ := Prod.mk.inj same
    obtain ⟨last, whole⟩ := Text.cutAt_eq_some_iff.1 cut
    exact ⟨by simpa using last, by simpa using congrArg List.reverse whole⟩
  · rintro ⟨last, rfl⟩
    refine ⟨(after.reverse, before.reverse), ?_, by simp⟩
    exact Text.cutAt_eq_some_iff.2 ⟨by simpa using last, by simp⟩

private theorem cutAtLast_eq_none_iff {mark : Char} {cs : List Char} :
    cutAtLast mark cs = none ↔ mark ∉ cs := by
  rw [cutAtLast, Option.map_eq_none_iff, Text.cutAt_eq_none_iff, List.mem_reverse]

private theorem at_not_mem_behind (cs : List Char) : '@' ∉
    ((cutAtLast '@' cs).getD ([], cs)).2 := by
  rcases cut : cutAtLast '@' cs with _ | ⟨before, after⟩
  · exact cutAtLast_eq_none_iff.1 cut
  · exact (cutAtLast_eq_some_iff.1 cut).1

/-- The host of an authority is part of what follows user information. -/
theorem host_splitAuthority_subset (cs : List Char) :
    (splitAuthority cs).host ⊆ ((cutAtLast '@' cs).getD ([], cs)).2 := by
  have early (rest : List Char) : rest.takeWhile (· != ':') ⊆ rest :=
    (List.takeWhile_sublist _).subset
  unfold splitAuthority
  generalize (cutAtLast '@' cs).getD ([], cs) = parts
  obtain ⟨userinfo, rest⟩ := parts
  dsimp only
  -- What follows the host does not matter: it is the same host with a port and without one.
  split
  all_goals
    dsimp only
    split
    · split
      next inside after cut =>
        rw [(cutAtLast_eq_some_iff.1 cut).2]
        simp
      next => exact early _
    · exact early _

private theorem at_not_mem_host_splitAuthority (cs : List Char) : '@' ∉ (splitAuthority cs).host :=
  fun present => at_not_mem_behind cs (host_splitAuthority_subset cs present)

/-! ### Addresses -/

namespace Address

variable {address changed base reference : Address}

/-- The user information of an address stays as it is when the address is put together once more:
nothing behind it has the at-sign that ends it, and nothing in it needs an escape. -/
structure KeepsUser (address : Address) : Prop where
  host : '@' ∉ address.host.toList
  escaped : Percent.encode userinfoStays address.userinfo.toList = address.userinfo.toList

/-- What components are assembled to has the user information of the authority, escaped. -/
theorem userinfo_of_assemble {components : Components} {authority : Authority}
    (assembled : assemble components authority = .ok address) :
    address.userinfo.toList = Percent.encode userinfoStays authority.userinfo := by
  unfold assemble at assembled
  obtain ⟨host, -, assembled⟩ := Result.bind_eq_ok_iff.1 assembled
  obtain ⟨port, -, assembled⟩ := Result.bind_eq_ok_iff.1 assembled
  obtain ⟨_, -, assembled⟩ := Result.bind_eq_ok_iff.1 assembled
  cases assembled
  exact String.toList_ofList

private theorem encode_userinfoStays_encode (userinfo : List Char) :
    Percent.encode userinfoStays (Percent.encode userinfoStays userinfo) =
      Percent.encode userinfoStays userinfo :=
  Percent.encode_encode (by decide) (fun _ => Percent.stays_of_isUnreserved (by decide)) userinfo

/-- What components are assembled to keeps its user information. -/
theorem keepsUser_of_assemble {components : Components} {cs : List Char}
    (assembled : assemble components (splitAuthority cs) = .ok address) : KeepsUser address := by
  constructor
  case escaped =>
      rw [userinfo_of_assemble assembled, encode_userinfoStays_encode]
  case host =>
      unfold assemble at assembled
      obtain ⟨host, normalized, assembled⟩ := Result.bind_eq_ok_iff.1 assembled
      obtain ⟨port, -, assembled⟩ := Result.bind_eq_ok_iff.1 assembled
      obtain ⟨_, -, assembled⟩ := Result.bind_eq_ok_iff.1 assembled
      cases assembled
      dsimp only
      rw [String.toList_ofList]
      intro present
      exact at_not_mem_host_splitAuthority cs
        (mem_of_mem_normalizeHost (by decide) normalized present)

theorem keepsUser_of_parse {text : String} (read : parse text = .ok address) : KeepsUser address :=
  keepsUser_of_assemble (assemble_of_parse read)

/-- There is no at-sign in a host and a port. -/
theorem KeepsUser.at_not_mem_location (keeps : KeepsUser address) : '@' ∉ address.location := by
  unfold location
  rw [List.mem_append, not_or]
  constructor
  · split
    · simpa using keeps.host
    · exact keeps.host
  · split
    · exact List.not_mem_nil
    next port =>
      rw [List.mem_cons, not_or, Json.toList_toString_int, List.mem_append, not_or]
      refine ⟨by decide, ?_, ?_⟩
      · split <;> decide
      · intro present
        exact absurd (Nat.isDigit_of_mem_toDigits (by decide) (by decide : 10 ≤ 10) present)
          (by decide)

/-- The authority of an address is cut behind its user information. -/
theorem KeepsUser.cut_authority (keeps : KeepsUser address) :
    (cutAtLast '@' address.authority).getD ([], address.authority) =
      (address.userinfo.toList, address.location) := by
  have clean := keeps.at_not_mem_location
  rw [authority]
  split
  next none =>
    rw [List.nil_append, cutAtLast_eq_none_iff.2 clean]
    simpa using none.symm
  next =>
    have cut : cutAtLast '@' (address.userinfo.toList ++ ['@'] ++ address.location) =
        some (address.userinfo.toList, address.location) :=
      cutAtLast_eq_some_iff.2 ⟨clean, by simp⟩
    rw [cut]
    rfl

theorem KeepsUser.userinfo_authority (keeps : KeepsUser address) :
    (splitAuthority address.authority).userinfo = address.userinfo.toList := by
  rw [userinfo_splitAuthority, keeps.cut_authority]

/-- What an address is rebuilt to with its own authority has its user information. -/
theorem KeepsUser.userinfo_of_rebuild {components : Components} (keeps : KeepsUser address)
    (located : components.authority = address.authority)
    (rebuilt : rebuild components = .ok changed) :
    KeepsUser changed ∧ changed.userinfo = address.userinfo := by
  have assembled := assemble_of_rebuild rebuilt
  refine ⟨keepsUser_of_assemble assembled, ?_⟩
  apply String.toList_injective
  rw [userinfo_of_assemble assembled, located, keeps.userinfo_authority, keeps.escaped]

/-- With another path an address has the user information that it had. -/
theorem KeepsUser.userinfo_of_withRawPath {raw : List Char} (keeps : KeepsUser address)
    (replaced : address.withRawPath raw = .ok changed) :
    KeepsUser changed ∧ changed.userinfo = address.userinfo := by
  unfold withRawPath at replaced
  split at replaced
  · exact keeps.userinfo_of_rebuild rfl replaced
  · exact keeps.userinfo_of_rebuild rfl replaced

/-- What others are appended to has the user information of the address. -/
theorem KeepsUser.userinfo_of_asBase (keeps : KeepsUser address)
    (based : address.asBase = .ok base) : KeepsUser base ∧ base.userinfo = address.userinfo := by
  unfold asBase at based
  split at based
  · cases based
    exact ⟨keeps, rfl⟩
  · exact keeps.userinfo_of_withRawPath based

/-- What a relative reference is appended to keeps its user information. -/
theorem KeepsUser.userinfo_of_append (keeps : KeepsUser base)
    (relative : reference.isAbsolute = false) (appended : base.append reference = .ok changed) :
    KeepsUser changed ∧ changed.userinfo = base.userinfo := by
  unfold append at appended
  rw [if_neg (by simp [relative])] at appended
  exact keeps.userinfo_of_withRawPath appended

/-- A reference that starts with a slash is no address of its own. -/
theorem isAbsolute_of_parse_rooted {rest : List Char}
    (read : parse (String.ofList ('/' :: rest)) = .ok reference) :
    reference.isAbsolute = false := by
  have scheme := (isAssembled_of_assemble (assemble_of_parse read)).scheme
  have noScheme : (splitComponents ('/' :: rest)).scheme = [] := by
    unfold splitComponents splitAfterScheme
    rw [splitScheme_slash]
    dsimp only
    split
    · split <;> rfl
    · rfl
    · rfl
  rw [String.toList_ofList, noScheme, List.map_nil, String.toList_eq_nil_iff] at scheme
  simp [isAbsolute, scheme]

end Address

end Url

namespace Http

open Url

private theorem userinfo_of_withParameters {address changed : Address}
    {parameters : Option (Keyed (List String))} (keeps : address.KeepsUser)
    (replaced : withParameters address parameters = .ok changed) :
    changed.userinfo = address.userinfo := by
  cases parameters with
  | none =>
      cases replaced
      rfl
  | some gathered =>
      have changedQuery := withParameters_some_eq_ok_iff.1 replaced
      exact (keeps.userinfo_of_rebuild rfl changedQuery).2

namespace Client

variable {client : Client} {base : Address} {intent : Intent} {request : Request}

private theorem keepsUser_of_base (isBase : client.base = .ok base) : base.KeepsUser := by
  obtain ⟨address, read, based⟩ := exists_asBase_of_base isBase
  exact ((Address.keepsUser_of_parse read).userinfo_of_asBase based).1

/-- The path of a request starts with a slash. -/
theorem exists_buildPath (client : Client) (path : String) :
    ∃ rest, client.buildPath path = String.ofList ('/' :: rest) := by
  suffices starts : (client.buildPath path).toList.head? = some '/' by
    obtain ⟨rest, written⟩ := List.head?_eq_some_iff.1 starts
    exact ⟨rest, by rw [← written, String.ofList_toList]⟩
  unfold buildPath
  dsimp only
  split
  · simp
  · split
    next starts => exact starts
    next => simp

/-- The credentials in the address of a request are those in the base address of the client. -/
theorem credentials_of_makes (isBase : client.base = .ok base)
    (makes : client.Makes base intent request) :
    request.address.credentials = base.credentials := by
  obtain ⟨reference, appended, parameters, read, append, -, replaced⟩ := makes.address
  obtain ⟨rest, rooted⟩ := client.exists_buildPath intent.path
  rw [rooted] at read
  have relative := Address.isAbsolute_of_parse_rooted read
  obtain ⟨keeps, same⟩ := (keepsUser_of_base isBase).userinfo_of_append relative append
  unfold Address.credentials
  rw [userinfo_of_withParameters keeps replaced, same]

end Client

end Http

end ReviewGroups
