/-
Module: ReviewGroups.Proofs.KeptServer
Purpose: An address leads to one server, whatever else of it is replaced: whoever asks for a path,
  the request that a client makes goes to the server in the address that the client is given.
  Servers are compared by scheme, host up to the case of escapes, and port up to the default
  (`SameServer`). Each operation on addresses keeps the server, since a path that is asked for is
  always made relative.
Trusted boundary: none
Main exports: Address.SameServer, Address.KeepsServer, Address.KeepsServer.splitAuthority_authority,
  Address.KeepsServer.sameServer_of_rebuild, Client.sameServer_of_request
-/
import ReviewGroups.Proofs.UserInformation

namespace ReviewGroups

namespace Url

namespace Address

variable {address changed base other reference : Address}

/-! ### Servers -/

/-- Two addresses lead to one server: by the same scheme, to the same host, but for the letters of
escapes in it, and to the same port. -/
structure SameServer (address other : Address) : Prop where
  scheme : other.scheme = address.scheme
  host : IsSameHost address.host.toList other.host.toList
  port : other.effectivePort = address.effectivePort

/-- What leads to the server of an address that leads to a server leads to that. -/
theorem SameServer.trans (before : SameServer address base) (after : SameServer base other) :
    SameServer address other where
  scheme := after.scheme.trans before.scheme
  host := before.host.trans after.host
  port := after.port.trans before.port

/-- The server of an address stays what it is when the address is put together once more: beside its
user information, that takes a scheme of the web and a host as addresses keep it. -/
structure KeepsServer (address : Address) : Prop extends KeepsUser address where
  web : address.scheme = "http" ∨ address.scheme = "https"
  form : IsHostName address.host.toList ∨ isIpv6 address.host.toList = true

/-- Host and port of an address that is put together are those of the authority. -/
theorem location_of_assemble {components : Components} {authority : Authority}
    (assembled : assemble components authority = .ok address) :
    normalizeHost authority.host = .ok address.host.toList ∧
      normalizePort components.scheme authority.port = .ok address.port := by
  unfold assemble at assembled
  obtain ⟨host, hosted, assembled⟩ := Result.bind_eq_ok_iff.1 assembled
  obtain ⟨port, ported, assembled⟩ := Result.bind_eq_ok_iff.1 assembled
  obtain ⟨_, -, assembled⟩ := Result.bind_eq_ok_iff.1 assembled
  cases assembled
  dsimp only
  rw [String.toList_ofList]
  exact ⟨hosted, ported⟩

private theorem keepsServer_of_assemble {components : Components} {cs : List Char}
    (assembled : assemble components (splitAuthority cs) = .ok address)
    (web : address.scheme = "http" ∨ address.scheme = "https") : KeepsServer address where
  toKeepsUser := keepsUser_of_assemble assembled
  web := web
  form := (normalizeHost_cases (location_of_assemble assembled).1).imp_right And.left

/-! ### Authorities -/

/-- The port of an address as it is written behind the host. -/
def portTail : Option Int → List Char
  | none => []
  | some port => ':' :: writtenPort (some port)

theorem location_eq (address : Address) :
    address.location = writtenHost address.host.toList ++ portTail address.port := by
  unfold location writtenHost portTail
  cases address.port <;> rfl

/-- The host of an authority, and what is behind it. -/
def splitHost (rest : List Char) : List Char × List Char :=
  match rest with
  | '[' :: _ =>
      match cutAtLast ']' rest with
      | some (inside, after) => (inside ++ [']'], after)
      | none => (rest.takeWhile (· != ':'), rest.dropWhile (· != ':'))
  | _ => (rest.takeWhile (· != ':'), rest.dropWhile (· != ':'))

/-- User information and a host make an authority with what is behind the host: a port, and the
colon in front of it. -/
def authorityOf (userinfo : List Char) (hosted : List Char × List Char) : Authority :=
  match hosted.2 with
  | ':' :: port => ⟨userinfo, hosted.1, port⟩
  | port => ⟨userinfo, hosted.1, port⟩

private theorem splitAuthority_eq (cs : List Char) :
    splitAuthority cs = authorityOf ((cutAtLast '@' cs).getD ([], cs)).1
      (splitHost ((cutAtLast '@' cs).getD ([], cs)).2) :=
  rfl

private theorem splitAuthority_of_cut {cs userinfo rest host : List Char} {port : Option Int}
    (cut : (cutAtLast '@' cs).getD ([], cs) = (userinfo, rest))
    (hosted : splitHost rest = (host, portTail port)) :
    splitAuthority cs = ⟨userinfo, host, writtenPort port⟩ := by
  rw [splitAuthority_eq, cut, hosted]
  cases port <;> rfl

private theorem bracket_not_mem_writtenPort (port : Option Int) : ']' ∉ writtenPort port := by
  cases port with
  | none => exact List.not_mem_nil
  | some port =>
      rw [writtenPort, Json.toList_toString_int, List.mem_append, not_or]
      constructor
      · split <;> decide
      · intro present
        exact absurd (Nat.isDigit_of_mem_toDigits (by decide) (by decide : 10 ≤ 10) present)
          (by decide)

/-- A host name ends at the colon in front of a port. -/
theorem splitHost_of_isHostName {host : List Char} (name : IsHostName host) (port : Option Int) :
    splitHost (host ++ portTail port) = (host, portTail port) := by
  have before : ∀ c ∈ host, (c != ':') = true := by
    intro c present
    rw [bne_iff_ne]
    rintro rfl
    exact absurd (name.stays _ present) (by decide)
  have whole : (host ++ portTail port).takeWhile (· != ':') = host ∧
      (host ++ portTail port).dropWhile (· != ':') = portTail port := by
    rw [List.takeWhile_append_of_pos before, List.dropWhile_append_of_pos before]
    cases port <;> simp [portTail]
  unfold splitHost
  split
  next inside starts =>
    rcases List.append_eq_cons_iff.1 starts with ⟨-, tail⟩ | ⟨rest, named, -⟩
    · cases port <;> simp [portTail] at tail
    · exact absurd (name.stays '[' (named ▸ List.mem_cons_self)) (by decide)
  next => rw [whole.1, whole.2]

/-- A host in brackets ends at the last of them. -/
theorem splitHost_bracketed (inner : List Char) (port : Option Int) :
    splitHost ('[' :: inner ++ [']'] ++ portTail port) =
      ('[' :: inner ++ [']'], portTail port) := by
  have clean : ']' ∉ portTail port := by
    cases port with
    | none => exact List.not_mem_nil
    | some port =>
        rw [portTail, List.mem_cons, not_or]
        exact ⟨by decide, bracket_not_mem_writtenPort _⟩
  have cut : cutAtLast ']' ('[' :: (inner ++ [']'] ++ portTail port)) =
      some ('[' :: inner, portTail port) :=
    cutAtLast_eq_some_iff.2 ⟨clean, by simp⟩
  rw [List.cons_append, List.cons_append, splitHost, cut]
  rfl

/-- The authority of an address is split into its user information, host and port. -/
theorem KeepsServer.splitAuthority_authority (keeps : KeepsServer address) :
    splitAuthority address.authority =
      ⟨address.userinfo.toList, writtenHost address.host.toList, writtenPort address.port⟩ := by
  apply splitAuthority_of_cut keeps.cut_authority
  rw [location_eq, writtenHost]
  rcases keeps.form with name | network
  · have noColon : ':' ∉ address.host.toList := fun present =>
      absurd (name.stays _ present) (by decide)
    rw [if_neg noColon]
    exact splitHost_of_isHostName name address.port
  · rw [if_pos (colon_mem_of_isIpv6 network)]
    exact splitHost_bracketed address.host.toList address.port

/-! ### Addresses that are put together once more -/

/-- Among the schemes of the web, the port that is used is the one that is there, or the one that
the scheme implies. -/
theorem effectivePort_eq (web : address.scheme = "http" ∨ address.scheme = "https") :
    address.effectivePort = address.port.or (defaultPort? address.scheme) := by
  unfold effectivePort
  cases address.port with
  | some port => rfl
  | none => rcases web with scheme | scheme <;> rw [scheme] <;> rfl

theorem KeepsServer.lower_scheme (keeps : KeepsServer address) :
    address.scheme.toList.map Char.toLower = address.scheme.toList := by
  rcases keeps.web with scheme | scheme <;> rw [scheme] <;> decide

/-- What an address is rebuilt to with its own scheme and authority leads to its server. -/
theorem KeepsServer.sameServer_of_rebuild {components : Components} (keeps : KeepsServer address)
    (schemed : components.scheme = address.scheme.toList)
    (located : components.authority = address.authority)
    (rebuilt : rebuild components = .ok changed) :
    KeepsServer changed ∧ SameServer address changed := by
  have assembled := assemble_of_rebuild rebuilt
  have scheme : changed.scheme = address.scheme := by
    apply String.toList_injective
    rw [(isAssembled_of_assemble assembled).scheme, schemed, keeps.lower_scheme]
  have web : changed.scheme = "http" ∨ changed.scheme = "https" := scheme ▸ keeps.web
  obtain ⟨host, port⟩ := location_of_assemble assembled
  refine ⟨keepsServer_of_assemble assembled web, scheme, ?_, ?_⟩
  case refine_1 =>
    rw [located, keeps.splitAuthority_authority] at host
    exact isSameHost_of_normalizeHost keeps.form host
  case refine_2 =>
    rw [located, keeps.splitAuthority_authority, schemed] at port
    have same := or_default_of_normalizePort port
    rw [String.ofList_toList] at same
    rw [effectivePort_eq web, effectivePort_eq keeps.web, scheme, same]

/-- With another path an address leads to the server that it led to. -/
theorem KeepsServer.sameServer_of_withRawPath {raw : List Char} (keeps : KeepsServer address)
    (replaced : address.withRawPath raw = .ok changed) :
    KeepsServer changed ∧ SameServer address changed := by
  unfold withRawPath at replaced
  split at replaced
  · exact keeps.sameServer_of_rebuild rfl rfl replaced
  · exact keeps.sameServer_of_rebuild rfl rfl replaced

/-- What others are appended to leads to the server of the address. -/
theorem KeepsServer.sameServer_of_asBase (keeps : KeepsServer address)
    (based : address.asBase = .ok base) : KeepsServer base ∧ SameServer address base := by
  unfold asBase at based
  split at based
  · cases based
    exact ⟨keeps, rfl, .inl rfl, rfl⟩
  · exact keeps.sameServer_of_withRawPath based

/-- What a relative reference is appended to leads to the server of the base. -/
theorem KeepsServer.sameServer_of_append (keeps : KeepsServer base)
    (relative : reference.isAbsolute = false) (appended : base.append reference = .ok changed) :
    KeepsServer changed ∧ SameServer base changed := by
  unfold append at appended
  rw [if_neg (by simp [relative])] at appended
  exact keeps.sameServer_of_withRawPath appended

end Address

end Url

namespace Http

open Url

private theorem sameServer_of_withParameters {address changed : Address}
    {parameters : Option (Keyed (List String))} (keeps : address.KeepsServer)
    (replaced : withParameters address parameters = .ok changed) : address.SameServer changed := by
  cases parameters with
  | none =>
      cases replaced
      exact ⟨rfl, .inl rfl, rfl⟩
  | some gathered =>
      have changedQuery := withParameters_some_eq_ok_iff.1 replaced
      exact (keeps.sameServer_of_rebuild rfl rfl changedQuery).2

namespace Client

variable {client : Client} {address base : Address} {intent : Intent} {request : Request}

/-- What a client makes leads to the server in its address, whatever path and parameters it is
asked for. -/
theorem sameServer_of_request (read : Address.parse client.baseUrl = .ok address)
    (web : address.scheme = "http" ∨ address.scheme = "https") (isBase : client.base = .ok base)
    (made : client.request base intent = .ok request) : address.SameServer request.address := by
  obtain ⟨other, readToo, based⟩ := exists_asBase_of_base isBase
  cases read.symm.trans readToo
  have keeps := Address.keepsServer_of_assemble (Address.assemble_of_parse read) web
  obtain ⟨keepsBase, sameBase⟩ := keeps.sameServer_of_asBase based
  obtain ⟨reference, appended, parameters, readPath, append, -, replaced⟩ :=
    (makes_of_request made).address
  obtain ⟨rest, rooted⟩ := client.exists_buildPath intent.path
  rw [rooted] at readPath
  have relative := Address.isAbsolute_of_parse_rooted readPath
  obtain ⟨keepsAppended, sameAppended⟩ := keepsBase.sameServer_of_append relative append
  exact (sameBase.trans sameAppended).trans (sameServer_of_withParameters keepsAppended replaced)

end Client

end Http

end ReviewGroups
