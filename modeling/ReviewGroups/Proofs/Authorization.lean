/-
Module: ReviewGroups.Proofs.Authorization
Purpose: When the header that proves who asks goes with the path for those who prove it. The client
  decides on the path by its own credentials, and on the header by those in its address as well; the
  two agree exactly if the client has credentials or the address decodes to none. Only first
  requests are looked at; a redirect to another server takes the header away, and that is not said
  here.
Trusted boundary: none
Main exports: rootedPath, Client.effectiveCredentials_isSome_iff,
  Client.authorization_follows_path_iff
-/
import ReviewGroups.Proofs.FirstRequest
import ReviewGroups.Proofs.GroupAddressing
import ReviewGroups.Proofs.HeaderNames
import ReviewGroups.Proofs.UserInformation

namespace ReviewGroups.Http

open Url

/-- A path with a slash in front of it. -/
def rootedPath (path : String) : String :=
  if path.toList.head? = some '/' then path else "/" ++ path

namespace Client

variable {client : Client} {intent : Intent}

/-- A client goes to the path for those who prove who they are exactly if it has credentials of its
own. -/
private theorem buildPath_eq_marked_iff {path : String} :
    client.buildPath path = "/a" ++ rootedPath path ↔ client.isAuthenticated = true := by
  change (if client.isAuthenticated then "/a" ++ rootedPath path else rootedPath path) = _ ↔ _
  by_cases authenticated : client.isAuthenticated = true
  · simp [authenticated]
  · rw [if_neg authenticated]
    constructor
    · intro same
      have length := congrArg (fun s => s.toList.length) same
      simp at length
      omega
    · exact fun authenticatedToo => absurd authenticatedToo authenticated

/-- There are credentials to send exactly if the client has some of its own, or the address has. -/
theorem effectiveCredentials_isSome_iff {address : Address} :
    (client.effectiveCredentials address).isSome = true ↔
      client.isAuthenticated = true ∨ address.credentials ≠ ("", "") := by
  unfold effectiveCredentials isAuthenticated
  split
  next credentials found => simp [found]
  next nothing =>
    obtain ⟨username, password⟩ := address.credentials
    by_cases noName : username = "" <;> by_cases noWord : password = "" <;>
      simp [nothing, noName, noWord]

private theorem exists_of_base {base : Address} (isBase : client.base = .ok base) :
    ∃ address, Address.parse client.baseUrl = .ok address ∧ address.asBase = .ok base ∧
      base.credentials = address.credentials := by
  obtain ⟨address, read, based⟩ := exists_asBase_of_base isBase
  obtain ⟨-, same⟩ := (Address.keepsUser_of_parse read).userinfo_of_asBase based
  exact ⟨address, read, based, by rw [Address.credentials, same]; rfl⟩

/-- What is sent to the path for those who prove who they are proves it.  The proof and the path go
together exactly if the client has credentials of its own, or there are none in its address: those
in the address are proved on the path for everyone. -/
theorem authorization_follows_path_iff (leaves : client.LeavesProof intent) {network : Network}
    {wire : Wire} {first : Request} {more : List Request}
    (sent : (send client intent network wire).2.requests = wire.requests ++ first :: more) :
    ∃ address base, Address.parse client.baseUrl = .ok address ∧ address.asBase = .ok base ∧
      client.Makes base intent first ∧
      (client.buildPath intent.path = "/a" ++ rootedPath intent.path →
        Header.has Header.proofKey first.headers = true) ∧
      ((Header.has Header.proofKey first.headers = true ↔
          client.buildPath intent.path = "/a" ++ rootedPath intent.path) ↔
        client.isAuthenticated = true ∨ address.credentials = ("", "")) := by
  obtain ⟨base, isBase, made⟩ := send_startsWith client intent network wire first more sent
  obtain ⟨makes, heads⟩ := request_eq_ok_iff.1 made
  obtain ⟨address, read, based, same⟩ := exists_of_base isBase
  have proof := has_proof_of_heads leaves heads
  have credentials : first.address.credentials = address.credentials :=
    (credentials_of_makes isBase makes).trans same
  refine ⟨address, base, read, based, makes, ?_⟩
  rw [proof, effectiveCredentials_isSome_iff, buildPath_eq_marked_iff, credentials]
  by_cases authenticated : client.isAuthenticated = true <;> simp [authenticated]

/-! ### Samples -/

open Rest.Operation (anonymousClient isPlainBase_anonymous silence)

/-- A fetch of all groups. -/
def sampleIntent : Intent := .plain "GET" "/groups/"

/-- A client without credentials whose address has some. -/
def namedClient : Client :=
  Client.new "http://ann:pw@gerrit.test" none none (.int 30) []

/-- Neither proof nor path for those who prove who they are, for a client without credentials and
without any in its address. -/
theorem authorization_follows_path_anonymous :
    anonymousClient.LeavesProof sampleIntent ∧
      ∃ first, (send anonymousClient sampleIntent silence .fresh).2.requests = [first] ∧
        (Header.has Header.proofKey first.headers = true ↔
          anonymousClient.buildPath "/groups/" = "/a" ++ rootedPath "/groups/") := by
  have leaves : anonymousClient.LeavesProof sampleIntent :=
    ⟨by decide, by decide⟩
  have sentOne : (send anonymousClient sampleIntent silence .fresh).2.requests.length = 1 := by
    decide +kernel
  obtain ⟨first, sent⟩ := List.length_eq_one_iff.1 sentOne
  refine ⟨leaves, first, sent, ?_⟩
  obtain ⟨address, -, read, -, -, -, agree⟩ := authorization_follows_path_iff leaves sent
  cases read.symm.trans isPlainBase_anonymous.read
  exact agree.2 (.inr (by decide +kernel))

/-- Credentials in the address of a client are proved on the path for everyone. -/
theorem authorization_leaves_path :
    namedClient.LeavesProof sampleIntent ∧
      ∃ first, (send namedClient sampleIntent silence .fresh).2.requests = [first] ∧
        ¬ (Header.has Header.proofKey first.headers = true ↔
          namedClient.buildPath "/groups/" = "/a" ++ rootedPath "/groups/") := by
  have leaves : namedClient.LeavesProof sampleIntent :=
    ⟨by decide, by decide⟩
  have proofs : ((send namedClient sampleIntent silence .fresh).2.requests.map fun request =>
      Header.has Header.proofKey request.headers) = [true] := by
    decide +kernel
  obtain ⟨first, sent, proof⟩ := List.map_eq_singleton_iff.1 proofs
  refine ⟨leaves, first, sent, ?_⟩
  rw [proof]
  decide

end Client

end ReviewGroups.Http
