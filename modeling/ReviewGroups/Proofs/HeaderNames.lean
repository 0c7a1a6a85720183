/-
Module: ReviewGroups.Proofs.HeaderNames
Purpose: The names of the headers of a request: those of the client and of the call, and few others.
  Headers are kept under the names that they are written with and found whatever their case, and so
  names are compared in lower case throughout. Which value is sent under a name is a matter for
  `HeaderPrecedence`.
Trusted boundary: none
Main exports: Keyed.mem_keys_update, Header.proofKey, Header.has_set, Header.has_default,
  forall₂_of_checkHeaders, has_of_checkHeaders, has_of_nameHost, has_describeBody,
  Client.LeavesProof, Client.has_proof_of_heads
-/
import ReviewGroups.Proofs.RequestParts

namespace ReviewGroups

/-- The keys after an update are the ones from before and the new ones. -/
theorem Keyed.mem_keys_update {α : Type} {name : String} {entries more : Keyed α} :
    name ∈ keys (update entries more) ↔ name ∈ keys entries ∨ name ∈ keys more := by
  induction more generalizing entries with
  | nil => simp [update, keys]
  | cons entry more inductionHypothesis =>
      have inserted : name ∈ keys (insert entry.1 entry.2 entries) ↔
          name ∈ keys entries ∨ name = entry.1 := by
        by_cases known : entry.1 ∈ keys entries
        · rw [keys_insert_of_mem _ _ _ known]
          constructor
          · exact .inl
          · rintro (before | rfl)
            · exact before
            · exact known
        · rw [keys_insert_of_not_mem _ _ _ known, List.mem_append, List.mem_singleton]
      change name ∈ keys (update (insert entry.1 entry.2 entries) more) ↔ _
      rw [inductionHypothesis, inserted, or_assoc]
      simp [keys]

namespace Http

open Url

namespace Header

/-- The name, in lower case, of the header that proves who asks. -/
def proofKey : String := "authorization"

variable (key name value : String) (headers : List Header)

private theorem has_drop (other : name ≠ key) : has key (drop name headers) = has key headers := by
  unfold has drop
  rw [List.any_filter]
  refine List.any_congr rfl fun header => ?_
  by_cases same : headerKey header.1 = key
  · simp [same, other.symm]
  · simp [same]

/-- A header is set behind one of another name. -/
theorem set_cons_of_ne {header : Header} (other : headerKey header.1 ≠ headerKey name) :
    set name value (header :: headers) = header :: set name value headers := by
  have later : has (headerKey name) (header :: headers) = has (headerKey name) headers := by
    simp [has, other]
  unfold set
  rw [later]
  split <;> simp [other]

/-- What is set is there, and what was there before. -/
theorem has_set :
    has key (set name value headers) = (headerKey name == key || has key headers) := by
  induction headers with
  | nil => simp [set, has]
  | cons header headers inductionHypothesis =>
      by_cases hit : headerKey header.1 = headerKey name
      · by_cases same : headerKey name = key
        · simp [set, has, hit, same]
        · have kept := has_drop key (headerKey name) headers same
          simp only [has] at kept
          simp [set, has, hit, kept]
      · rw [set_cons_of_ne name value headers hit]
        simp only [has, List.any_cons] at inductionHypothesis ⊢
        rw [inductionHypothesis, Bool.or_left_comm]

/-- What is added unless it is there is there, and what was there before. -/
theorem has_default :
    has key (default name value headers) = (headerKey name == key || has key headers) := by
  unfold default
  split
  next known =>
    by_cases same : headerKey name = key
    · rw [← same, known, Bool.or_true]
    · simp [same]
  next => simp [has, Bool.or_comm]

end Header

variable {key : String} {headers named : List Header} {address : Address}

/-- Headers are checked one by one: each keeps its name, and its value is a text. -/
theorem forall₂_of_checkHeaders {entries : Keyed Value} {headers : List Header}
    (checked : checkHeaders entries = .ok headers) :
    List.Forall₂ (fun entry header => header.1 = entry.1 ∧ entry.2.text? = some header.2) entries
      headers := by
  refine (Result.mapM_eq_ok_iff.1 checked).imp ?_
  intro entry header accepted
  obtain ⟨_, -, accepted⟩ := Result.bind_eq_ok_iff.1 accepted
  split at accepted
  next => cases accepted
  next text found =>
    obtain ⟨_, -, accepted⟩ := Result.bind_eq_ok_iff.1 accepted
    cases accepted
    exact ⟨rfl, found⟩

/-- The names of headers are those of the entries that they are checked from. -/
theorem has_of_checkHeaders {entries : Keyed Value} (checked : checkHeaders entries = .ok headers) :
    Header.has key headers = entries.keys.any fun name => headerKey name == key := by
  have paired := forall₂_of_checkHeaders checked
  clear checked
  induction paired with
  | nil => rfl
  | cons head rest inductionHypothesis =>
      simp only [Header.has, Keyed.keys, List.map_cons, List.any_cons] at inductionHypothesis ⊢
      rw [inductionHypothesis, head.1]

/-- The name of the host is no other header. -/
theorem has_of_nameHost (other : key ≠ "host") (hosted : nameHost address headers = .ok named) :
    Header.has key named = Header.has key headers := by
  unfold nameHost at hosted
  split at hosted
  · cases hosted
    rfl
  · split at hosted
    · cases hosted
    · cases hosted
      split
      · rfl
      · have host : headerKey "Host" = "host" := by decide
        simp [Header.has, host, other.symm]

/-- The description of a body is no other header. -/
theorem has_describeBody (noLength : key ≠ "content-length") (noType : key ≠ "content-type")
    (method : String) (body : Option String) (headers : List Header) :
    Header.has key (describeBody method body headers) = Header.has key headers := by
  have length : headerKey "Content-Length" = "content-length" := by decide
  have type : headerKey "Content-Type" = "content-type" := by decide
  unfold describeBody
  split
  · rw [Header.has_default, Header.has_default, length, type, beq_false_of_ne noType.symm,
      beq_false_of_ne noLength.symm, Bool.false_or, Bool.false_or]
  · split
    · simp [Header.has, length, noLength.symm]
    · rfl

namespace Client

variable {client : Client} {base : Address} {intent : Intent} {request : Request}

/-- Neither the client nor the call brings a header of its own that proves who asks. -/
structure LeavesProof (client : Client) (intent : Intent) : Prop where
  client : ∀ name ∈ client.headers.keys, headerKey name ≠ Header.proofKey
  call : ∀ name ∈ intent.headers.keys, headerKey name ≠ Header.proofKey

/-- A request proves who asks exactly if there are credentials for its address, unless the client or
the call brings a header that does. -/
theorem has_proof_of_heads (leaves : client.LeavesProof intent)
    (heads : client.Heads intent request) :
    Header.has Header.proofKey request.headers =
      (client.effectiveCredentials request.address).isSome := by
  obtain ⟨checked, named, body, isChecked, hosted, -, signed⟩ := heads.headers
  have none : Header.has Header.proofKey checked = false := by
    rw [has_of_checkHeaders isChecked, List.any_eq_false]
    intro name present
    rw [beq_iff_eq]
    rcases Keyed.mem_keys_update.1 present with before | called
    · rcases Keyed.mem_keys_update.1 before with accept | own
      · rw [List.mem_singleton.1 accept]
        decide
      · exact leaves.client name own
    · exact leaves.call name called
  have described : Header.has Header.proofKey
      (describeBody request.method (body.map (Json.render compact)) named) = false := by
    rw [has_describeBody (by decide) (by decide), has_of_nameHost (by decide) hosted, none]
  rw [signed]
  unfold sign
  split
  next credentials found =>
    have name : headerKey "Authorization" = Header.proofKey := by decide
    rw [found, Header.has_set, name, beq_self_eq_true, Bool.true_or, Option.isSome_some]
  next nothing =>
    rw [nothing, described, Option.isSome_none]

end Client

end Http

end ReviewGroups
