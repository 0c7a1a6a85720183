/-
Module: ReviewGroups.Proofs.HeaderPrecedence
Purpose: Which of the headers that the client, the call and the library ask for is sent under a
  name: names that differ in case are two when headers are merged, and one when they are sent.
  `winner?` tells for a name what a reader of the merging rules expects, `CarriesOnce` what the
  request shows; they agree exactly if all spellings of the name that are in use agree. Headers that
  the library adds by itself are modelled as far as anything here depends on them.
Trusted boundary: none
Main exports: Header.named, Header.named_describeBody, Client.ranked, Client.CarriesOnce,
  Client.header_precedence_iff
-/
import ReviewGroups.Proofs.Authorization
import ReviewGroups.Proofs.KeyedOrder

namespace ReviewGroups

namespace Http

open Url

namespace Header

/-- The headers of a name. -/
def named (key : String) (headers : List Header) : List Header :=
  headers.filter fun header => headerKey header.1 == key

variable {key : String} {headers : List Header}

private theorem named_default_of_has (known : has key headers = true) (name value : String) :
    named key (default name value headers) = named key headers := by
  unfold default
  split
  next => rfl
  next unknown =>
    have other : headerKey name ≠ key := by
      rintro rfl
      exact unknown known
    simp [named, other]

/-- A header is not set under another name. -/
theorem named_set_of_ne {name : String} (other : headerKey name ≠ key) (value : String)
    (headers : List Header) : named key (set name value headers) = named key headers := by
  induction headers with
  | nil => simp [named, set, has, other]
  | cons header headers inductionHypothesis =>
      by_cases hit : headerKey header.1 = headerKey name
      · have dropped : named key (drop (headerKey name) headers) = named key headers := by
          unfold named drop
          rw [List.filter_filter]
          apply List.filter_congr
          intro later _
          by_cases same : headerKey later.1 = key
          · simp [same, other.symm]
          · simp [same]
        have front : headerKey header.1 ≠ key := hit ▸ other
        have whole : set name value (header :: headers) =
            (name, value) :: drop (headerKey name) headers := by
          simp [set, has, hit]
        rw [whole]
        simp only [named] at dropped ⊢
        rw [List.filter_cons_of_neg (by simpa using other),
          List.filter_cons_of_neg (by simpa using front), dropped]
      · rw [set_cons_of_ne name value headers hit]
        simp only [named, List.filter_cons] at inductionHypothesis ⊢
        rw [inductionHypothesis]

/-- A body that is described adds nothing to headers that are there. -/
theorem named_describeBody (known : has key headers = true) (method : String)
    (body : Option String) : named key (describeBody method body headers) = named key headers := by
  unfold describeBody
  split
  next text =>
    have later : has key (default "Content-Length"
        (toString (Text.Utf8.encode text.toList).length) headers) = true := by
      rw [has_default, known, Bool.or_true]
    dsimp only
    rw [named_default_of_has later, named_default_of_has known]
  next =>
    split
    next announced =>
      have other : headerKey "Content-Length" ≠ key := by
        intro same
        rw [show headerKey "Content-Length" = "content-length" by decide] at same
        rw [same, known] at announced
        simp at announced
      exact List.filter_cons_of_neg (by simpa using other)
    next => rfl

/-- The name of the host adds nothing to headers that are there. -/
theorem named_of_nameHost {address : Address} {hosted : List Header}
    (known : has key headers = true) (hosting : nameHost address headers = .ok hosted) :
    named key hosted = named key headers ∧ has key hosted = true := by
  unfold nameHost at hosting
  split at hosting
  next =>
    cases hosting
    exact ⟨rfl, known⟩
  next hostless =>
    split at hosting
    next => cases hosting
    next =>
      cases hosting
      split
      next => exact ⟨rfl, known⟩
      next =>
        have other : headerKey "Host" ≠ key := by
          intro same
          rw [show headerKey "Host" = "host" by decide] at same
          rw [same] at hostless
          exact hostless known
        refine ⟨List.filter_cons_of_neg (by simpa using other), ?_⟩
        rw [has, List.any_cons]
        exact Bool.or_eq_true_iff.2 (.inr known)

end Header

private theorem named_of_checkHeaders {entries : Keyed Value} {headers : List Header} (key : String)
    (checked : checkHeaders entries = .ok headers) :
    List.Forall₂ (fun entry header => header.1 = entry.1 ∧ entry.2.text? = some header.2)
      (entries.filter fun entry => headerKey entry.1 == key) (Header.named key headers) := by
  refine List.rel_filter ?_ (forall₂_of_checkHeaders checked)
  rintro entry header ⟨same, -⟩
  simp [same]

/-- A request carries one header of a name, with the value. -/
def Request.CarriesOnce (request : Request) (key : String) (value : Value) : Prop :=
  ∃ name text, value.text? = some text ∧ Header.named key request.headers = [(name, text)]

namespace Client

variable {client : Client} {intent : Intent} {request : Request} {key : String}
  {entry : String × Value}

/-- The headers that are asked for in the order of their rank: those of the call, those of the
client, and the one that every request is to have. -/
def ranked (client : Client) (intent : Intent) : Keyed Value :=
  intent.headers ++ (client.headers ++ [("Accept", .text "application/json")])

/-- The header of a name that has the highest rank. -/
def winner? (client : Client) (intent : Intent) (key : String) : Option (String × Value) :=
  (client.ranked intent).find? fun entry => headerKey entry.1 == key

private theorem of_winner? (wins : client.winner? intent key = some entry) :
    entry ∈ client.ranked intent ∧ headerKey entry.1 = key := by
  have hit := List.find?_some wins
  exact ⟨List.mem_of_find?_eq_some wins, beq_iff_eq.1 hit⟩

/-- A name is among those of the merged headers exactly if it is asked for. -/
theorem mem_keys_buildHeaders {name : String} :
    name ∈ (client.buildHeaders intent.headers).keys ↔ name ∈ (client.ranked intent).keys := by
  unfold buildHeaders ranked
  rw [Keyed.mem_keys_update, Keyed.mem_keys_update]
  simp only [Keyed.keys, List.map_append, List.mem_append]
  tauto

/-- No name stands twice among the merged headers, letter by letter. -/
theorem nodup_keys_buildHeaders (client : Client) (extra : Keyed Value) :
    (client.buildHeaders extra).keys.Nodup := by
  have first : (Keyed.keys [("Accept", Value.text "application/json")]).Nodup :=
    List.nodup_singleton "Accept"
  exact Keyed.nodup_keys_update (Keyed.nodup_keys_update first client.headers) extra

/-- A name has the value of the highest rank among the merged headers, letter by letter. -/
theorem get?_buildHeaders (ownDistinct : client.headers.keys.Nodup)
    (callDistinct : intent.headers.keys.Nodup) (name : String) :
    Keyed.get? name (client.buildHeaders intent.headers) =
      Keyed.get? name (client.ranked intent) := by
  unfold buildHeaders ranked
  rw [Keyed.get?_update name _ callDistinct, Keyed.get?_update name _ ownDistinct,
    Keyed.get?_append, Keyed.get?_append]

private theorem get?_of_winner? (wins : client.winner? intent key = some entry) :
    Keyed.get? entry.1 (client.ranked intent) = some entry.2 := by
  obtain ⟨hit, before, after, whole, others⟩ := List.find?_eq_some_iff_append.1 wins
  have unknown : entry.1 ∉ Keyed.keys before := by
    intro known
    obtain ⟨earlier, present, same⟩ := List.mem_map.1 known
    have other := others earlier present
    rw [same, hit] at other
    cases other
  rw [whole, Keyed.get?_append, Keyed.get?_eq_none_of_not_mem unknown]
  simp [Keyed.get?]

/-- Where a name is spelled in one way only, the header of the highest rank is the only one of its
name among the merged headers. -/
theorem filter_buildHeaders (ownDistinct : client.headers.keys.Nodup)
    (callDistinct : intent.headers.keys.Nodup)
    (wins : client.winner? intent key = some entry)
    (uniform : ∀ other ∈ client.ranked intent, headerKey other.1 = key → other.1 = entry.1) :
    (client.buildHeaders intent.headers).filter (fun entry => headerKey entry.1 == key) =
      [entry] := by
  have distinct := nodup_keys_buildHeaders client intent.headers
  have found : Keyed.get? entry.1 (client.buildHeaders intent.headers) = some entry.2 := by
    rw [get?_buildHeaders ownDistinct callDistinct, get?_of_winner? wins]
  obtain ⟨-, hit⟩ := of_winner? wins
  have only : ∀ other, other ∈ (client.buildHeaders intent.headers).filter
      (fun entry => headerKey entry.1 == key) ↔ other ∈ [entry] := by
    intro other
    rw [List.mem_filter, List.mem_singleton]
    constructor
    · rintro ⟨present, hitToo⟩
      obtain ⟨asked, there, same⟩ := List.mem_map.1 (mem_keys_buildHeaders.1
        (List.mem_map.2 ⟨other, present, rfl⟩))
      have spelled : other.1 = entry.1 := by
        rw [← same]
        exact uniform asked there (by rw [same]; exact beq_iff_eq.1 hitToo)
      have value := Keyed.get?_of_mem distinct present
      rw [spelled, found] at value
      exact Prod.ext spelled (Option.some.inj value).symm
    · rintro rfl
      exact ⟨Keyed.mem_of_get? found, beq_iff_eq.2 hit⟩
  have apart : ((client.buildHeaders intent.headers).filter
      fun entry => headerKey entry.1 == key).Nodup := (List.Nodup.of_map _ distinct).filter _
  exact List.perm_singleton.1 ((List.perm_ext_iff_of_nodup apart (List.nodup_singleton _)).2 only)

/-- The headers of a name that a request carries are those that are asked for, unless it is the name
of the header that proves who asks. -/
theorem named_of_heads (heads : client.Heads intent request) (other : key ≠ Header.proofKey)
    (asked : ∃ name ∈ (client.ranked intent).keys, headerKey name = key) :
    List.Forall₂ (fun entry header => header.1 = entry.1 ∧ entry.2.text? = some header.2)
      ((client.buildHeaders intent.headers).filter fun entry => headerKey entry.1 == key)
      (Header.named key request.headers) := by
  obtain ⟨checked, named, body, isChecked, hosted, -, signed⟩ := heads.headers
  have known : Header.has key checked = true := by
    obtain ⟨name, present, same⟩ := asked
    rw [has_of_checkHeaders isChecked, List.any_eq_true]
    exact ⟨name, mem_keys_buildHeaders.2 present, beq_iff_eq.2 same⟩
  obtain ⟨sameHosted, knownToo⟩ := Header.named_of_nameHost known hosted
  have unsigned : ∀ headers, Header.named key (client.sign request.address headers) =
      Header.named key headers := by
    intro headers
    unfold sign
    split
    next =>
      have name : headerKey "Authorization" = Header.proofKey := by decide
      exact Header.named_set_of_ne (by rw [name]; exact other.symm) _ headers
    next => rfl
  rw [signed, unsigned, Header.named_describeBody knownToo, sameHosted]
  exact named_of_checkHeaders key isChecked

/-- The header of the highest rank is sent, and no other of its name, exactly if its name is spelled
in the same way wherever it is asked for. -/
theorem header_precedence_iff (ownDistinct : (client.headers.keys.map headerKey).Nodup)
    (callDistinct : (intent.headers.keys.map headerKey).Nodup) {network : Network} {wire : Wire}
    {first : Request} {more : List Request}
    (sent : (send client intent network wire).2.requests = wire.requests ++ first :: more)
    (other : key ≠ Header.proofKey)
    (wins : client.winner? intent key = some entry) :
    first.CarriesOnce key entry.2 ↔
      ∀ another ∈ client.ranked intent, headerKey another.1 = key → another.1 = entry.1 := by
  obtain ⟨base, -, made⟩ := send_startsWith client intent network wire first more sent
  obtain ⟨-, heads⟩ := request_eq_ok_iff.1 made
  obtain ⟨present, hit⟩ := of_winner? wins
  have paired := named_of_heads heads other
    ⟨entry.1, List.mem_map.2 ⟨entry, present, rfl⟩, hit⟩
  constructor
  · rintro ⟨name, text, -, once⟩
    rw [once] at paired
    obtain ⟨single, whole⟩ := List.length_eq_one_iff.1 paired.length_eq
    -- Every spelling that is asked for is among the merged headers, of which one is left.
    have spelled : ∀ another ∈ client.ranked intent, headerKey another.1 = key →
        another.1 = single.1 := by
      intro another there same
      obtain ⟨kept, merged, spelling⟩ := List.mem_map.1 (mem_keys_buildHeaders.2
        (List.mem_map.2 ⟨another, there, rfl⟩))
      have among : kept ∈ [single] := by
        rw [← whole, List.mem_filter]
        exact ⟨merged, beq_iff_eq.2 (by rw [spelling]; exact same)⟩
      rw [← spelling, List.mem_singleton.1 among]
    intro another there same
    rw [spelled another there same, spelled entry present hit]
  · intro uniform
    have ownSpelled : client.headers.keys.Nodup := List.Nodup.of_map _ ownDistinct
    have callSpelled : intent.headers.keys.Nodup := List.Nodup.of_map _ callDistinct
    rw [filter_buildHeaders ownSpelled callSpelled wins uniform] at paired
    obtain ⟨name, text⟩ := entry
    unfold Request.CarriesOnce
    generalize Header.named key first.headers = carried at paired
    obtain _ | @⟨_, header, _, _, ⟨-, found⟩, _ | _⟩ := paired
    exact ⟨header.1, header.2, found, rfl⟩

/-! ### Samples -/

open Rest.Operation (silence)

/-- A client with a header of its own. -/
def taggedClient : Client :=
  Client.new "http://gerrit.test" none none (.int 30) [("X-Tag", .text "1")]

/-- A fetch of all groups with a header of its own. -/
def taggedIntent (name : String) : Intent :=
  { sampleIntent with headers := [(name, .text "2")] }

/-- A call that spells the name of a header as the client does replaces it. -/
theorem header_precedence_same_case :
    (taggedClient.headers.keys.map headerKey).Nodup ∧
      ((taggedIntent "X-Tag").headers.keys.map headerKey).Nodup ∧ "x-tag" ≠ Header.proofKey ∧
      taggedClient.winner? (taggedIntent "X-Tag") "x-tag" = some ("X-Tag", .text "2") ∧
      ∃ first, (send taggedClient (taggedIntent "X-Tag") silence .fresh).2.requests = [first] ∧
        first.CarriesOnce "x-tag" (.text "2") := by
  have sentOne :
      (send taggedClient (taggedIntent "X-Tag") silence .fresh).2.requests.length = 1 := by
    decide +kernel
  obtain ⟨first, sent⟩ := List.length_eq_one_iff.1 sentOne
  have wins : taggedClient.winner? (taggedIntent "X-Tag") "x-tag" = some ("X-Tag", .text "2") := rfl
  have precedence := header_precedence_iff (by decide) (by decide) sent (by decide) wins
  refine ⟨by decide, by decide, by decide, wins, first, sent, precedence.2 ?_⟩
  decide

/-- A call that spells the name in another case does not: both headers are sent. -/
theorem header_sent_twice :
    (taggedClient.headers.keys.map headerKey).Nodup ∧
      ((taggedIntent "x-tag").headers.keys.map headerKey).Nodup ∧ "x-tag" ≠ Header.proofKey ∧
      taggedClient.winner? (taggedIntent "x-tag") "x-tag" = some ("x-tag", .text "2") ∧
      ∃ first, (send taggedClient (taggedIntent "x-tag") silence .fresh).2.requests = [first] ∧
        Header.named "x-tag" first.headers = [("X-Tag", "1"), ("x-tag", "2")] ∧
        ¬ first.CarriesOnce "x-tag" (.text "2") := by
  have carried : ((send taggedClient (taggedIntent "x-tag") silence .fresh).2.requests.map
      fun request => Header.named "x-tag" request.headers) =
        [[("X-Tag", "1"), ("x-tag", "2")]] := by
    decide +kernel
  obtain ⟨first, sent, both⟩ := List.map_eq_singleton_iff.1 carried
  refine ⟨by decide, by decide, by decide, rfl, first, sent, both, ?_⟩
  rintro ⟨name, text, -, once⟩
  rw [both] at once
  cases once

end Client

end Http

end ReviewGroups
