/-
Module: ReviewGroups.Proofs.SettingSources
Purpose: Which of its sources a client has each of its settings from: what it is given itself, the
  arguments of its settings, the environment, the variable file, or none of them. Loading merges the
  sources into one mapping before anything is checked; the statement is about sources, field by
  field, in order of rank, and says for each what it takes to count (`Counts`). Names are compared
  in lower case, which the names of fields are in already.
Trusted boundary: none
Main exports: Surroundings.IsArgument, Surroundings.IsVariable, Surroundings.IsInFile,
  Surroundings.Sourced, Surroundings.configure_sourced, ReviewClient.Layered,
  ReviewClient.new_of_configure
-/
import ReviewGroups.Proofs.CheckResult
import ReviewGroups.Proofs.FilterState
import ReviewGroups.Proofs.KeyedOrder
import ReviewGroups.Proofs.RequestPath
import ReviewGroups.Proofs.Result
import ReviewGroups.ReviewClient
import ReviewGroups.Settings.Load

namespace ReviewGroups

/-- Of entries that are made for names, one is found under each name that has a value. -/
theorem Value.entry?_filterMap {field : String} {value? : String → Option Value}
    {names : List String} :
    Value.entry? field
        (names.filterMap fun name => (value? name).map fun value => (.text name, value)) =
      if field ∈ names then value? field else none := by
  induction names with
  | nil => rfl
  | cons name names inductionHypothesis =>
      rw [List.filterMap_cons]
      by_cases same : name = field
      · subst same
        cases known : value? name with
        | none =>
            simp only [Option.map_none, inductionHypothesis, known]
            split <;> simp
        | some value => simp [Value.entry?]
      · have other : field ≠ name := fun equal => same equal.symm
        cases known : value? name with
        | none => simp [inductionHypothesis, other]
        | some value => simp [Value.entry?, same, other, inductionHypothesis]

namespace Surroundings

variable {surroundings : Surroundings} {arguments : Keyed Value} {field : String} {value : Value}

/-! ### The sources of a field -/

/-- Two names of variables are the same without regard to case. -/
def SameName (one other : String) : Prop :=
  Text.lower one = Text.lower other

/-- The name of the variable for a field, in some case. -/
def variableOf (field : String) : String :=
  "GERRIT_" ++ field

/-- An argument says what a field is; null says nothing. -/
def IsArgument (arguments : Keyed Value) (field : String) (value : Value) : Prop :=
  (field, value) ∈ arguments ∧ value ≠ .null

/-- The environment says what a field is, also by an empty text. -/
def IsVariable (surroundings : Surroundings) (field : String) (value : Value) : Prop :=
  ∃ name text, (name, text) ∈ surroundings.environment ∧ SameName name (variableOf field) ∧
    value = .text text

/-- The variable file says what a field is: the last binding for it there has a value, and this
one. -/
def IsInFile (surroundings : Surroundings) (field : String) (value : Value) : Prop :=
  ∃ file before name text after, surroundings.file = some file ∧
    DotEnv.values surroundings.environment file = before ++ (name, some text) :: after ∧
    SameName name (variableOf field) ∧
    (∀ later ∈ after, ¬ SameName later.1 (variableOf field)) ∧ value = .text text

/-- The sources of a field, the one that counts most first. -/
def sources (surroundings : Surroundings) (arguments : Keyed Value) (field : String) :
    List (Value → Prop) :=
  [IsArgument arguments field, surroundings.IsVariable field, surroundings.IsInFile field]

/-- The value that counts: the first source that says anything decides, and if none does there is no
value. -/
inductive Counts : List (Value → Prop) → Option Value → Prop where
  | here {source : Value → Prop} {others : List (Value → Prop)} {value : Value}
      (told : source value) : Counts (source :: others) (some value)
  | later {source : Value → Prop} {others : List (Value → Prop)} {found : Option Value}
      (silent : ∀ value, ¬ source value) (counts : Counts others found) :
      Counts (source :: others) found
  | nothing : Counts [] none

/-- What is made of the value that counts, if there is one: what it passes its check as. -/
inductive Passes {α : Type} (check : Value → Check α) : Option Value → Option α → Prop where
  | value {value : Value} {result : α} (passes : check value = .valid result) :
      Passes check (some value) (some result)
  | nothing : Passes check none none

/-- What the sources of a field come to, if any of them says anything. -/
def Sourced {α : Type} (check : Value → Check α) (surroundings : Surroundings)
    (arguments : Keyed Value) (field : String) (result : Option α) : Prop :=
  ∃ found, Counts (sources surroundings arguments field) found ∧ Passes check found result

/-- A value that counts is what some source says. -/
theorem Counts.exists_told {sources : List (Value → Prop)} (counts : Counts sources (some value)) :
    ∃ source ∈ sources, source value := by
  generalize whole : some value = found at counts
  induction counts with
  | here told =>
      cases whole
      exact ⟨_, List.mem_cons_self, told⟩
  | later silent counts inductionHypothesis =>
      obtain ⟨source, among, told⟩ := inductionHypothesis whole
      exact ⟨source, List.mem_cons_of_mem _ among, told⟩
  | nothing => cases whole

/-- A source says just what is found there. -/
def Tells (source : Value → Prop) (found : Option Value) : Prop :=
  ∀ value, source value ↔ found = some value

private theorem counts_of_tells {sources : List (Value → Prop)} {found : List (Option Value)}
    (tells : List.Forall₂ Tells sources found) : Counts sources (found.findSome? id) := by
  induction tells with
  | nil => exact .nothing
  | @cons source here sources found tells _ inductionHypothesis =>
      cases here with
      | none =>
          refine .later (fun value told => ?_) inductionHypothesis
          cases (tells value).1 told
      | some value => exact .here ((tells value).2 rfl)

/-! ### What is found in each source -/

/-- What the environment or a file is found to say of a field: the last entry of that name. -/
theorem find?_eq_some_iff {bindings : Keyed (Option String)} :
    Lookup.usual.find? bindings field = some value ↔
      ∃ before name text after, bindings = before ++ (name, some text) :: after ∧
        SameName name (variableOf field) ∧
        (∀ later ∈ after, ¬ SameName later.1 (variableOf field)) ∧ value = .text text := by
  have lowered : Lookup.usual.find? bindings field =
      (Keyed.lastValue? (Text.lower (variableOf field))
        (bindings.map fun pair => (Text.lower pair.1, pair.2))).join.map .text := by
    rw [← Keyed.get?_ofPairs]
    rfl
  rw [lowered]
  constructor
  · intro found
    obtain ⟨text, last, rfl⟩ := Option.map_eq_some_iff.1 found
    obtain ⟨before, name, after, whole, same, others⟩ :=
      Keyed.lastValue?_map_eq_some_iff.1 (Option.join_eq_some_iff.1 last)
    exact ⟨before, name, text, after, whole, same, others, rfl⟩
  · rintro ⟨before, name, text, after, whole, same, others, rfl⟩
    rw [Keyed.lastValue?_map_eq_some_iff.2 ⟨before, name, after, whole, same, others⟩]
    rfl

/-- The environment, in which no two names are the same. -/
theorem tells_isVariable
    (distinct : (surroundings.environment.map fun entry => Text.lower entry.1).Nodup) :
    Tells (surroundings.IsVariable field)
      (Lookup.usual.find? (surroundings.environment.map fun (name, text) => (name, some text))
        field) := by
  intro value
  rw [find?_eq_some_iff]
  constructor
  · rintro ⟨name, text, present, same, rfl⟩
    obtain ⟨before, after, whole⟩ := List.append_of_mem present
    refine ⟨before.map fun (name, text) => (name, some text), name, text,
      after.map fun (name, text) => (name, some text), by simp [whole], same, ?_, rfl⟩
    -- A later entry of the same name would be a second one.
    intro later afterwards again
    obtain ⟨entry, present, rfl⟩ := List.mem_map.1 afterwards
    rw [whole, List.map_append, List.map_cons] at distinct
    have unequal := (List.nodup_cons.1 (List.nodup_append.1 distinct).2.1).1
    exact unequal (List.mem_map.2 ⟨entry, present, again.trans same.symm⟩)
  · rintro ⟨before, name, text, after, whole, same, -, rfl⟩
    have present : (name, some text) ∈
        surroundings.environment.map fun (name, text) => (name, some text) := by
      rw [whole]
      simp
    obtain ⟨entry, there, equal⟩ := List.mem_map.1 present
    cases equal
    exact ⟨_, _, there, same, rfl⟩

/-- The variable file, if there is one. -/
theorem tells_isInFile {bindings : Keyed (Option String)}
    (read : surroundings.fileVariables Lookup.usual = .ok bindings) :
    Tells (surroundings.IsInFile field) (Lookup.usual.find? bindings field) := by
  intro value
  rw [find?_eq_some_iff]
  unfold fileVariables at read
  cases there : surroundings.file with
  | none =>
      rw [there] at read
      cases read
      simp [IsInFile, there]
  | some file =>
      rw [there] at read
      cases read
      constructor
      · rintro ⟨same, before, name, text, after, thereToo, whole, rest⟩
        obtain rfl : file = same := Option.some.inj (there.symm.trans thereToo)
        exact ⟨before, name, text, after, whole, rest⟩
      · rintro ⟨before, name, text, after, whole, rest⟩
        exact ⟨file, before, name, text, after, there, whole, rest⟩

/-- The arguments that settings are loaded with. -/
def passedOn (arguments : Keyed Value) : Keyed Value :=
  let (first, others) := arguments.partition fun entry => entry.1 ∈ leading
  (first ++ others).filter fun (_, value) => match value with | .null => false | _ => true

private theorem mem_passedOn_iff {entry : String × Value} :
    entry ∈ passedOn arguments ↔ IsArgument arguments entry.1 entry.2 := by
  obtain ⟨name, value⟩ := entry
  have shown : (match value with | .null => false | _ => true) = true ↔ value ≠ .null := by
    cases value <;> simp
  unfold passedOn IsArgument
  simp only [List.partition_eq_filter_filter, List.mem_filter, List.mem_append, shown]
  by_cases early : name ∈ leading <;> simp [early]

private theorem lower_of_mem_fields (known : field ∈ fields) : Text.lower field = field := by
  revert field
  decide

/-- The arguments, each of which names a field and stands once. -/
theorem tells_isArgument (named : ∀ entry ∈ arguments, entry.1 ∈ fields)
    (once : (Keyed.keys arguments).Nodup) :
    Tells (IsArgument arguments field)
      (Keyed.get? field
        ((passedOn arguments).map fun (name, value) => (Lookup.usual.key name, value))) := by
  have asWritten :
      (passedOn arguments).map (fun (name, value) => (Lookup.usual.key name, value)) =
        passedOn arguments := by
    conv_rhs => rw [← List.map_id (passedOn arguments)]
    refine List.map_congr_left fun entry present => Prod.ext ?_ rfl
    exact lower_of_mem_fields (named entry (mem_passedOn_iff.1 present).1)
  have onceToo : (Keyed.keys (passedOn arguments)).Nodup := by
    unfold passedOn Keyed.keys
    rw [List.partition_eq_filter_filter]
    refine List.Nodup.sublist (List.filter_sublist.map _) ?_
    exact ((List.filter_append_perm _ arguments).map Prod.fst).nodup_iff.2 once
  intro value
  rw [asWritten, Keyed.get?_eq_some_iff_mem onceToo, mem_passedOn_iff]

/-- Arguments that name fields change nothing about the lookup. -/
theorem ofArguments_of_named (named : ∀ entry ∈ arguments, entry.1 ∈ fields) :
    Lookup.ofArguments arguments = .ok Lookup.usual := by
  have unknown (name : String) (other : name ∉ fields) : Keyed.get? name arguments = none := by
    refine Keyed.get?_eq_none_of_not_mem fun present => ?_
    obtain ⟨entry, there, rfl⟩ := List.mem_map.1 present
    exact other (named entry there)
  unfold Lookup.ofArguments Lookup.change?
  rw [unknown "_env_file" (by decide), unknown "_env_prefix" (by decide),
    unknown "_case_sensitive" (by decide),
    unknown "_env_ignore_empty" (by decide),
    unknown "_env_parse_none_str" (by decide),
    unknown "_env_file_encoding" (by decide)]
  rfl

private theorem exists_fileVariables (surroundings : Surroundings) :
    ∃ bindings, surroundings.fileVariables Lookup.usual = .ok bindings := by
  unfold fileVariables
  cases surroundings.file <;> exact ⟨_, rfl⟩

/-! ### What is made of what is found -/

private theorem ne_null_of_mem_sources {source : Value → Prop}
    (among : source ∈ sources surroundings arguments field) (told : source value) :
    value ≠ .null := by
  simp only [sources, List.mem_cons, List.not_mem_nil, or_false] at among
  rcases among with rfl | rfl | rfl
  · exact told.2
  · obtain ⟨name, text, -, -, rfl⟩ := told
    exact Value.noConfusion
  · obtain ⟨file, before, name, text, after, -, -, -, -, rfl⟩ := told
    exact Value.noConfusion

section Fields

variable {α : Type} {check : Value → Check α} {default : α} {entries : Entries}

/-- The entries that settings are checked from have, for each field, the value that counts. -/
def IsGathered (surroundings : Surroundings) (arguments : Keyed Value) (entries : Entries) : Prop :=
  ∀ field ∈ fields,
    Counts (sources surroundings arguments field) (Value.entry? field entries)

/-- A field with a default has the default if no source says anything. -/
theorem IsGathered.sourced (gathered : IsGathered surroundings arguments entries)
    (known : field ∈ fields) {result : α}
    (passed : Check.field field default check entries = .valid result) :
    ∃ own, Sourced check surroundings arguments field own ∧ result = own.getD default := by
  have counts := gathered field known
  rw [Check.field_eq_valid_iff_entry] at passed
  rcases passed with ⟨value, there, passes⟩ | ⟨nowhere, rfl⟩
  · exact ⟨some result, ⟨_, counts, there ▸ .value passes⟩, rfl⟩
  · exact ⟨none, ⟨_, counts, nowhere ▸ .nothing⟩, rfl⟩

/-- An optional field is none if no source says anything. -/
theorem IsGathered.sourced_optional (gathered : IsGathered surroundings arguments entries)
    (known : field ∈ fields) {result : Option α}
    (passed : Check.optionalField field check entries = .valid result) :
    Sourced check surroundings arguments field result := by
  have counts := gathered field known
  rw [Check.optionalField, Check.field_eq_valid_iff_entry] at passed
  rcases passed with ⟨value, there, passes⟩ | ⟨nowhere, rfl⟩
  · rw [there] at counts
    obtain ⟨source, among, told⟩ := counts.exists_told
    obtain ⟨valid, itself, rfl⟩ :=
      (Check.optional_eq_valid_iff (ne_null_of_mem_sources among told)).1 passes
    exact ⟨_, counts, .value itself⟩
  · exact ⟨_, counts, nowhere ▸ .nothing⟩

/-- Settings by arguments are checked from the values that count. -/
theorem configure_eq (named : ∀ entry ∈ arguments, entry.1 ∈ fields)
    (once : (Keyed.keys arguments).Nodup)
    (distinct : (surroundings.environment.map fun entry => Text.lower entry.1).Nodup) :
    ∃ entries, IsGathered surroundings arguments entries ∧
      surroundings.configure arguments =
        Failure.ofCheck .settings (Settings.check (.dict entries)) := by
  obtain ⟨bindings, read⟩ := exists_fileVariables surroundings
  have namedToo : ∀ entry ∈ passedOn arguments, entry.1 ∈ fields := fun entry present =>
    named entry (mem_passedOn_iff.1 present).1
  let value? := surroundings.fieldValue? Lookup.usual bindings (passedOn arguments)
  refine ⟨fields.filterMap fun field => (value? field).map fun value => (.text field, value),
    ?_, ?_⟩
  · intro field known
    rw [Value.entry?_filterMap, if_pos known]
    have first : value? field = List.findSome? id
        [Keyed.get? field
            ((passedOn arguments).map fun (name, value) => (Lookup.usual.key name, value)),
          Lookup.usual.find? (surroundings.environment.map fun (name, text) => (name, some text))
            field,
          Lookup.usual.find? bindings field] := by
      simp only [value?, fieldValue?, lookup?, List.findSome?_cons, List.findSome?_nil, id]
      generalize Keyed.get? field _ = said
      generalize Lookup.usual.find? (surroundings.environment.map _) field = set
      generalize Lookup.usual.find? bindings field = written
      cases said <;> cases set <;> cases written <;> rfl
    rw [first]
    exact counts_of_tells (.cons (tells_isArgument named once)
      (.cons (tells_isVariable distinct) (.cons (tells_isInFile read) .nil)))
  · change surroundings.load (passedOn arguments) = _
    unfold load
    rw [ofArguments_of_named namedToo, Result.ok_bind, read]
    rfl

end Fields

/-- What the sources come to, field by field; a field of which no source says anything has none. -/
structure Stated where
  url : Option String
  username : Option String
  password : Option String
  timeout : Option Binary64

/-- Arguments, environment and variable file state the fields of settings. -/
structure States (surroundings : Surroundings) (arguments : Keyed Value) (stated : Stated) :
    Prop where
  url : Sourced Check.text surroundings arguments "url" stated.url
  username : Sourced Check.text surroundings arguments "username" stated.username
  password : Sourced Check.text surroundings arguments "password" stated.password
  timeout : Sourced Check.number surroundings arguments "timeout" stated.timeout

/-- Settings are what is stated, and where nothing is, a server on this machine, nobody in
particular and half a minute. -/
def Stated.settings (stated : Stated) : Settings :=
  { url := stated.url.getD "http://localhost:8080"
    username := stated.username
    password := stated.password
    timeout := stated.timeout.getD (Binary64.ofInt 30) }

/-- Settings by arguments are what is stated of them. -/
theorem configure_states {settings : Settings} (named : ∀ entry ∈ arguments, entry.1 ∈ fields)
    (once : (Keyed.keys arguments).Nodup)
    (distinct : (surroundings.environment.map fun entry => Text.lower entry.1).Nodup)
    (configured : surroundings.configure arguments = .ok settings) :
    ∃ stated, States surroundings arguments stated ∧ settings = stated.settings := by
  obtain ⟨entries, gathered, checked⟩ := configure_eq named once distinct
  rw [checked, Failure.ofCheck_eq_ok_iff] at configured
  simp only [Settings.check, Check.seq_eq_valid_iff, Check.map_eq_valid_iff] at configured
  obtain ⟨_, timeout, ⟨_, password, ⟨_, username, ⟨url, passedUrl, rfl⟩, passedUsername, rfl⟩,
    passedPassword, rfl⟩, passedTimeout, rfl⟩ := configured
  obtain ⟨ownUrl, sourcedUrl, rfl⟩ := gathered.sourced (by decide) passedUrl
  obtain ⟨ownTimeout, sourcedTimeout, rfl⟩ := gathered.sourced (by decide) passedTimeout
  exact ⟨⟨ownUrl, username, password, ownTimeout⟩,
    { url := sourcedUrl
      username := gathered.sourced_optional (by decide) passedUsername
      password := gathered.sourced_optional (by decide) passedPassword
      timeout := sourcedTimeout },
    rfl⟩

end Surroundings

/-! ### Clients over settings -/

namespace Text

private theorem exists_slashes (s : String) :
    ∃ slashes, s.toList = (dropTrailingSlashes s).toList ++ List.replicate slashes '/' := by
  let removed := (s.toList.reverse.takeWhile (· == '/')).reverse
  have onlySlashes : ∀ c ∈ removed, c = '/' := by
    intro c present
    have passed := List.mem_takeWhile_imp (List.mem_reverse.1 present)
    exact beq_iff_eq.1 passed
  refine ⟨removed.length, ?_⟩
  rw [← List.eq_replicate_of_mem onlySlashes, dropTrailingSlashes, dropTrailing,
    String.toList_ofList, ← List.reverse_append, List.takeWhile_append_dropWhile,
    List.reverse_reverse]

private theorem dropTrailingSlashes_of_getLast? {s : String}
    (noSlash : s.toList.getLast? ≠ some '/') :
    dropTrailingSlashes s = s := by
  have stops : s.toList.reverse.dropWhile (· == '/') = s.toList.reverse := by
    rw [← List.head?_reverse] at noSlash
    cases shape : s.toList.reverse with
    | nil => rfl
    | cons c rest =>
        rw [shape, List.head?_cons, ne_eq, Option.some.injEq] at noSlash
        simp [noSlash]
  rw [dropTrailingSlashes, dropTrailing, stops, List.reverse_reverse, String.ofList_toList]

end Text

namespace ReviewClient

open Surroundings

/-- What a client is made of: what it is given itself, and under that what is stated. -/
structure Layered (stated : Stated) (given : Arguments) (client : ReviewClient) : Prop where
  /-- An address of its own that is not empty counts, or else the address that is stated, in both
  cases without the slashes at its end. -/
  address : ∃ chosen slashes,
    (∀ own, given.baseUrl = some own → own ≠ "" → chosen = own) ∧
    (given.baseUrl = none ∨ given.baseUrl = some "" →
      chosen = stated.url.getD "http://localhost:8080") ∧
    chosen.toList = client.baseUrl.toList ++ List.replicate slashes '/' ∧
    client.baseUrl.toList.getLast? ≠ some '/'
  /-- A username, a password and a time to wait of its own count, whatever they are, or else those
  that are stated. -/
  http : ∃ timeout,
    (given.timeout ≠ .null → timeout = given.timeout) ∧
    (given.timeout = .null → timeout = .float (stated.timeout.getD (Binary64.ofInt 30))) ∧
    client.http = Http.Client.new client.baseUrl (given.username.or stated.username)
      (given.password.or stated.password) timeout given.headers
  /-- The connection is to the same address. -/
  sameAddress : client.http.baseUrl = client.baseUrl
  /-- The client says who asks exactly if there is a username and it is not empty. -/
  authenticated : client.http.isAuthenticated = true ↔
    ∃ username, given.username.or stated.username = some username ∧ username ≠ ""

private theorem http_new (given : Arguments) (settings : Settings) :
    (new given settings).http =
      Http.Client.new (new given settings).baseUrl (given.username.or settings.username)
        (given.password.or settings.password) (effectiveTimeout given.timeout settings)
        given.headers := by
  simp only [new, Option.orElse_eq_orElse, Option.orElse_eq_or]

/-- A client over settings that are stated. -/
theorem layered_new (stated : Stated) (given : Arguments) :
    Layered stated given (.new given stated.settings) := by
  constructor
  case address =>
    let chosen := (given.baseUrl.filter (!·.isEmpty)).getD stated.settings.url
    obtain ⟨slashes, whole⟩ := Text.exists_slashes chosen
    refine ⟨chosen, slashes, ?_, ?_, whole, Text.getLast?_dropTrailingSlashes chosen⟩
    · intro own isOwn notEmpty
      simp [chosen, isOwn, Option.filter, notEmpty]
    · rintro (none | empty)
      · simp [chosen, none, Stated.settings]
      · simp [chosen, empty, Option.filter, Stated.settings]
  case http =>
    refine ⟨effectiveTimeout given.timeout stated.settings, ?_, ?_, ?_⟩
    · intro notNull
      cases own : given.timeout with
      | null => exact absurd own notNull
      | _ => rfl
    · intro null
      rw [null]
      rfl
    · exact http_new given stated.settings
  case sameAddress =>
    exact Text.dropTrailingSlashes_of_getLast? (Text.getLast?_dropTrailingSlashes _)
  case authenticated =>
    have shown : (new given stated.settings).http.isAuthenticated =
        ((given.username.or stated.username).filter (!·.isEmpty)).isSome := by
      rw [http_new, Http.Client.isAuthenticated, Http.Client.new, Option.isSome_map]
      rfl
    rw [shown]
    cases given.username.or stated.username <;> simp [Option.filter]

/-- A client over settings by arguments has each of its settings from the first source that says
anything about it. -/
theorem new_of_configure {surroundings : Surroundings} {arguments : Keyed Value}
    {settings : Settings} (named : ∀ entry ∈ arguments, entry.1 ∈ Surroundings.fields)
    (once : (Keyed.keys arguments).Nodup)
    (distinct : (surroundings.environment.map fun entry => Text.lower entry.1).Nodup)
    (configured : surroundings.configure arguments = .ok settings) (given : Arguments) :
    ∃ stated, States surroundings arguments stated ∧
      Layered stated given (.new given settings) := by
  obtain ⟨stated, states, rfl⟩ := configure_states named once distinct configured
  exact ⟨stated, states, layered_new stated given⟩

/-- A client that is given an empty password and no username, over a timeout by argument, with an
address in the file and a username in the environment. -/
theorem new_of_configure_sample :
    let surroundings : Surroundings :=
      { environment := [("Gerrit_Username", "ann"), ("GERRIT_TIMEOUT", "12")]
        file := some "GERRIT_URL=http://host//\nGERRIT_USERNAME=ben\n" }
    let arguments : Keyed Value := [("timeout", .text "7"), ("url", .null)]
    let settings : Settings :=
      { url := "http://host//"
        username := some "ann"
        password := none
        timeout := Binary64.ofInt 7 }
    let given : Arguments :=
      { baseUrl := some "", username := none, password := some "", timeout := .null, headers := [] }
    surroundings.configure arguments = .ok settings ∧
      ∃ stated, States surroundings arguments stated ∧
        Layered stated given (.new given settings) := by
  intro surroundings arguments settings given
  have configured : surroundings.configure arguments = .ok settings :=
    Result.eq_ok_of_toOption (by decide +kernel)
  exact ⟨configured, new_of_configure (by decide) (by decide) (by decide) configured given⟩

end ReviewClient

end ReviewGroups
