/-
Module: ReviewGroups.Proofs.RequestOutline
Purpose: The outline of a request tells which operation it is sent for, with which identifier and
  with which arguments. An outline is method, path, parameters and text of the body, and leaves out
  all that depends on the client. Paths are taken apart into identifier and resource, bodies are
  parsed, and both determine the command; what is not told apart is an empty description and none,
  which are the same deletion.
Trusted boundary: none
Main exports: Http.Outline, Client.outline, Command.readBack, Command.readBack_of_requestBody,
  Command.outline_eq_iff, Operation.first_requests_tell_commands
-/
import ReviewGroups.Proofs.Command
import ReviewGroups.Proofs.FilterRequest

namespace ReviewGroups

namespace Http

open Url

/-- What a client makes of what is asked for, before it becomes a request: the method in upper case,
the path that is appended to the base address, the values of each query parameter and the text of
the body. -/
structure Outline where
  method : String
  path : String
  parameters : Option (Keyed (List String))
  body : Option String
deriving Repr, Inhabited, DecidableEq

/-- The outline of the request for an intent. -/
def Client.outline (client : Client) (intent : Intent) : Except Misuse Outline := do
  let method ← upperMethod intent.method
  let parameters ← Parameter.gather intent.givenParameters
  let body ← intent.body.requestBody
  pure
    { method := method
      path := client.buildPath intent.path
      parameters := parameters
      body := body.map (Json.render compact) }

/-- A request is what becomes of an outline below a base address. -/
structure Outline.Becomes (outline : Outline) (base : Address) (request : Request) : Prop where
  address : ∃ reference appended, Address.parse outline.path = .ok reference ∧
    base.append reference = .ok appended ∧
    withParameters appended outline.parameters = .ok request.address
  method : request.method = outline.method
  body : request.body = outline.body.getD ""

/-- The request that a client makes becomes of its outline. -/
theorem Client.outline_of_makes {client : Client} {base : Address} {intent : Intent}
    {request : Request} (makes : client.Makes base intent request) :
    ∃ outline, client.outline intent = .ok outline ∧ outline.Becomes base request := by
  obtain ⟨reference, appended, parameters, read, append, gathered, replaced⟩ := makes.address
  obtain ⟨body, isBody, written⟩ := makes.body
  refine ⟨_, Result.bind_eq_ok_iff.2 ⟨_, makes.method, Result.bind_eq_ok_iff.2 ⟨_, gathered,
    Result.bind_eq_ok_iff.2 ⟨_, isBody, rfl⟩⟩⟩, ?_⟩
  exact ⟨⟨reference, appended, read, append, replaced⟩, rfl, written⟩

/-- A client goes to different paths for different paths that start with a slash. -/
theorem Client.buildPath_injective {client : Client} {path other : String}
    (starts : path.toList.head? = some '/') (otherStarts : other.toList.head? = some '/')
    (same : client.buildPath path = client.buildPath other) : path = other := by
  rw [Client.buildPath_of_rooted starts, Client.buildPath_of_rooted otherStarts] at same
  split at same
  · simpa using same
  · exact same

end Http

namespace Rest

open Http Url

/-! ### Paths -/

namespace Task

variable {task other : Task} {id otherId : String}

private theorem path_append_slash (identified : task.identifier? = some id) :
    task.path.toList ++ ['/'] =
      "/groups/".toList ++ ((encodeIdentifier id).toList ++
        '/' :: task.parts.flatMap fun part => part.toList ++ ['/']) := by
  unfold path
  rw [identified]
  cases task <;> simp [groupPath, parts]

/-- What stands behind the group tells the resource. -/
theorem parts_of_flatMap (same : (task.parts.flatMap fun part => part.toList ++ ['/']) =
    other.parts.flatMap fun part => part.toList ++ ['/']) : task.parts = other.parts := by
  have few (task : Task) : task.parts = [] ∨ ∃ part, task.parts = [part] := by
    cases task <;> simp [parts]
  rcases few task with none | ⟨part, single⟩ <;>
    rcases few other with otherNone | ⟨otherPart, otherSingle⟩
  · rw [none, otherNone]
  · rw [none, otherSingle] at same
    simp at same
  · rw [single, otherNone] at same
    simp at same
  · rw [single, otherSingle] at same ⊢
    simp only [List.flatMap_cons, List.flatMap_nil, List.append_nil] at same
    rw [String.toList_injective (List.append_cancel_right same)]

/-- The path of a task for a group tells the group and the resource. -/
theorem eq_of_path (identified : task.identifier? = some id)
    (otherIdentified : other.identifier? = some otherId) (same : task.path = other.path) :
    id = otherId ∧ task.parts = other.parts := by
  have whole := path_append_slash identified
  rw [same, path_append_slash otherIdentified] at whole
  -- There is no slash in an escaped identifier, so the first one ends it.
  have cut := congrArg (Text.cutAt '/') (List.append_cancel_left whole)
  rw [Text.cutAt_append (slash_not_mem_encodeIdentifier otherId),
    Text.cutAt_append (slash_not_mem_encodeIdentifier id)] at cut
  obtain ⟨segment, behind⟩ := Prod.mk.inj (Option.some.inj cut)
  refine ⟨?_, parts_of_flatMap behind.symm⟩
  apply String.toList_injective
  rw [← decode_encodeIdentifier id, ← segment, decode_encodeIdentifier]

private theorem path_ne_collectionPath (identified : task.identifier? = some id) (some : id ≠ "") :
    task.path ≠ collectionPath := by
  intro same
  have whole := path_append_slash identified
  rw [same] at whole
  have behind : ['/'] = (encodeIdentifier id).toList ++
      '/' :: task.parts.flatMap fun part => part.toList ++ ['/'] := List.append_cancel_left whole
  obtain ⟨c, more, written⟩ := List.exists_cons_of_ne_nil (toList_encodeIdentifier_ne_nil some)
  rw [written, List.cons_append] at behind
  exact absurd (List.cons.inj behind).2 (by simp)

/-- The outline of the request for a task consists of its parts. -/
theorem parts_of_outline {client : Client} {outline : Outline}
    (made : client.outline task.intent = .ok outline) :
    ∃ parameters body, Parameter.gather task.intent.givenParameters = .ok parameters ∧
      task.body.requestBody = .ok body ∧
      outline = ⟨task.method.name, client.buildPath task.path, parameters,
        body.map (Json.render compact)⟩ := by
  obtain ⟨method, isMethod, made⟩ := Result.bind_eq_ok_iff.1 made
  obtain ⟨parameters, gathered, made⟩ := Result.bind_eq_ok_iff.1 made
  obtain ⟨body, isBody, made⟩ := Result.bind_eq_ok_iff.1 made
  cases made
  cases isMethod.symm.trans task.method.upperMethod_name
  exact ⟨parameters, body, gathered, isBody, rfl⟩

private theorem head?_path (task : Task) : task.path.toList.head? = Option.some '/' := by
  unfold path
  split
  · rfl
  · unfold groupPath
    split <;> simp

end Task

/-! ### Reading a command back -/

namespace Command

open Json

variable {client : Client} {command other : Command} {parameters : Option (Keyed (List String))}
  {body : Option Json} {outline otherOutline : Outline}

/-- The command that the parts of a request belong to. -/
def readBack (method : Method) (parts : List String) (id : String)
    (parameters : Option (Keyed (List String))) (body : Option Json) : Option Command :=
  match method, parts with
  | .get, [] => some (.resolve id)
  | .put, [] => body.map fun body => .create (.ofBody body)
  | .get, ["detail"] => some (.getDetail id)
  | .get, ["name"] => some (.getName id)
  | .put, ["name"] => (body.bind (textAt? "name")).map (.putName id)
  | .get, ["description"] => some (.getDescription id)
  | .put, ["description"] => body.map fun body => .putDescription id (body.textAt? "description")
  | .delete, ["description"] => some (.putDescription id none)
  | .get, ["owner"] => some (.getOwner id)
  | .put, ["owner"] => (body.bind (textAt? "owner")).map (.putOwner id)
  | .get, ["options"] => some (.getOptions id)
  | .put, ["options"] => body.map fun body => .putOptions id ⟨body.truthAt? "visible_to_all"⟩
  | .get, ["members/"] => some (.listMembers id parameters.isSome)
  | .post, ["members.add"] => (body.bind (textsAt? "members")).map (.addMembers id)
  | .post, ["members.delete"] => (body.bind (textsAt? "members")).map (.removeMembers id)
  | .get, ["groups/"] => some (.listIncludedGroups id)
  | .post, ["groups.add"] => (body.bind (textsAt? "groups")).map (.addIncludedGroups id)
  | .post, ["groups.delete"] => (body.bind (textsAt? "groups")).map (.removeIncludedGroups id)
  | .post, ["index"] => some (.index id)
  | _, _ => none

private theorem eq_some_of_requestBody {record : Record}
    (isBody : (Value.record record).requestBody = .ok body) : body = some record.body := by
  unfold Value.requestBody at isBody
  dsimp only at isBody
  split_ifs at isBody
  cases isBody
  rfl

/-- A command is read back from the parts of its request. -/
theorem readBack_of_requestBody
    (gathered : Parameter.gather command.task.intent.givenParameters = .ok parameters)
    (isBody : command.task.body.requestBody = .ok body) :
    readBack command.task.method command.task.parts command.identifier parameters body =
      some command.settled := by
  cases command
  case create input =>
      cases eq_some_of_requestBody isBody
      exact congrArg (fun input => some (create input)) input.ofBody_body
  case putName id name =>
      cases eq_some_of_requestBody isBody
      exact congrArg (Option.map (putName id)) (textAt?_nameInput ⟨name⟩)
  case putDescription id description =>
      change (Task.describing id (description.filter _)).body.requestBody = _ at isBody
      change readBack (Task.describing id (description.filter _)).method
        (Task.describing id (description.filter _)).parts id parameters body =
          some (putDescription id (description.filter _))
      cases given : description.filter fun s => !s.isEmpty with
      | none => rfl
      | some description =>
          rw [given] at isBody
          cases eq_some_of_requestBody isBody
          exact congrArg (fun description => some (putDescription id description))
            (textAt?_descriptionInput ⟨some description⟩)
  case putOwner id owner =>
      cases eq_some_of_requestBody isBody
      exact congrArg (Option.map (putOwner id)) (textAt?_ownerInput ⟨owner⟩)
  case putOptions id options =>
      cases eq_some_of_requestBody isBody
      exact congrArg (fun visible => some (putOptions id ⟨visible⟩))
        (truthAt?_groupOptionsInput options)
  case listMembers id recursive =>
      cases recursive <;> cases gathered <;> rfl
  case addMembers id members =>
      cases eq_some_of_requestBody isBody
      exact congrArg (Option.map (addMembers id)) (textsAt?_membersInput ⟨members⟩)
  case removeMembers id members =>
      cases eq_some_of_requestBody isBody
      exact congrArg (Option.map (removeMembers id)) (textsAt?_membersInput ⟨members⟩)
  case addIncludedGroups id groups =>
      cases eq_some_of_requestBody isBody
      exact congrArg (Option.map (addIncludedGroups id)) (textsAt?_groupsInput ⟨groups⟩)
  case removeIncludedGroups id groups =>
      cases eq_some_of_requestBody isBody
      exact congrArg (Option.map (removeIncludedGroups id)) (textsAt?_groupsInput ⟨groups⟩)
  all_goals rfl

private theorem isExact_of_requestBody (isBody : command.task.body.requestBody = .ok body) :
    ∀ value ∈ body, value.IsExact := by
  intro value present
  rcases command.body_task with none | ⟨record, some, input⟩
  · rw [none] at isBody
    cases isBody
    cases present
  · rw [some] at isBody
    cases eq_some_of_requestBody isBody
    cases present
    exact input.isExact_body

private theorem eq_of_map_render {otherBody : Option Json} (exact : ∀ value ∈ body, value.IsExact)
    (otherExact : ∀ value ∈ otherBody, value.IsExact)
    (same : body.map (render compact) = otherBody.map (render compact)) : body = otherBody := by
  cases body with
  | none => exact (Option.map_eq_none_iff.1 same.symm).symm
  | some value =>
      obtain ⟨otherValue, rfl, text⟩ := Option.map_eq_some_iff.1 same.symm
      exact congrArg some
        (render_injective compact_isPlain (exact value rfl) (otherExact otherValue rfl) text.symm)

/-- The outlines of two commands are the same exactly if the commands are, where an empty
description is none. -/
theorem outline_eq_iff (made : client.outline command.task.intent = .ok outline)
    (otherMade : client.outline other.task.intent = .ok otherOutline) :
    outline = otherOutline ↔ command.settled = other.settled := by
  constructor
  · rintro rfl
    obtain ⟨parameters, body, gathered, isBody, whole⟩ := command.task.parts_of_outline made
    obtain ⟨otherParameters, otherBody, otherGathered, otherIsBody, rfl⟩ :=
      other.task.parts_of_outline otherMade
    obtain ⟨sameMethod, samePath, rfl, sameText⟩ := Outline.mk.inj whole
    obtain ⟨sameId, sameParts⟩ := Task.eq_of_path command.identifier?_task other.identifier?_task
      (Client.buildPath_injective (Task.head?_path _) (Task.head?_path _) samePath.symm)
    have sameBody : otherBody = body := eq_of_map_render (isExact_of_requestBody otherIsBody)
      (isExact_of_requestBody isBody) sameText
    -- All parts are the same, and both commands are read back from them.
    have read := readBack_of_requestBody gathered isBody
    have otherRead := readBack_of_requestBody otherGathered otherIsBody
    rw [Method.name_injective sameMethod.symm, sameId, sameParts, ← sameBody,
      otherRead] at read
    exact (Option.some.inj read).symm
  · intro same
    rw [← command.task_settled, same, other.task_settled] at made
    exact Except.ok.inj (made.symm.trans otherMade)

end Command

/-! ### What is sent -/

namespace Operation

/-- The outline of the request of an operation. -/
def outline (client : Client) (operation : Operation) : Except Failure Outline := do
  let task ← operation.task
  Failure.ofMisuse (client.outline task.intent)

variable {client : Client} {operation other : Operation} {command otherCommand : Command}

/-- What an operation sends first becomes of its outline. -/
theorem exists_outline_of_sent {network : Network} {wire : Wire} {first : Request}
    {more : List Request}
    (sent : (operation.run client network wire).2.requests = wire.requests ++ first :: more) :
    ∃ base outline, client.base = .ok base ∧ operation.outline client = .ok outline ∧
      outline.Becomes base first := by
  obtain ⟨task, made, base, isBase, asked⟩ :=
    operation.run_startsWith client network wire first more sent
  obtain ⟨outline, outlined, becomes⟩ := Client.outline_of_makes (Client.makes_of_request asked)
  refine ⟨base, outline, isBase, Result.bind_eq_ok_iff.2 ⟨task, made, ?_⟩, becomes⟩
  rw [outlined]
  rfl

/-- The outline of an operation is that of its command. -/
theorem outline_of_command? {outline : Outline} (told : operation.command? = some command)
    (outlined : operation.outline client = .ok outline) :
    client.outline command.task.intent = .ok outline := by
  obtain ⟨task, made, outlined⟩ := Result.bind_eq_ok_iff.1 outlined
  rw [← intent_of_command? told made]
  exact eq_ok_of_ofMisuse outlined

/-- Where two operations on a single group send something, what they send first has the same outline
exactly if they are told the same, where an empty description is none; and if the identifier is not
empty, no listing and no query has that outline. -/
theorem first_requests_tell_commands (told : operation.command? = some command)
    (otherTold : other.command? = some otherCommand) {network otherNetwork : Network}
    {wire otherWire : Wire} {first otherFirst : Request} {more otherMore : List Request}
    (sent : (operation.run client network wire).2.requests = wire.requests ++ first :: more)
    (otherSent : (other.run client otherNetwork otherWire).2.requests =
      otherWire.requests ++ otherFirst :: otherMore) :
    ∃ base outline otherOutline, client.base = .ok base ∧
      operation.outline client = .ok outline ∧ outline.Becomes base first ∧
      other.outline client = .ok otherOutline ∧ otherOutline.Becomes base otherFirst ∧
      (outline = otherOutline ↔ command.settled = otherCommand.settled) ∧
      (command.identifier ≠ "" →
        ∀ search : Search, client.outline search.task.intent ≠ .ok outline) := by
  obtain ⟨base, outline, isBase, outlined, becomes⟩ := exists_outline_of_sent sent
  obtain ⟨otherBase, otherOutline, otherIsBase, otherOutlined, otherBecomes⟩ :=
    exists_outline_of_sent otherSent
  cases isBase.symm.trans otherIsBase
  have made := outline_of_command? told outlined
  refine ⟨base, outline, otherOutline, isBase, outlined, becomes, otherOutlined, otherBecomes,
    Command.outline_eq_iff made (outline_of_command? otherTold otherOutlined), ?_⟩
  intro some search searched
  obtain ⟨_, _, -, -, rfl⟩ := command.task.parts_of_outline made
  obtain ⟨_, _, -, -, whole⟩ := search.task.parts_of_outline searched
  have samePath := (Outline.mk.inj whole).2.1
  have collection : search.task.path = collectionPath := by
    cases search <;> rfl
  refine Task.path_ne_collectionPath command.identifier?_task some ?_
  rw [← collection]
  exact Client.buildPath_injective (Task.head?_path _) (Task.head?_path _) samePath

/-! ### Samples -/

/-- No description and an empty one come to the same request: the description is deleted.  No
listing has the outline of that request. -/
theorem first_requests_tell_deletion :
    ∃ first otherFirst base outline otherOutline,
      ((perform (.putDescription (.text "a/b") .null)).run sampleClient silence .fresh).2.requests =
        [first] ∧
      ((perform (.putDescription (.text "a/b") (.text ""))).run sampleClient
        silence .fresh).2.requests = [otherFirst] ∧
      outline.Becomes base first ∧ otherOutline.Becomes base otherFirst ∧
      outline = otherOutline ∧
      ∀ search : Search, sampleClient.outline search.task.intent ≠ .ok outline := by
  have sentOne : ((perform (.putDescription (.text "a/b") .null)).run sampleClient
      silence .fresh).2.requests.length = 1 := by
    decide +kernel
  have otherSentOne : ((perform (.putDescription (.text "a/b") (.text ""))).run sampleClient
      silence .fresh).2.requests.length = 1 := by
    decide +kernel
  obtain ⟨first, sent⟩ := List.length_eq_one_iff.1 sentOne
  obtain ⟨otherFirst, otherSent⟩ := List.length_eq_one_iff.1 otherSentOne
  have told : (perform (.putDescription (.text "a/b") .null)).command? =
      some (.putDescription "a/b" none) := rfl
  have otherTold : (perform (.putDescription (.text "a/b") (.text ""))).command? =
      some (.putDescription "a/b" (some "")) := rfl
  obtain ⟨base, outline, otherOutline, -, -, becomes, -, otherBecomes, same, unlike⟩ :=
    first_requests_tell_commands told otherTold sent otherSent
  exact ⟨first, otherFirst, base, outline, otherOutline, sent, otherSent, becomes, otherBecomes,
    same.2 (by decide), unlike (by decide)⟩

end Operation

end Rest

end ReviewGroups
