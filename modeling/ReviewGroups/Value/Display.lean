/-
Module: ReviewGroups.Value.Display
Purpose: Values as messages, log lines and addresses show them.
Trusted boundary: none
Main exports: Value.display, Value.isWritable, Value.toText
-/
import ReviewGroups.Json.Writer
import ReviewGroups.Number.FloatText
import ReviewGroups.Text.Quoted
import ReviewGroups.Value.Basic

namespace ReviewGroups

/-- The word for a truth value. -/
def Text.ofBool (b : Bool) : String :=
  if b then "True" else "False"

/-- The word for nothing. -/
def Text.nothing : String := "None"

/-- Pieces with a comma and a space between them. -/
def Text.commaSeparated (pieces : List String) : String :=
  String.intercalate ", " pieces

/-- A text between quotes, or the word for nothing. -/
def Text.quotedOrNothing : Option String → String
  | none => Text.nothing
  | some s => Text.quoted s

/-- Between brackets of a list. -/
def Text.bracketed (pieces : List String) : String :=
  "[" ++ Text.commaSeparated pieces ++ "]"

/-- Between parentheses; a single piece has a comma after it. -/
def Text.parenthesized (pieces : List String) : String :=
  match pieces with
  | [piece] => "(" ++ piece ++ ",)"
  | _ => "(" ++ Text.commaSeparated pieces ++ ")"

/-- Between braces. -/
def Text.braced (pieces : List String) : String :=
  "\x7b" ++ Text.commaSeparated pieces ++ "\x7d"

/-- The pieces of a collection, marked as its kind is. -/
def Container.display (container : Container) (pieces : List String) : String :=
  match container with
  | .list => Text.bracketed pieces
  | .tuple => Text.parenthesized pieces
  | .set => if pieces.isEmpty then "set()" else Text.braced pieces
  | .frozenSet =>
      if pieces.isEmpty then "frozenset()" else "frozenset(" ++ Text.braced pieces ++ ")"
  | .stream => "<generator object>"
  | .keyView | .entryView => container.kindName ++ "(" ++ Text.bracketed pieces ++ ")"

/-- An option in full. -/
def DisplayOption.display (option : DisplayOption) : String :=
  s!"<ListGroupsOption.{option.name}: '{option.name}'>"

/-- An optional part, or the word for nothing. -/
def Text.ofOption {α : Type} (toText : α → String) : Option α → String
  | none => Text.nothing
  | some value => toText value

/-- A field with its value. -/
def Text.field (name value : String) : String :=
  name ++ "=" ++ value

/-- A record with its name in front of its fields. -/
def Schema.display (schema : Schema) (fields : List String) : String :=
  schema.name ++ "(" ++ Text.commaSeparated fields ++ ")"

/-- The fields of an account. -/
def Account.displayFields (account : Account) : List String :=
  [Text.field "account_id" (Text.ofOption toString account.accountId),
    Text.field "name" (Text.quotedOrNothing account.name),
    Text.field "email" (Text.quotedOrNothing account.email),
    Text.field "username" (Text.quotedOrNothing account.username)]

/-- The one field of group options. -/
def GroupOptions.displayFields (options : GroupOptions) : List String :=
  [Text.field "visible_to_all" (Text.ofOption Text.ofBool options.visibleToAll)]

namespace Group

mutual

/-- The fields of a group. -/
def displayFields : Group → List String
  | ⟨id, name, url, options, description, groupId, owner, ownerId, createdOn, moreGroups, members,
      includes⟩ =>
      [Text.field "id" (Text.quotedOrNothing id),
        Text.field "name" (Text.quotedOrNothing name),
        Text.field "url" (Text.quotedOrNothing url),
        Text.field "options"
          (Text.ofOption (fun part => Schema.groupOptions.display part.displayFields) options),
        Text.field "description" (Text.quotedOrNothing description),
        Text.field "group_id" (Text.ofOption toString groupId),
        Text.field "owner" (Text.quotedOrNothing owner),
        Text.field "owner_id" (Text.quotedOrNothing ownerId),
        Text.field "created_on" (Text.quotedOrNothing createdOn),
        Text.field "more_groups" (Text.ofOption Text.ofBool moreGroups),
        Text.field "members"
          (Text.ofOption
            (fun accounts =>
              Text.bracketed
                (accounts.map fun account => Schema.account.display account.displayFields))
            members),
        Text.field "includes" (displayIncludes includes)]

/-- The included groups, if they are known. -/
def displayIncludes : Option (List Group) → String
  | none => Text.nothing
  | some groups => Text.bracketed (displayList groups)

/-- Groups one by one. -/
def displayList : List Group → List String
  | [] => []
  | group :: groups => Schema.group.display (displayFields group) :: displayList groups

end

end Group

/-- Texts between quotes, as a list. -/
def Text.quotedList (texts : List String) : String :=
  Text.bracketed (texts.map Text.quoted)

/-- Texts between quotes, as a tuple. -/
def Text.quotedTuple (texts : List String) : String :=
  Text.parenthesized (texts.map Text.quoted)

/-- Options in full, as a tuple. -/
def DisplayOption.displayTuple (options : List DisplayOption) : String :=
  Text.parenthesized (options.map DisplayOption.display)

/-- The fields of a record. -/
def Record.displayFields : Record → List String
  | .account entity => entity.displayFields
  | .groupOptions entity => entity.displayFields
  | .groupOptionsInput entity =>
      [Text.field "visible_to_all" (Text.ofOption Text.ofBool entity.visibleToAll)]
  | .group entity => entity.displayFields
  | .groupInput entity =>
      [Text.field "name" (Text.quotedOrNothing entity.name),
        Text.field "uuid" (Text.quotedOrNothing entity.uuid),
        Text.field "description" (Text.quotedOrNothing entity.description),
        Text.field "visible_to_all" (Text.ofOption Text.ofBool entity.visibleToAll),
        Text.field "owner_id" (Text.quotedOrNothing entity.ownerId),
        Text.field "members" (Text.ofOption Text.quotedList entity.members)]
  | .nameInput entity => [Text.field "name" (Text.quoted entity.name)]
  | .descriptionInput entity => [Text.field "description" (Text.quotedOrNothing entity.description)]
  | .ownerInput entity => [Text.field "owner" (Text.quoted entity.owner)]
  | .membersInput entity => [Text.field "members" (Text.quotedList entity.members)]
  | .groupsInput entity => [Text.field "groups" (Text.quotedList entity.groups)]
  | .listFilter entity =>
      [Text.field "options" (DisplayOption.displayTuple entity.options),
        Text.field "projects" (Text.quotedTuple entity.projects),
        Text.field "groups" (Text.quotedTuple entity.groups),
        Text.field "visible_to_all" (Text.ofBool entity.visibleToAll),
        Text.field "user" (Text.quotedOrNothing entity.user),
        Text.field "owned" (Text.ofBool entity.owned),
        Text.field "limit" (toString entity.limit),
        Text.field "start" (toString entity.start),
        Text.field "substring" (Text.quotedOrNothing entity.substring),
        Text.field "suggest" (Text.quotedOrNothing entity.suggest)]
  | .queryFilter entity =>
      [Text.field "query" (Text.quotedOrNothing entity.query),
        Text.field "limit" (toString entity.limit),
        Text.field "start" (toString entity.start),
        Text.field "options" (DisplayOption.displayTuple entity.options)]
  | .settings entity =>
      [Text.field "url" (Text.quoted entity.url),
        Text.field "username" (Text.quotedOrNothing entity.username),
        Text.field "password" (Text.quotedOrNothing entity.password),
        Text.field "timeout" entity.timeout.toText]

namespace Value

mutual

/-- A value with the marks of its kind: texts quoted, collections between brackets. -/
def display : Value → String
  | .null => Text.nothing
  | .bool b => Text.ofBool b
  | .int n => toString n
  | .float x => x.toText
  | .text s => Text.quoted s
  | .option o => o.display
  | .items container values => container.display (displayItems values)
  | .dict entries => Text.braced (displayEntries entries)
  | .record r => r.schema.display r.displayFields

/-- Values one by one. -/
def displayItems : List Value → List String
  | [] => []
  | value :: values => display value :: displayItems values

/-- Entries one by one, with a colon after the key. -/
def displayEntries : List (Value × Value) → List String
  | [] => []
  | (key, value) :: entries => (display key ++ ": " ++ display value) :: displayEntries entries

end

mutual

/-- Every whole number that is shown with a value has few enough digits to be written. -/
def isWritable : Value → Bool
  | .int n => Text.isShort n
  | .items .stream _ => true
  | .items _ values => itemsWritable values
  | .dict entries => entriesWritable entries
  | .record r => r.toJson.isWritable
  | _ => true

/-- Values one by one. -/
def itemsWritable : List Value → Bool
  | [] => true
  | value :: values => isWritable value && itemsWritable values

/-- Keys and values one by one. -/
def entriesWritable : List (Value × Value) → Bool
  | [] => true
  | (key, value) :: entries => isWritable key && isWritable value && entriesWritable entries

end

/-- A value as plain text: a text is itself, without quotes. -/
def toText : Value → String
  | .text s => s
  | .option o => "ListGroupsOption." ++ o.name
  | .record r => String.intercalate " " r.displayFields
  | value => value.display

end Value

end ReviewGroups
