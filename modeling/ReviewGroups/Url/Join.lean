/-
Module: ReviewGroups.Url.Join
Purpose: Resolving a relative reference against the address it was found at.
Trusted boundary: none
Main exports: Join.split, Join.unsplit, Join.resolvePath, Join.resolve, Address.join
-/
import ReviewGroups.Url.Address

namespace ReviewGroups.Url

namespace Join

/-- The schemes against which references are resolved; the empty one is that of a base without a
scheme. -/
def relativeSchemes : List String :=
  ["", "ftp", "http", "gopher", "nntp", "imap", "wais", "file", "https", "shttp", "mms", "prospero",
    "rtsp", "rtspu", "sftp", "svn", "svn+ssh", "ws", "wss"]

/-- The schemes whose last path segment may have parameters after a semicolon. -/
def parameterSchemes : List String :=
  ["", "ftp", "hdl", "prospero", "http", "https", "shttp", "rtsp", "rtspu", "sip", "sips", "mms",
    "sftp", "tel"]

/-- A reference in six parts; an empty part and a missing one are the same. -/
structure Parts where
  scheme : List Char
  authority : List Char
  path : List Char
  parameters : List Char
  query : List Char
  fragment : List Char
deriving Repr, Inhabited, DecidableEq

/-- Split the parameters off the last segment of a path. -/
def splitParameters (path : List Char) : List Char × List Char :=
  let directory :=
    match cutAtLast '/' path with
    | some (before, _) => before ++ ['/']
    | none => []
  match Text.cutAt ';' (path.drop directory.length) with
  | some (segment, parameters) => (directory ++ segment, parameters)
  | none => (path, [])

/-- Split a reference, with a scheme for one that has none. -/
def split (scheme cs : List Char) : Parts :=
  let (written, rest) := splitScheme cs
  let (scheme, hierarchy) :=
    if written.isEmpty then (scheme, cs) else (written.map Char.toLower, rest)
  let components := splitAfterScheme scheme hierarchy
  let (path, parameters) :=
    if String.ofList scheme ∈ parameterSchemes then splitParameters components.path
    else (components.path, [])
  { scheme := scheme
    authority := components.authority
    path := path
    parameters := parameters
    query := components.query.getD []
    fragment := components.fragment.getD [] }

/-- The text of six parts. -/
def unsplit (parts : Parts) : List Char :=
  let path :=
    parts.path ++ (if parts.parameters.isEmpty then [] else ';' :: parts.parameters)
  let located :=
    if !parts.authority.isEmpty || !parts.scheme.isEmpty || path.take 2 == ['/', '/'] then
      let rooted := if path.isEmpty || path.head? == some '/' then path else '/' :: path
      '/' :: '/' :: parts.authority ++ rooted
    else path
  (if parts.scheme.isEmpty then [] else parts.scheme ++ [':']) ++ located ++
    (if parts.query.isEmpty then [] else '?' :: parts.query) ++
    (if parts.fragment.isEmpty then [] else '#' :: parts.fragment)

/-- Resolve one segment, the segments before it in reverse. -/
def resolveSegment (before : List (List Char)) (segment : List Char) : List (List Char) :=
  if segment = ['.', '.'] then before.drop 1
  else if segment = ['.'] then before
  else segment :: before

/-- Leave out the empty segments that are neither the first nor the last. -/
def dropInnerEmpty (segments : List (List Char)) : List (List Char) :=
  match segments with
  | [] => []
  | [segment] => [segment]
  | first :: rest =>
      first :: rest.dropLast.filter (!·.isEmpty) ++ rest.drop (rest.length - 1)

/-- The path of a reference as seen from a base path. -/
def resolvePath (base path : List Char) : List Char :=
  let baseSegments := Text.splitAt '/' base
  let directory :=
    if baseSegments.getLast?.any List.isEmpty then baseSegments else baseSegments.dropLast
  let segments :=
    if path.head? = some '/' then Text.splitAt '/' path
    else dropInnerEmpty (directory ++ Text.splitAt '/' path)
  let resolved := (segments.foldl resolveSegment []).reverse
  let isDots := segments.getLast?.any fun last => last == ['.'] || last == ['.', '.']
  let joined := List.intercalate ['/'] (if isDots then resolved ++ [[]] else resolved)
  if joined.isEmpty then ['/'] else joined

/-- Resolve the text of a reference against the text of a base. -/
def resolve (base reference : List Char) : List Char :=
  if base.isEmpty then reference
  else if reference.isEmpty then base
  else
    let origin := split [] base
    let target := split origin.scheme reference
    if target.scheme ≠ origin.scheme ∨ String.ofList target.scheme ∉ relativeSchemes then reference
    else if !target.authority.isEmpty then unsplit target
    else if target.path.isEmpty && target.parameters.isEmpty then
      unsplit
        { target with
          authority := origin.authority
          path := origin.path
          parameters := origin.parameters
          query := if target.query.isEmpty then origin.query else target.query }
    else
      unsplit
        { target with
          authority := origin.authority
          path := resolvePath origin.path target.path }

end Join

/-- The address that a reference denotes where it was found. -/
def Address.join (base reference : Address) : Except AddressFault Address :=
  Address.parse
    (String.ofList (Join.resolve base.render.toList reference.render.toList))

end ReviewGroups.Url
