/-
Module: ReviewGroups.Url.Address
Purpose: Addresses and relative references in normal form: reading, changing and writing them.
Trusted boundary: none
Main exports: Address, Address.parse, Address.render, Address.rawPath, Address.withRawPath,
  Address.withQuery, Address.withHost, Address.withFragment, Address.isAbsolute, Address.append,
  Address.shownHost, Address.sameOrigin, Address.isUpgrade
-/
import ReviewGroups.Text.Digit
import ReviewGroups.Url.Host

namespace ReviewGroups.Url

/-- An address, or a reference relative to one.  The scheme is in lower case and every part is in
ASCII with escapes; parts that are missing are empty, except that a query and a fragment can be
present and empty. -/
structure Address where
  scheme : String
  userinfo : String
  host : String
  port : Option Int
  path : String
  query : Option String
  fragment : Option String
deriving Repr, Inhabited, DecidableEq

/-- The longest text that is taken as an address or a component of one. -/
def lengthLimit : Nat := 65536

/-- Between the space and the tilde. -/
def isGraphic (c : Char) : Bool := 0x20 ≤ c.toNat && c.toNat < 0x7F

/-- The characters of a fragment that stay as they are. -/
def fragmentStays (c : Char) : Bool :=
  isGraphic c && !" \"<>\x60".toList.contains c

/-- The characters of a query that stay as they are. -/
def queryStays (c : Char) : Bool :=
  isGraphic c && !" \"#<>".toList.contains c

/-- The characters of a path that stay as they are. -/
def pathStays (c : Char) : Bool :=
  queryStays c && !"?\x60\x7b\x7d".toList.contains c

/-- The characters of user information that stay as they are. -/
def userinfoStays (c : Char) : Bool :=
  pathStays c && !"/;=@[\\]^|".toList.contains c

/-- The components of a reference as they are written. -/
structure Components where
  scheme : List Char
  authority : List Char
  path : List Char
  query : Option (List Char)
  fragment : Option (List Char)
deriving Repr, Inhabited, DecidableEq

/-- A letter, a digit, or one of three signs. -/
def isSchemeChar (c : Char) : Bool :=
  c.isAlphanum || c == '+' || c == '.' || c == '-'

/-- Split off a scheme and its colon.  A colon in front of everything is an empty scheme. -/
def splitScheme (cs : List Char) : List Char × List Char :=
  let scheme := cs.takeWhile isSchemeChar
  match cs.dropWhile isSchemeChar with
  | ':' :: rest => if scheme.head?.all Char.isAlpha then (scheme, rest) else ([], cs)
  | _ => ([], cs)

/-- Split off the authority that two slashes announce. -/
def splitMarkedAuthority : List Char → List Char × List Char
  | '/' :: '/' :: rest =>
      (rest.takeWhile fun c => c != '/' && c != '?' && c != '#',
        rest.dropWhile fun c => c != '/' && c != '?' && c != '#')
  | rest => ([], rest)

/-- Split what follows a scheme at its delimiters. -/
def splitAfterScheme (scheme cs : List Char) : Components :=
  let (authority, afterAuthority) := splitMarkedAuthority cs
  let path := afterAuthority.takeWhile fun c => c != '?' && c != '#'
  let afterPath := afterAuthority.dropWhile fun c => c != '?' && c != '#'
  match afterPath with
  | '?' :: rest =>
      let query := rest.takeWhile (· != '#')
      match rest.dropWhile (· != '#') with
      | '#' :: fragment => ⟨scheme, authority, path, some query, some fragment⟩
      | _ => ⟨scheme, authority, path, some query, none⟩
  | '#' :: fragment => ⟨scheme, authority, path, none, some fragment⟩
  | _ => ⟨scheme, authority, path, none, none⟩

/-- Split a reference at its delimiters. -/
def splitComponents (cs : List Char) : Components :=
  let (scheme, rest) := splitScheme cs
  splitAfterScheme scheme rest

/-- The parts of an authority as they are written. -/
structure Authority where
  userinfo : List Char
  host : List Char
  port : List Char
deriving Repr, Inhabited, DecidableEq

/-- The part up to the last occurrence of a character, and the part after it. -/
def cutAtLast (mark : Char) (cs : List Char) : Option (List Char × List Char) :=
  (Text.cutAt mark cs.reverse).map fun (after, before) => (before.reverse, after.reverse)

/-- Split an authority: user information ends at the last at-sign, a host in brackets at the last
bracket, and another host at the first colon. -/
def splitAuthority (cs : List Char) : Authority :=
  let (userinfo, rest) := (cutAtLast '@' cs).getD ([], cs)
  let (host, afterHost) :=
    match rest with
    | '[' :: _ =>
        match cutAtLast ']' rest with
        | some (inside, after) => (inside ++ [']'], after)
        | none => (rest.takeWhile (· != ':'), rest.dropWhile (· != ':'))
    | _ => (rest.takeWhile (· != ':'), rest.dropWhile (· != ':'))
  match afterHost with
  | ':' :: port => ⟨userinfo, host, port⟩
  | port => ⟨userinfo, host, port⟩

/-- The port that a scheme implies. -/
def defaultPort? (scheme : String) : Option Int :=
  match scheme with
  | "ftp" => some 21
  | "http" | "ws" => some 80
  | "https" | "wss" => some 443
  | _ => none

/-- A port as an address keeps it: none if it is the one that the scheme, as it is written,
implies. -/
def normalizePort (scheme port : List Char) : Except AddressFault (Option Int) :=
  if port.isEmpty then .ok none
  else
    match Text.readWhole (String.ofList port) with
    | .error _ => .error (.invalidPort (String.ofList port))
    | .ok n => .ok (if defaultPort? (String.ofList scheme) = some n then none else some n)

/-- Resolve one segment of a path, the segments before it in reverse: a dot goes, and two dots take
the segment before them along, but never the empty one in front of the first slash. -/
def resolveSegment (before : List (List Char)) (segment : List Char) : List (List Char) :=
  if segment = ['.'] then before
  else if segment = ['.', '.'] then (if before = [[]] then before else before.drop 1)
  else segment :: before

/-- A path without segments of one or two dots. -/
def normalizePath (path : List Char) : List Char :=
  let segments := Text.splitAt '/' path
  if ['.'] ∈ segments ∨ ['.', '.'] ∈ segments then
    List.intercalate ['/'] (segments.foldl resolveSegment []).reverse
  else path

/-- What a path may look like beside a scheme and an authority. -/
def checkPath (path : List Char) (hasScheme hasAuthority : Bool) : Except AddressFault Unit :=
  if hasAuthority && !path.isEmpty && path.head? != some '/' then .error .pathNotRooted
  else if !hasScheme && !hasAuthority && path.take 2 == ['/', '/'] then .error .pathDoubleSlash
  else if !hasScheme && !hasAuthority && path.head? == some ':' then .error .pathColon
  else .ok ()

namespace Address

/-- Bring components to normal form. -/
def assemble (components : Components) (authority : Authority) : Except AddressFault Address := do
  let userinfo := Percent.encode userinfoStays authority.userinfo
  let host ← normalizeHost authority.host
  let port ← normalizePort components.scheme authority.port
  let hasScheme := !components.scheme.isEmpty
  let hasAuthority := !userinfo.isEmpty || !host.isEmpty || port.isSome
  checkPath components.path hasScheme hasAuthority
  let path := if hasScheme || hasAuthority then normalizePath components.path else components.path
  pure
    { scheme := String.ofList (components.scheme.map Char.toLower)
      userinfo := String.ofList userinfo
      host := String.ofList host
      port := port
      path := String.ofList (Percent.encode pathStays path)
      query := components.query.map fun query => String.ofList (Percent.encode queryStays query)
      fragment :=
        components.fragment.map fun fragment =>
          String.ofList (Percent.encode fragmentStays fragment) }

/-- The first control character of ASCII, and its place. -/
def controlCharacter? (cs : List Char) : Option (Char × Nat) :=
  (cs.zipIdx.find? fun (c, _) => c.toNat < 0x20 || c.toNat == 0x7F)

/-- Read an address or a relative reference. -/
def parse (s : String) : Except AddressFault Address :=
  let cs := s.toList
  if lengthLimit < cs.length then .error .tooLong
  else
    match controlCharacter? cs with
    | some (c, position) => .error (.controlCharacter c position)
    | none =>
        let components := splitComponents cs
        assemble components (splitAuthority components.authority)

/-- Host and port as they are written. -/
def location (address : Address) : List Char :=
  (if ':' ∈ address.host.toList then '[' :: address.host.toList ++ [']']
    else address.host.toList) ++
    (match address.port with
      | none => []
      | some port => ':' :: (toString port).toList)

/-- User information, host and port as they are written. -/
def authority (address : Address) : List Char :=
  (if address.userinfo.isEmpty then [] else address.userinfo.toList ++ ['@']) ++ address.location

/-- The text of an address. -/
def render (address : Address) : String :=
  let authority := address.authority
  String.ofList <|
    (if address.scheme.isEmpty then [] else address.scheme.toList ++ [':']) ++
      (if authority.isEmpty then [] else '/' :: '/' :: authority) ++
      address.path.toList ++
      (match address.query with
        | none => []
        | some query => '?' :: query.toList) ++
      (match address.fragment with
        | none => []
        | some fragment => '#' :: fragment.toList)

/-- The components of an address as they are written. -/
def components (address : Address) : Components :=
  { scheme := address.scheme.toList
    authority := address.authority
    path := address.path.toList
    query := address.query.map String.toList
    fragment := address.fragment.map String.toList }

/-- What is wrong with the text of a component: it is too long, or holds a control character. -/
def componentFault? (name : String) (part : List Char) : Option AddressFault :=
  if lengthLimit < part.length then some (.componentTooLong name)
  else
    (controlCharacter? part).map fun (c, position) => .componentCharacter name c position

/-- What is wrong with the first component that is not in order. -/
def componentsFault? (components : Components) : Option AddressFault :=
  [("scheme", components.scheme), ("authority", components.authority), ("path", components.path),
    ("query", components.query.getD []), ("fragment", components.fragment.getD [])].findSome?
      fun (name, part) => componentFault? name part

/-- An address from components, some of which replace those of another one. -/
def rebuildWith (components : Components) (authority : Authority) :
    Except AddressFault Address :=
  match componentsFault? components with
  | some fault => .error fault
  | none => assemble components authority

/-- An address from components with their own authority. -/
def rebuild (components : Components) : Except AddressFault Address :=
  rebuildWith components (splitAuthority components.authority)

/-- The path, a slash if there is none, and the query. -/
def rawPath (address : Address) : List Char :=
  (if address.path.isEmpty then ['/'] else address.path.toList) ++
    (match address.query with
      | none => []
      | some query => '?' :: query.toList)

/-- Replace path and query together; the query starts at the first question mark. -/
def withRawPath (address : Address) (raw : List Char) : Except AddressFault Address :=
  match Text.cutAt '?' raw with
  | some (path, query) => rebuild { address.components with path := path, query := some query }
  | none => rebuild { address.components with path := raw, query := none }

/-- Replace the query. -/
def withQuery (address : Address) (query : Option (List Char)) : Except AddressFault Address :=
  rebuild { address.components with query := query }

/-- Replace the fragment. -/
def withFragment (address : Address) (fragment : List Char) : Except AddressFault Address :=
  rebuild { address.components with fragment := some fragment }

/-- Replace the host. -/
def withHost (address : Address) (host : String) : Except AddressFault Address :=
  let written :=
    if ':' ∈ host.toList ∧ ¬(host.toList.head? = some '[' ∧ host.toList.getLast? = some ']') then
      '[' :: host.toList ++ [']']
    else host.toList
  rebuildWith address.components { splitAuthority address.authority with host := written }

/-- An address that needs no other one to be complete. -/
def isAbsolute (address : Address) : Bool :=
  !address.scheme.isEmpty && !address.host.isEmpty

/-- The user name and the password in the user information, escapes undone. -/
def credentials (address : Address) : String × String :=
  let parts := (Text.cutAt ':' address.userinfo.toList).getD (address.userinfo.toList, [])
  (String.ofList (Percent.decode parts.1), String.ofList (Percent.decode parts.2))

/-- An address the path of which ends in a slash, to which others are appended. -/
def asBase (address : Address) : Except AddressFault Address :=
  if address.rawPath.getLast? = some '/' then .ok address
  else address.withRawPath (address.rawPath ++ ['/'])

/-- Append the path and the query of a reference to those of a base.  A reference that is an address
of its own is left as it is. -/
def append (base reference : Address) : Except AddressFault Address :=
  if reference.isAbsolute then .ok reference
  else base.withRawPath (base.rawPath ++ reference.rawPath.dropWhile (· == '/'))

/-- The port that is used in the end. -/
def effectivePort (address : Address) : Option Int :=
  match address.port with
  | some port => some port
  | none =>
      match address.scheme with
      | "http" => some 80
      | "https" => some 443
      | _ => none

/-- The host as people read it: a name that stands for one beyond ASCII is that one. -/
def shownHost (address : Address) : Except LabelFault String :=
  if Label.encodedMark.isPrefixOf address.host.toList then
    (HostName.ofAscii address.host.toList).map String.ofList
  else .ok address.host

/-- The hosts of two addresses are the same to people. -/
def sameHost (one other : Address) : Except LabelFault Bool := do
  let first ← one.shownHost
  let second ← other.shownHost
  pure (first == second)

/-- The same scheme, host and port.  The hosts are looked at when the schemes are the same. -/
def sameOrigin (one other : Address) : Except LabelFault Bool := do
  if one.scheme ≠ other.scheme then pure false
  else
    let sameHost ← one.sameHost other
    pure (sameHost && one.effectivePort == other.effectivePort)

/-- A step from plain to encrypted transport on one host with default ports. -/
def isUpgrade (before after : Address) : Except LabelFault Bool := do
  let sameHost ← before.sameHost after
  pure
    (sameHost && before.scheme == "http" && before.effectivePort == some 80 &&
      after.scheme == "https" && after.effectivePort == some 443)

end Address

end ReviewGroups.Url
