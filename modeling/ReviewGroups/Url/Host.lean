/-
Module: ReviewGroups.Url.Host
Purpose: The hosts of addresses: numeric ones are checked, others are brought to ASCII.
Trusted boundary: none
Main exports: AddressFault, isIpv4, isIpv6, normalizeHost
-/
import ReviewGroups.Text.Lower
import ReviewGroups.Url.Label
import ReviewGroups.Url.Percent

namespace ReviewGroups

/-- Why a text is no address. -/
inductive AddressFault where
  | tooLong
  | componentTooLong (name : String)
  | controlCharacter (c : Char) (position : Nat)
  | componentCharacter (name : String) (c : Char) (position : Nat)
  | invalidPort (port : String)
  | invalidIpv4 (host : String)
  | invalidIpv6 (host : String)
  | invalidName (host : String)
  | pathNotRooted
  | pathDoubleSlash
  | pathColon
deriving Repr, Inhabited, DecidableEq

/-- The words for a fault. -/
def AddressFault.message : AddressFault → String
  | .tooLong => "URL too long"
  | .componentTooLong name => s!"URL component '{name}' too long"
  | .controlCharacter c position =>
      "Invalid non-printable ASCII character in URL, " ++
        s!"{Text.quoted (String.singleton c)} at position {position}."
  | .componentCharacter name c position =>
      s!"Invalid non-printable ASCII character in URL {name} component, " ++
        s!"{Text.quoted (String.singleton c)} at position {position}."
  | .invalidPort port => s!"Invalid port: {Text.quoted port}"
  | .invalidIpv4 host => s!"Invalid IPv4 address: {Text.quoted host}"
  | .invalidIpv6 host => s!"Invalid IPv6 address: {Text.quoted host}"
  | .invalidName host => s!"Invalid IDNA hostname: {Text.quoted host}"
  | .pathNotRooted => "For absolute URLs, path must be empty or begin with '/'"
  | .pathDoubleSlash => "Relative URLs cannot have a path starting with '//'"
  | .pathColon => "Relative URLs cannot have a path starting with ':'"

namespace Url

/-- Four runs of digits with dots between them.  No other mark counts as a dot: `1-2-3-4` and
`20240607` are names of hosts and not addresses that are written badly. -/
def looksDotted (cs : List Char) : Bool :=
  let runs := Text.splitAt '.' cs
  runs.length == 4 && runs.all fun run => !run.isEmpty && run.all Char.isDigit

/-- A number from 0 to 255 without a leading zero. -/
def isOctet (cs : List Char) : Bool :=
  !cs.isEmpty && cs.all Char.isDigit && cs.length ≤ 3 &&
    (cs == ['0'] || cs.head? != some '0') && Nat.ofDigitChars 10 cs 0 ≤ 255

/-- Four octets with dots between them. -/
def isIpv4 (cs : List Char) : Bool :=
  let octets := Text.splitAt '.' cs
  octets.length == 4 && octets.all isOctet

/-- One to four hexadecimal digits. -/
def isHextet (cs : List Char) : Bool :=
  !cs.isEmpty && cs.length ≤ 4 && cs.all fun c => (Text.Hex.value? c).isSome

/-- The groups of an address with a dotted tail count two for the tail. -/
def splitGroups (cs : List Char) : Option (List (List Char)) :=
  let groups := Text.splitAt ':' cs
  match groups.getLast? with
  | some tail =>
      if '.' ∈ tail then
        if isIpv4 tail then some (groups.dropLast ++ [['0'], ['0']]) else none
      else some groups
  | none => none

/-- Eight groups, or fewer with one gap of two colons. -/
def groupsFit (groups : List (List Char)) : Bool :=
  let inner := (groups.drop 1).dropLast
  let gaps := inner.filter List.isEmpty
  let headEmpty := groups.head?.any List.isEmpty
  let tailEmpty := groups.getLast?.any List.isEmpty
  if gaps.length = 0 then groups.length == 8 && !headEmpty && !tailEmpty
  else
    let before := inner.takeWhile (!·.isEmpty)
    let after := (inner.dropWhile (!·.isEmpty)).drop 1
    let high := before.length + (if headEmpty then 0 else 1)
    let low := after.length + (if tailEmpty then 0 else 1)
    gaps.length == 1 && (!headEmpty || before.isEmpty) && (!tailEmpty || after.isEmpty) &&
      high + low < 8

/-- An address of eight groups of hexadecimal digits, perhaps with a zone after a percent sign. -/
def isIpv6 (cs : List Char) : Bool :=
  let zoneFits :=
    match Text.cutAt '%' cs with
    | none => true
    | some (_, zone) => !zone.isEmpty && '%' ∉ zone
  let address := cs.takeWhile (· != '%')
  zoneFits && '/' ∉ address &&
    match splitGroups address with
    | none => false
    | some groups =>
        3 ≤ (Text.splitAt ':' address).length && groups.length ≤ 9 && groupsFit groups &&
          groups.all fun part => part.isEmpty || isHextet part

/-- The characters of a host name in ASCII that stay as they are. -/
def hostStays (c : Char) : Bool :=
  Percent.isUnreserved c || "!$&'()*+,;=\"\x60\x7b\x7d%|\\".toList.contains c

/-- A host as an address keeps it: lower case and in ASCII; a dotted or bracketed number must be a
network address, the brackets of which go. -/
def normalizeHost (host : List Char) : Except AddressFault (List Char) :=
  if host.isEmpty then .ok []
  else if looksDotted host then
    if isIpv4 host then .ok host else .error (.invalidIpv4 (String.ofList host))
  else if host.head? = some '[' ∧ host.getLast? = some ']' ∧ 2 ≤ host.length then
    let inner := (host.drop 1).dropLast
    if isIpv6 inner then .ok inner else .error (.invalidIpv6 (String.ofList host))
  else if host.all (·.toNat < 0x80) then
    .ok (Percent.encode hostStays (host.map Char.toLower))
  else
    match HostName.toAscii (Text.lowerFrom [] host) with
    | .ok name => .ok name
    | .error _ => .error (.invalidName (String.ofList host))

end Url

end ReviewGroups
