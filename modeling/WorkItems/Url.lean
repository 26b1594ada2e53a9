import WorkItems.Decimal.Digits
import WorkItems.Text.Blank
import WorkItems.Text.Pieces
/-!
# URLs

`Url.ofText` checks the form of a URL and takes its scheme and its host out of it. A URL is
`scheme:` followed by an optional `//authority`, a path, an optional query behind `?` and an
optional fragment behind `#`. Schemes that are meaningless without a host must have one.
-/

namespace WorkItems

/-- The parts of a URL that are kept. -/
structure Url where
  scheme : String
  /-- The host. An IPv6 host keeps its brackets. -/
  host : Option String
deriving DecidableEq, Repr

namespace Url

/-- Why a text is no URL. -/
inductive Error where
  | blankOrControl
  | percentEncoding
  | noScheme
  | noHost (scheme : String)
  | noHostAndPath
  | unclosedIPv6
  | textBehindIPv6
  | emptyHost
  | badHost (host : String)
  | badPort (port : String)
  | lengthOfIPv6
  | charactersOfIPv6
  | zoneOfIPv6
  | badIPv6 (address : String)
deriving DecidableEq, Repr

def Error.message : Error → String
  | blankOrControl => "contains whitespace or control characters"
  | percentEncoding => "invalid percent-encoding"
  | noScheme => "missing scheme"
  | noHost scheme => "'" ++ scheme ++ "' URL has no host"
  | noHostAndPath => "missing host and path"
  | unclosedIPv6 => "unterminated IPv6 host"
  | textBehindIPv6 => "unexpected text after IPv6 host"
  | emptyHost => "empty host"
  | badHost host => "invalid host '" ++ host ++ "'"
  | badPort port => "invalid port '" ++ port ++ "'"
  | lengthOfIPv6 => "IPv6 host has invalid length"
  | charactersOfIPv6 => "IPv6 host contains invalid characters"
  | zoneOfIPv6 => "IPv6 host has an empty zone"
  | badIPv6 address => "invalid IPv6 address '" ++ address ++ "'"

/-! ## IPv6 addresses -/

/-- One to four hexadecimal digits. -/
def isGroup (cs : List Char) : Bool := !cs.isEmpty && cs.length ≤ 4 && cs.all Text.isHex

/-- A number up to 255 without a leading zero. -/
def isOctet (cs : List Char) : Bool :=
  !cs.isEmpty && cs.length ≤ 3 && cs.all Decimal.isDigit && Decimal.value cs ≤ 255 &&
    (cs.length == 1 || cs.head? != some '0')

/-- Four octets with dots between them. -/
def isIPv4 (cs : List Char) : Bool :=
  let octets := Text.pieces '.' cs
  octets.length == 4 && octets.all isOctet

/-- The number of groups in a run of them; an IPv4 address at its end counts as two. -/
def groupCount? (allowIPv4 : Bool) (cs : List Char) : Option Nat :=
  if cs.isEmpty then some 0
  else match (Text.pieces ':' cs).reverse with
    | last :: before =>
      if !before.all isGroup then none
      else if isGroup last then some (before.length + 1)
      else if allowIPv4 && isIPv4 last then some (before.length + 2)
      else none
    | [] => none

/-- Eight groups, or fewer with `::` for at least one group of zeros. -/
def isIPv6 (cs : List Char) : Bool :=
  match Text.cutAtPair? ':' ':' cs with
  | none => groupCount? true cs == some 8
  | some (head, tail) =>
    match groupCount? false head, groupCount? true tail with
    | some m, some n => m + n ≤ 7
    | _, _ => false

/-- The length of the longest written IPv6 address. -/
def maxIPv6Length : Nat := 45

/-- What is between the brackets: an address, and a zone behind `%`. -/
def checkIPv6 (inner : List Char) : Except Error Unit :=
  let (address, zone) := match Text.cutAt? '%' inner with
    | some (a, z) => (a, some z)
    | none => (inner, none)
  if address.isEmpty || maxIPv6Length < (String.ofList address).utf8ByteSize then
    .error .lengthOfIPv6
  else if !address.all (fun c => Text.isHex c || c == ':' || c == '.') then
    .error .charactersOfIPv6
  else if zone.any (fun z => z.isEmpty || z == "25".toList) then .error .zoneOfIPv6
  else if isIPv6 address then .ok ()
  else .error (.badIPv6 (String.ofList address))

/-! ## The authority -/

def isHostChar (c : Char) : Bool :=
  Text.isAlnum c || "-._~%!$&'()*+,;=".toList.contains c

/-- A port is empty, or a number below 65536, before which a plus sign may stand. -/
def isPort (cs : List Char) : Bool :=
  let ds := match cs with
    | '+' :: r => r
    | r => r
  cs.isEmpty || (Decimal.readNat? ds).any (· < 65536)

/-- A bracketed host and the text behind its colon, from behind the opening bracket. -/
def bracketedHost (rest : List Char) : Except Error (List Char × Option (List Char)) := do
  let some (inner, after) := Text.cutAt? ']' rest | .error .unclosedIPv6
  checkIPv6 inner
  let host := '[' :: inner ++ [']']
  match after with
  | [] => .ok (host, none)
  | ':' :: port => .ok (host, some port)
  | _ => .error .textBehindIPv6

/-- The host and the text behind its colon, if there is one. -/
def hostAndPort (cs : List Char) : Except Error (List Char × Option (List Char)) :=
  match cs with
  | '[' :: rest => bracketedHost rest
  | _ => match Text.cutAt? ':' cs with
    | some (host, port) => .ok (host, some port)
    | none => .ok (cs, none)

/-- The host of a non-empty authority. What stands before its last `@` is not looked at. -/
def hostOf (authority : List Char) : Except Error String := do
  let (host, port) ← hostAndPort (Text.behindLast '@' authority)
  let text := String.ofList host
  if host.isEmpty then .error .emptyHost
  else if host.head? != some '[' && !host.all isHostChar then .error (.badHost text)
  else match port with
    | some p => if isPort p then .ok text else .error (.badPort (String.ofList p))
    | none => .ok text

/-! ## The whole -/

/-- Whether two hexadecimal digits follow every percent sign. -/
def percentsAreEncoded : List Char → Bool
  | [] => true
  | '%' :: cs => (cs.take 2).length == 2 && (cs.take 2).all Text.isHex && percentsAreEncoded cs
  | _ :: cs => percentsAreEncoded cs

def isSchemeChar (c : Char) : Bool := Text.isAlnum c || c == '+' || c == '.' || c == '-'

/-- The scheme, and the text behind its colon. -/
def schemeOf? (cs : List Char) : Option (List Char × List Char) :=
  match cs.dropWhile isSchemeChar with
  | ':' :: rest =>
    let scheme := cs.takeWhile isSchemeChar
    if scheme.head?.any Char.isAlpha then some (scheme, rest) else none
  | _ => none

def startsPath (c : Char) : Bool := c == '/' || c == '?' || c == '#'

/-- The authority behind `//`, if there is one, and the text behind it. -/
def authorityOf (cs : List Char) : List Char × List Char :=
  match cs with
  | '/' :: '/' :: rest => (rest.takeWhile (!startsPath ·), rest.dropWhile (!startsPath ·))
  | _ => ([], cs)

/-- The path: what stands before a query and a fragment. -/
def pathOf (cs : List Char) : List Char := cs.takeWhile fun c => c != '?' && c != '#'

/-- Schemes that are meaningless without a host. -/
def hostSchemes : List String := ["http", "https", "ftp", "ftps", "ws", "wss"]

def lowerScheme (u : Url) : String := Text.lowerAscii u.scheme

def ofText (s : String) : Except Error Url := do
  let cs := s.toList
  if cs.any fun c => Text.isBlank c || Text.isControl c then .error .blankOrControl
  if !percentsAreEncoded cs then .error .percentEncoding
  let some (scheme, rest) := schemeOf? cs | .error .noScheme
  let (authority, afterAuthority) := authorityOf rest
  let host ← if authority.isEmpty then pure none else some <$> hostOf authority
  let url : Url := ⟨String.ofList scheme, host⟩
  if host.isNone && hostSchemes.contains url.lowerScheme then .error (.noHost url.scheme)
  else if host.isNone && (pathOf afterAuthority).isEmpty then .error .noHostAndPath
  else .ok url

end Url
end WorkItems
