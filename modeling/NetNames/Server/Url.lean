import NetNames.Directory.Basic
import NetNames.Server.Address
import NetNames.Server.HostName

/-!
The URL of a directory server: a scheme, a host and an optional endpoint number. Only the directory
schemes lead to a server, but a URL that cannot be read is refused before its scheme is looked at.
-/
namespace NetNames.Url

open Text

/-- Control characters and spaces around a URL do not count, nor do tabs and line ends in it. -/
def cleaned (url : String) : List Char :=
  let outer (c : Char) : Bool := c.toNat ≤ 0x20
  (dropEnd outer (url.toList.dropWhile outer)).filter fun c => c != '\t' && c != '\n' && c != '\r'

/-- The scheme in lower case and what follows its colon. -/
def cutScheme? (s : List Char) : Option (String × List Char) :=
  let inScheme (c : Char) : Bool := isLetter c || isDigit c || ['+', '-', '.'].contains c
  match s.takeWhile inScheme, s.dropWhile inScheme with
  | c :: name, ':' :: rest =>
    if isLetter c then some (String.ofList (lower (c :: name)), rest) else none
  | _, _ => none

/-- Schemes whose URLs always have a host. -/
def needsHost (scheme : String) : Bool := ["http", "https", "ws", "wss", "ftp"].contains scheme

/-- Whether the character ends the part with the host. -/
def endsAuthority (scheme : String) (c : Char) : Bool :=
  ['/', '?', '#'].contains c || (needsHost scheme && c == '\\')

/-- The part with the host and what follows it; a URL that needs no host may have no such part. -/
def authority? (scheme : String) (rest : List Char) : Option (List Char × List Char) :=
  let cut (s : List Char) : List Char × List Char :=
    (s.takeWhile (!endsAuthority scheme ·), s.dropWhile (!endsAuthority scheme ·))
  if needsHost scheme then some (cut (rest.dropWhile fun c => c == '/' || c == '\\'))
  else match rest with
    | '/' :: '/' :: r => some (cut r)
    | _ => none

/-- What stands before the last at sign, if there is one, and what follows it. -/
def cutUser (s : List Char) : Option (List Char) × List Char :=
  let host := (s.reverse.takeWhile (· != '@')).reverse
  if host.length < s.length then (some (s.take (s.length - host.length - 1)), host) else (none, s)

/-- The host up to a colon outside brackets, and the rest from that colon on. -/
def cutHost (inside : Bool) : List Char → List Char × List Char
  | [] => ([], [])
  | c :: r =>
    if c = ':' && !inside then ([], c :: r)
    else
      let (host, rest) := cutHost (c == '[' || (inside && c != ']')) r
      (c :: host, rest)

def endpointLimit : Nat := 65536

/-- A backslash ends the number of an endpoint under every scheme. -/
def checkEndpoint : List Char → Except ConnectFault Unit
  | ':' :: r =>
    let digits := r.takeWhile (· != '\\')
    if digits.all isDigit && Nat.ofDigitChars 10 digits 0 < endpointLimit then .ok ()
    else .error .badEndpoint
  | _ => .ok ()

def isForbidden (c : Char) : Bool :=
  [' ', '#', '/', ':', '<', '>', '?', '@', '[', '\\', ']', '^', '|', '\x00'].contains c

/-- The name of a host, or the address that it spells. -/
def checkName (host : List Char) : Except ConnectFault Unit :=
  match HostName.ofText? host with
  | none => .error .badHostName
  | some name =>
    if name.isEmpty then .error .emptyHost
    else if Address.endsInNumber name && !Address.isDotted name then .error .badDottedAddress
    else .ok ()

/-- Whether the host can be read; only under some schemes it must be a name or an address. -/
def checkHost (named : Bool) (host : List Char) : Except ConnectFault Unit :=
  match host with
  | '[' :: r =>
    if r.getLast? == some ']' && Address.isGrouped r.dropLast then .ok () else .error .badAddress
  | host =>
    if named then checkName host
    else if host.any isForbidden then .error .badHostCharacter
    else .ok ()

/-- The host and what follows it up to the end of its part, if both can be read. A user needs a
host. -/
def checkAuthority (scheme : String) (authority after : List Char) :
    Except ConnectFault (List Char × List Char) := do
  let (user, part) := cutUser authority
  if user == some [] && part.isEmpty && !after.isEmpty then throw .emptyHost
  let (host, rest) := cutHost false part
  if host.isEmpty && needsHost scheme then throw .emptyHost
  checkHost (needsHost scheme) host
  if host.isEmpty && !rest.isEmpty then throw .emptyHost
  checkEndpoint rest
  let named := user.any fun u => u != [] && u != [':']
  if host.isEmpty && named then throw .emptyHost
  return (host, rest)

/-- The host of a file, which may be missing; the letter of a drive is none. -/
def checkFile (rest : List Char) : Except ConnectFault Unit :=
  let isSlash (c : Char) : Bool := c == '/' || c == '\\'
  match rest with
  | a :: b :: r =>
    let host := r.takeWhile fun c => !(isSlash c || c == '?' || c == '#')
    let isDrive : Bool :=
      match host with
      | [c, mark] => isLetter c && (mark == ':' || mark == '|')
      | _ => false
    if !(isSlash a && isSlash b) || host.isEmpty || isDrive then .ok () else checkHost true host
  | _ => .ok ()

/-- Whether the URL leads to a directory server. -/
def check (url : String) : Except ConnectFault Unit :=
  match cutScheme? (cleaned url) with
  | none => .error .relativeUrl
  | some ("file", rest) => do
    checkFile rest
    throw (.unknownScheme "file")
  | some (scheme, rest) => do
    let (host, endpoint) ←
      match authority? scheme rest with
      | some (authority, after) => checkAuthority scheme authority after
      | none => pure ([], [])
    match scheme with
    | "ldap" | "ldaps" => return ()
    | "ldapi" =>
      if host.isEmpty then throw .emptySocketPath
      else if endpoint.length > 1 then throw .socketWithEndpoint
      else return ()
    | scheme => throw (.unknownScheme scheme)

end NetNames.Url
