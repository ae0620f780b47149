import TypeAtlas.Location.HostName
import TypeAtlas.Location.Url
import TypeAtlas.Text.Ascii
import TypeAtlas.Text.Integer
import TypeAtlas.Text.Utf8

/-!
Addresses as they are asked for on the network: scheme and host in small letters, no port that the
scheme implies, no dots in the path, and no character that has to be written as octets.
-/

namespace TypeAtlas

inductive AddressFault
  | tooLong
  | hiddenChar (c : Char) (position : Nat)
  | longPart (part : Text)
  | hiddenCharIn (part : Text) (c : Char) (position : Nat)
  | badHost4 (host : Text)
  | badHost6 (host : Text)
  | badHost (host : Text)
  | badPort (port : Text)
  | unrootedPath
  | doubleSlash
  | leadingColon
  deriving DecidableEq, Repr

namespace AddressFault

def message : AddressFault → Text
  | tooLong => "URL too long"
  | hiddenChar c position => "Invalid non-printable ASCII character in URL, " ++
      Text.quoted [c] ++ " at position " ++ Text.ofNat position ++ "."
  | longPart part => "URL component '" ++ part ++ "' too long"
  | hiddenCharIn part c position => "Invalid non-printable ASCII character in URL " ++ part ++
      " component, " ++ Text.quoted [c] ++ " at position " ++ Text.ofNat position ++ "."
  | badHost4 host => "Invalid IPv4 address: " ++ host.quoted
  | badHost6 host => "Invalid IPv6 address: " ++ host.quoted
  | badHost host => "Invalid IDNA hostname: " ++ host.quoted
  | badPort port => "Invalid port: " ++ port.quoted
  | unrootedPath => "For absolute URLs, path must be empty or begin with '/'"
  | doubleSlash => "Relative URLs cannot have a path starting with '//'"
  | leadingColon => "Relative URLs cannot have a path starting with ':'"

end AddressFault

/-- The parts of an address as they are written. -/
structure AddressParts where
  scheme : Text
  authority : Text
  path : Text
  query : Option Text
  fragment : Option Text
  deriving DecidableEq, Repr

structure WebAddress where
  scheme : Text
  user : Text
  /-- without the brackets of a numeric address -/
  host : Text
  port : Option Int
  path : Text
  query : Option Text
  fragment : Option Text
  deriving DecidableEq, Repr

namespace WebAddress

/-- The octets of a character in UTF-8. -/
def octets (c : Char) : List Nat :=
  let n := c.toNat
  if n < 0x80 then [n]
  else if n < 0x800 then [0xC0 + n / 64, 0x80 + n % 64]
  else if n < 0x10000 then [0xE0 + n / 4096, 0x80 + n / 64 % 64, 0x80 + n % 64]
  else [0xF0 + n / 262144, 0x80 + n / 4096 % 64, 0x80 + n / 64 % 64, 0x80 + n % 64]

def escape (c : Char) : Text := (octets c).flatMap fun b => '%' :: (Text.hex 2 b).map Char.toUpper

def isVisible (c : Char) : Bool := 0x20 < c.toNat && c.toNat < 0x7F

def escapeUnless (isKept : Char → Bool) (t : Text) : Text :=
  t.flatMap fun c => if isKept c then [c] else escape c

/-- The octets of a text in ASCII whose escapes are undone. -/
def unescapedOctets : Text → List Nat
  | [] => []
  | [c] => [c.toNat]
  | [c, d] => [c.toNat, d.toNat]
  | c :: a :: b :: r =>
    if c = '%' && isHexDigit a && isHexDigit b then hexValue [a, b] :: unescapedOctets r
    else c.toNat :: unescapedOctets (a :: b :: r)
termination_by t => t.length

def unescape (t : Text) : Text := Text.ofUtf8Leniently (unescapedOctets t)

def isQueryChar (c : Char) : Bool := isVisible c && !"\"#<>".toList.contains c

def isPathChar (c : Char) : Bool :=
  isQueryChar c && c != '?' && c != Char.ofNat 0x60 && c != '\x7b' && c != '\x7d'

def isUserChar (c : Char) : Bool := isPathChar c && !"/;=@[\\]^|".toList.contains c

def isFragmentChar (c : Char) : Bool :=
  isVisible c && !"\"<>".toList.contains c && c != Char.ofNat 0x60

def isHostChar (c : Char) : Bool :=
  c.isAlphanum || "-._~!$&'()*+,;=\"%|\\".toList.contains c || c = Char.ofNat 0x60 || c = '\x7b' ||
    c = '\x7d'

/-- Four numbers with any character between two of them, be it one more digit. -/
def looksLikeAddress4 (t : Text) : Bool :=
  let numbers := Text.fields '.' (t.map fun c => if c.isDigit then c else '.')
  numbers.all (!·.isEmpty) && numbers.length ≤ 4 &&
    4 - numbers.length ≤ numbers.foldl (fun n number => n + (number.length - 1) / 2) 0

def hostOf (host : Text) : Except AddressFault Text :=
  if host.isEmpty then .ok []
  else if looksLikeAddress4 host then
    if isAddress4 host then .ok host else .error (.badHost4 host)
  else if host.head? = some '[' && host.getLast? = some ']' then
    let address := host.tail.dropLast
    if isAddress6 address then .ok address else .error (.badHost6 host)
  else if host.all isAscii then .ok (escapeUnless isHostChar (host.map Char.toLower))
  else (HostName.write host.lower).mapError fun _ => .badHost host

def impliedPorts : List (Text × Int) :=
  [("ftp", 21), ("http", 80), ("https", 443), ("ws", 80), ("wss", 443)]

/-- The port, unless the scheme implies it; a scheme with capitals implies none. -/
def portOf (scheme port : Text) : Except AddressFault (Option Int) :=
  if port.isEmpty then .ok none
  else match Text.toInt? port with
    | some n => .ok (if impliedPorts.lookup scheme = some n then none else some n)
    | none => .error (.badPort port)

def pathFault? (isSchemed isHosted : Bool) (path : Text) : Option AddressFault :=
  if isHosted then
    if path.isEmpty || path.head? = some '/' then none else some .unrootedPath
  else if isSchemed then none
  else if "//".toList.isPrefixOf path then some .doubleSlash
  else if path.head? = some ':' then some .leadingColon
  else none

/-- The path with its dots resolved; the first, empty segment of an absolute path stays. -/
def resolveDots (kept : List Text) : List Text → List Text
  | [] => kept.reverse
  | segment :: rest =>
    if segment = "." then resolveDots kept rest
    else if segment = ".." then resolveDots (if kept = [[]] then kept else kept.tail) rest
    else resolveDots (segment :: kept) rest

def withoutDots (path : Text) : Text := Text.join "/" (resolveDots [] (Text.fields '/' path))

/-- Host and port; a host in brackets may contain colons. -/
def hostSplit (t : Text) : Text × Text :=
  let host := match t, Text.cutLast? "]" t with
    | '[' :: _, some (inside, _) => inside ++ "]"
    | _, _ => t.takeWhile (· ≠ ':')
  let rest := t.drop host.length
  (host, if rest.head? = some ':' then rest.tail else rest)

/-- The address with these parts, of which another host may take the place of the host. -/
def ofParts (p : AddressParts) (otherHost : Option Text) : Except AddressFault WebAddress := do
  let (user, place) := (Text.cutLast? "@" p.authority).getD ([], p.authority)
  let (ownHost, port) := hostSplit place
  let host ← hostOf (otherHost.getD ownHost)
  let port ← portOf p.scheme port
  let isHosted := !user.isEmpty || !host.isEmpty || port.isSome
  if let some fault := pathFault? (!p.scheme.isEmpty) isHosted p.path then throw fault
  let path := if p.scheme.isEmpty && !isHosted then p.path else withoutDots p.path
  return {
    scheme := p.scheme.map Char.toLower
    user := escapeUnless isUserChar user
    host
    port
    path := escapeUnless isPathChar path
    query := p.query.map (escapeUnless isQueryChar)
    fragment := p.fragment.map (escapeUnless isFragmentChar) }

/-- The first control character of ASCII and its position. -/
def hiddenChar? (position : Nat) : Text → Option (Char × Nat)
  | [] => none
  | c :: r =>
    if c.toNat < 0x20 || c.toNat = 0x7F then some (c, position) else hiddenChar? (position + 1) r

def optionalPart (separator : Text) (t : Text) : Text × Option Text :=
  match Text.cut? separator t with
  | some (before, after) => (before, some after)
  | none => (t, none)

/-- The scheme and what follows its colon; a colon at the start ends an empty scheme. -/
def schemeSplit (t : Text) : Text × Text :=
  match Text.cut? ":" t with
  | some (scheme, rest) =>
    if scheme.isEmpty || (scheme.head?.any Char.isAlpha && scheme.all Url.isSchemeChar) then
      (scheme, rest)
    else ([], t)
  | none => ([], t)

def partsOf (t : Text) : AddressParts :=
  let (scheme, rest) := schemeSplit t
  let (authority, rest) := Url.authoritySplit rest
  let (rest, fragment) := optionalPart "#" rest
  let (path, query) := optionalPart "?" rest
  ⟨scheme, authority, path, query, fragment⟩

/-- Addresses and their parts are no longer than this. -/
def longest : Nat := 65536

def ofText (t : Text) : Except AddressFault WebAddress := do
  if longest < t.length then throw .tooLong
  if let some (c, position) := hiddenChar? 0 t then throw (.hiddenChar c position)
  ofParts (partsOf t) none

/-- Host and port. -/
def place (a : WebAddress) : Text :=
  (if a.host.contains ':' then '[' :: (a.host ++ [']']) else a.host) ++
    (a.port.map fun n => ':' :: Text.ofInt n).getD []

def authority (a : WebAddress) : Text := Text.onlyIf (!a.user.isEmpty) (a.user ++ "@") ++ a.place

def parts (a : WebAddress) : AddressParts := ⟨a.scheme, a.authority, a.path, a.query, a.fragment⟩

def render (a : WebAddress) : Text :=
  Text.onlyIf (!a.scheme.isEmpty) (a.scheme ++ ":") ++
    Text.onlyIf (!a.authority.isEmpty) ("//" ++ a.authority) ++ a.path ++
    (a.query.map ('?' :: ·)).getD [] ++ (a.fragment.map ('#' :: ·)).getD []

def isAbsolute (a : WebAddress) : Bool := !a.scheme.isEmpty && !a.host.isEmpty

/-- The parts that are too long or hold control characters. -/
def partFaults (parts : List (Text × Text)) : List AddressFault :=
  parts.filterMap fun (name, t) =>
    if longest < t.length then some (.longPart name)
    else (hiddenChar? 0 t).map fun (c, position) => .hiddenCharIn name c position

/-- The address put together anew from parts that have changed. -/
def rebuild (p : AddressParts) (otherHost : Option Text) : Except AddressFault WebAddress :=
  let named (name : String) (t : Option Text) : List (Text × Text) :=
    (t.map fun t => (name.toList, t)).toList
  match partFaults (named "scheme" p.scheme ++ named "authority" p.authority ++
      named "path" p.path ++ named "query" p.query ++ named "fragment" p.fragment ++
      named "host" otherHost) with
  | fault :: _ => .error fault
  | [] => ofParts p otherHost

/-- The host of an address as a part of another one. -/
def hostPart (a : WebAddress) : Text :=
  if a.host.contains ':' then '[' :: (a.host ++ [']']) else a.host

/-- What an address without scheme or host asks for. -/
def bare (a : WebAddress) : Except AddressFault WebAddress :=
  rebuild ⟨[], [], '/' :: a.path.dropWhile (· = '/'), a.query, none⟩ none

def isBlankFragment (a : WebAddress) : Bool := (a.fragment.getD []).isEmpty

/-- The address with the fragment of another one, unless it has one of its own. -/
def withFragmentOf (a b : WebAddress) : Except AddressFault WebAddress :=
  if b.isBlankFragment || !a.isBlankFragment then .ok a
  else rebuild { a.parts with fragment := b.fragment.map unescape } none

/-- What keeps a host in Punycode from being read. -/
def labelFault? (a : WebAddress) : Option LabelFault :=
  if HostName.codePrefix.isPrefixOf a.host then
    match HostName.read a.host with
    | .ok _ => none
    | .error fault => some fault
  else none

end WebAddress

end TypeAtlas
