import TypeAtlas.Location.Address
import TypeAtlas.Text.Case
import TypeAtlas.Text.Quoted

/-!
Locations on the network: their parts, and a reference resolved against a base.
-/

namespace TypeAtlas

inductive UrlFault
  | brackets
  | futureAddress
  | bracketedAddress4
  | noAddress (host : Text)
  | hiddenSeparator (host : Text)
  deriving DecidableEq, Repr

namespace UrlFault

def message : UrlFault → Text
  | brackets => "Invalid IPv6 URL"
  | futureAddress => "IPvFuture address is invalid"
  | bracketedAddress4 => "An IPv4 address cannot be in brackets"
  | noAddress host => host.quoted ++ " does not appear to be an IPv4 or IPv6 address"
  | hiddenSeparator host =>
    "netloc '" ++ host ++ "' contains invalid characters under NFKC normalization"

end UrlFault

structure Url where
  scheme : Text
  authority : Text
  path : Text
  query : Text
  fragment : Text
  deriving DecidableEq, Repr

namespace Url

/-- What is skipped in front of a location. -/
def isSkipped (c : Char) : Bool := c.toNat ≤ 0x20

/-- What is dropped anywhere in a location. -/
def isDropped (c : Char) : Bool := c = '\t' || c = '\r' || c = '\n'

def isSchemeChar (c : Char) : Bool := c.isAlphanum || c = '+' || c = '-' || c = '.'

/-- The scheme in small letters and what follows its colon. -/
def schemeSplit (t : Text) : Text × Text :=
  match Text.cut? ":" t with
  | some (scheme, rest) =>
    if (scheme.head?.map Char.isAlpha).getD false && scheme.all isSchemeChar then
      (scheme.map Char.toLower, rest)
    else ([], t)
  | none => ([], t)

def authoritySplit (t : Text) : Text × Text :=
  match t with
  | '/' :: '/' :: rest =>
    let ends (c : Char) : Bool := c = '/' || c = '?' || c = '#'
    (rest.takeWhile (!ends ·), rest.dropWhile (!ends ·))
  | t => ([], t)

/-- The text before the first separator and the text behind it; nothing without one. -/
def cutAt (separator : Text) (t : Text) : Text × Text := (Text.cut? separator t).getD (t, [])

/-- An address of a kind still to come: `v`, a number, a dot, and something more. -/
def isFutureAddress (host : Text) : Bool :=
  let number := host.tail.takeWhile isHexDigit
  let rest := host.tail.dropWhile isHexDigit
  !number.isEmpty && rest.head? = some '.' && rest.length > 1

/-- The host of an authority that holds brackets. When they are around the host, only a user comes
before them and only a port after them. -/
def bracketedHost? (authority : Text) : Option Text :=
  let place := ((Text.cutLast? "@" authority).map (·.2)).getD authority
  match Text.cut? "[" place with
  | none => some (cutAt ":" place).1
  | some (before, bracketed) =>
    let (host, port) := cutAt "]" bracketed
    if before.isEmpty && (port.isEmpty || port.head? = some ':') then some host else none

def addressFault? (host : Text) : Option UrlFault :=
  if host.head? = some 'v' then
    if isFutureAddress host then none else some .futureAddress
  else if isAddress4 host then some .bracketedAddress4
  else if isAddress6 host then none
  else some (.noAddress host)

/-- Characters that stand for a separator of locations once compatibility forms are resolved. -/
def hiddenSeparators : List Nat :=
  [0x2047, 0x2048, 0x2049, 0x2100, 0x2101, 0x2105, 0x2106, 0x2A74, 0xFE13, 0xFE16, 0xFE55, 0xFE56,
    0xFE5F, 0xFE6B, 0xFF03, 0xFF0F, 0xFF1A, 0xFF1F, 0xFF20]

def bracketFault? (authority : Text) : Option UrlFault :=
  let opens := authority.contains '['
  let closes := authority.contains ']'
  if opens != closes then some .brackets
  else if opens then
    match bracketedHost? authority with
    | some host => addressFault? host
    | none => some .brackets
  else none

def authorityFault? (authority : Text) : Option UrlFault :=
  (bracketFault? authority).or
    (if authority.any (hiddenSeparators.contains ·.toNat) then some (.hiddenSeparator authority)
      else none)

/-- The parts of a location; without a scheme of its own it has `scheme`. -/
def split (t : Text) (scheme : Text) : Except UrlFault Url :=
  let t := (t.dropWhile isSkipped).filter (!isDropped ·)
  let (own, rest) := schemeSplit t
  let (authority, rest) := authoritySplit rest
  match authorityFault? authority with
  | some fault => .error fault
  | none =>
    let (rest, fragment) := cutAt "#" rest
    let (path, query) := cutAt "?" rest
    .ok ⟨if own.isEmpty then scheme else own, authority, path, query, fragment⟩

def networkSchemes : List Text := ["http", "https"]

/-- The written form; a location on the network has a double slash even without a host. -/
def render (u : Url) : Text :=
  let isHosted := !u.authority.isEmpty ||
    (networkSchemes.contains u.scheme && !"//".toList.isPrefixOf u.path)
  let path := if isHosted && !u.path.isEmpty && u.path.head? != some '/' then '/' :: u.path
    else u.path
  Text.onlyIf (!u.scheme.isEmpty) (u.scheme ++ ":") ++
    Text.onlyIf isHosted ("//" ++ u.authority) ++ path ++
    Text.onlyIf (!u.query.isEmpty) ('?' :: u.query) ++
    Text.onlyIf (!u.fragment.isEmpty) ('#' :: u.fragment)

/-- Path segments with the dots resolved; `kept` holds the segments so far, the last one first. -/
def resolveDots (kept : List Text) : List Text → List Text
  | [] => kept.reverse
  | segment :: rest =>
    if segment = ".." then resolveDots kept.tail rest
    else if segment = "." then resolveDots kept rest
    else resolveDots (segment :: kept) rest

/-- The segments without the empty ones between the first and the last. -/
def withoutInnerBlanks : List Text → List Text
  | [] => []
  | first :: rest => first :: (rest.dropLast.filter (!·.isEmpty) ++ rest.getLast?.toList)

/-- The path of a reference below the directory of the base path. -/
def joinPaths (base path : Text) : Text :=
  let own := Text.fields '/' path
  let directory := Text.fields '/' base
  let directory := if directory.getLast? = some [] then directory else directory.dropLast
  let segments := if path.head? = some '/' then own else withoutInnerBlanks (directory ++ own)
  let resolved := resolveDots [] segments
  let isDirectory := segments.getLast? = some ".".toList || segments.getLast? = some "..".toList
  let joined := Text.join "/" (if isDirectory then resolved ++ [[]] else resolved)
  if joined.isEmpty then "/" else joined

/-- The path and the parameters of its last segment, with their semicolon. -/
def parameterSplit (path : Text) : Text × Text :=
  let last := (Text.cutLast? "/" path).map (·.2) |>.getD path
  match Text.cut? ";" last with
  | some (_, parameters) =>
    (path.take (path.length - parameters.length - 1), if parameters.isEmpty then [] else ';' :: parameters)
  | none => (path, [])

/-- A reference found in the document at `base`, a location on the network. -/
def join (base reference : Text) : Except UrlFault Text :=
  if reference.isEmpty then .ok base
  else do
    let b ← split base []
    let r ← split reference b.scheme
    if r.scheme ≠ b.scheme || !networkSchemes.contains r.scheme then return reference
    else
      let (basePath, baseParameters) := parameterSplit b.path
      let (path, parameters) := parameterSplit r.path
      if !r.authority.isEmpty then return { r with path := path ++ parameters : Url }.render
      else if path.isEmpty && parameters.isEmpty then
        return { r with
          authority := b.authority
          path := basePath ++ baseParameters
          query := if r.query.isEmpty then b.query else r.query : Url }.render
      else
        return { r with
          authority := b.authority
          path := joinPaths basePath path ++ parameters : Url }.render

end Url

end TypeAtlas
