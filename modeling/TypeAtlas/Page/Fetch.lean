import TypeAtlas.Location.Status
import TypeAtlas.Location.WebAddress
import TypeAtlas.Page.Parsed

/-!
Fetching pages: from local files, or over the network, where answers may lead on to other
addresses.
-/

namespace TypeAtlas

namespace Shelf

/-- The most redirects that are followed for one page. -/
def redirectLimit : Nat := 20

def wrongLocation (reason : Text) : Text := "Invalid URL in location header: " ++ reason ++ "."

/-- The host can be read and be sent. -/
def checkHost (a : WebAddress) : Except PageFault WebAddress :=
  match a.labelFault?, a.place.asciiError? with
  | some fault, _ => .error (.badHost fault)
  | none, some e => .error (.notAscii e)
  | none, none => .ok a

/-- An address with a scheme but no host has the host of the page it was found on. -/
def withHost (target a : WebAddress) : Except PageFault WebAddress :=
  if target.scheme.isEmpty then .ok target
  else match target.labelFault? with
    | some fault => .error (.badHost fault)
    | none =>
      if target.host.isEmpty then
        (WebAddress.rebuild target.parts (some a.hostPart)).mapError .badAddress
      else .ok target

/-- Where a redirect found at `a` leads. -/
def redirected (address : Text) (a : WebAddress) (location : Text) : Except PageFault WebAddress := do
  let target ← (WebAddress.ofText location).mapError fun e =>
    .unreachable address (wrongLocation e.message)
  let target ← withHost target a
  let target ← if target.isAbsolute then pure target
    else do
      let joined ← (Url.join a.render target.render).mapError .badLocation
      (WebAddress.ofText joined).mapError .badAddress
  checkHost (← (target.withFragmentOf a).mapError .badAddress)

/-- Status, text and onward location found at an address, unless there is no way to it. -/
def answer? (s : Shelf) (asked : Text) : Except Text (Nat × Text × Option Text) :=
  match s.find? asked with
  | some (.text t) => .ok (200, t, none)
  | some (.response status body location) => .ok (status, body, location)
  | some (.unreachable reason) => .error reason
  | _ => .ok (404, [], none)

/-- The answer at an address, redirects followed at most `limit` times. -/
def ask (s : Shelf) (address : Text) : Nat → WebAddress → Except PageFault Text
  | limit, a =>
    let asked := a.render
    match s.answer? asked with
    | .error reason => .error (.unreachable address reason)
    | .ok (status, body, location) =>
      match location.bind Text.asciiError? with
      | some e => .error (.notAscii e)
      | none =>
        if a.scheme.isEmpty then .error (.badScheme asked)
        else match (if Status.redirecting.contains status then location else none) with
          | some location => do
            let target ← redirected address a location
            match limit with
            | 0 => .error (.unreachable address "Exceeded maximum allowed redirects.")
            | limit + 1 => s.ask address limit target
          | none =>
            if Status.isSuccess status then .ok body
            else .error (.unreachable address (Status.complaint status asked))

def fetchText (s : Shelf) (address : Text) : Except PageFault Text := do
  let a ← (WebAddress.ofText address).mapError .badAddress
  let a ← if a.isAbsolute then pure a else a.bare.mapError .badAddress
  s.ask address redirectLimit (← checkHost a)

/-- The page at a location. Its source is the location asked for. -/
def fetchPage (s : Shelf) (location : Text) : Except PageFault Page := do
  if ← (Location.isNetwork location).mapError .badLocation then
    Page.ofText (← s.fetchText location) location
  else Page.ofText (← (s.readText location).mapError (.unreadable location)) location

def fetch (s : Shelf) (onlyScripted : Bool) (location : Text) : Except PageFault ParsedPage := do
  (← s.fetchPage location).parse onlyScripted

end Shelf

end TypeAtlas
