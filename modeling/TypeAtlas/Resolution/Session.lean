import TypeAtlas.Page.Fetch
import TypeAtlas.Resolution.Resolver

/-!
A whole session: from one page on, links are followed and the enumerations of namespaces gathered.
-/

namespace TypeAtlas

namespace Shelf

def fetcher (s : Shelf) (onlyScripted : Bool) : Fetcher where
  fetch := s.fetch onlyScripted
  resolve link source := (Location.resolve link source).mapError .badLocation
  guess name root := (Location.guess name root).mapError .badLocation

/-- Everything that can be declared counts, whether scripts can use it or not. -/
def guide (s : Shelf) (settings : Settings) (registry : Registry) : Guide :=
  ⟨registry, settings, s.fetcher false⟩

end Shelf

/-- The outcome of a session. -/
structure SessionResult where
  run : Run
  stats : Stats
  enumsAdded : Nat

namespace SessionResult

def repository (s : SessionResult) : Repository := s.run.repository

def circular (s : SessionResult) : List Text := s.run.resolver.circular.sorted

def summary (s : SessionResult) : Json :=
  .object [("stats", s.stats.toJson), ("repository", s.repository.countsJson),
    ("declarations", .texts (Text.sort s.repository.declarations.keys)),
    ("circular_references", .texts s.circular),
    ("global_enums", .texts (Text.sort s.repository.enums.keys)),
    ("namespace_enums_added", .nat s.enumsAdded)]

end SessionResult

namespace Run

def sessionFrom (g : Guide) (page : ParsedPage) (collects : Bool) : Work (Stats × Nat) := do
  modify fun s => (s.seed page).2
  let stats ← resolveAll g
  return (stats, ← if collects then collectEnums g else pure 0)

end Run

/-- Reads the page at a location and follows its links. -/
def resolveDocument (g : Guide) (location : Text) (collects : Bool) :
    Except PageFault SessionResult := do
  let page ← g.fetcher.fetch location
  match (Run.sessionFrom g page collects).run (Run.start g.settings.roundLimit) with
  | (.ok (stats, enumsAdded), run) => return ⟨run, stats, enumsAdded⟩
  | (.error fault, _) => throw fault

/-- The locations that a session asks for, also when it fails. -/
def askedFor (g : Guide) (location : Text) (collects : Bool) : List Text :=
  match g.fetcher.fetch location with
  | .ok page =>
    location ::
      ((Run.sessionFrom g page collects).run (Run.start g.settings.roundLimit)).2.fetched
  | .error _ => [location]

end TypeAtlas
