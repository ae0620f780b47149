import TypeAtlas.Page.Parsed
import TypeAtlas.Resolution.Context
import TypeAtlas.Resolution.Repository
import TypeAtlas.Resolution.Settings
import TypeAtlas.Resolution.Warning

/-!
Following links round by round. All pages of a round are fetched before any of them is merged; then
the new declarations are scanned for the work of the next round. A dependency whose name lies on
the path that led to it closes a cycle and is reported instead of fetched.
-/

namespace TypeAtlas

/-- Where pages come from, and how links and names lead to their locations. -/
structure Fetcher where
  fetch : Text → Except PageFault ParsedPage
  resolve : Text → Text → Except PageFault Text
  guess : Text → Text → Except PageFault Text

/-- A dependency that waits for its page, with the path of declarations that led to it. -/
structure Item where
  dependency : Dependency
  location : Text
  path : List Text
  deriving DecidableEq, Repr

namespace Item

def name (i : Item) : Text := i.dependency.fullName

def isOnPath (i : Item) : Bool := i.path.contains i.name

theorem isOnPath_iff {i : Item} : i.isOnPath = true ↔ i.name ∈ i.path := List.contains_iff_mem

theorem isOnPath_eq_false_iff {i : Item} : i.isOnPath = false ↔ i.name ∉ i.path := by
  rw [← isOnPath_iff, Bool.not_eq_true]

end Item

/-- The work that was settled together. -/
structure Round where
  number : Nat
  items : List Item
  deriving DecidableEq, Repr

structure Stats where
  resolved : Nat
  unresolved : Nat
  circular : Nat
  deferred : Nat
  depth : Nat
  rounds : Nat
  isCapped : Bool
  deriving DecidableEq, Repr

namespace Stats

def zero : Stats := ⟨0, 0, 0, 0, 0, 0, false⟩

def toJson (s : Stats) : Json :=
  .object [("resolved_types", .nat s.resolved), ("unresolved_types", .nat s.unresolved),
    ("circular_references", .nat s.circular), ("deferred_namespaces", .nat s.deferred),
    ("max_depth", .nat s.depth), ("iterations", .nat s.rounds), ("cap_reached", .bool s.isCapped)]

def shown (s : Stats) : Text :=
  "ResolutionStats(resolved=" ++ Text.ofNat s.resolved ++ ", unresolved=" ++
    Text.ofNat s.unresolved ++ ", circular=" ++ Text.ofNat s.circular ++ ", deferred=" ++
    Text.ofNat s.deferred ++ ", max_depth=" ++ Text.ofNat s.depth ++ ", iterations=" ++
    Text.ofNat s.rounds ++ ", cap_reached=" ++ (Json.bool s.isCapped).shown ++ ")"

end Stats

structure Resolver where
  context : Context
  rounds : List Round
  pending : Keyed Text Item
  /-- declarations whose dependencies have been looked at -/
  scanned : Names
  circular : Names
  /-- the pages of declarations, as far as they were kept -/
  pages : Keyed Text PageLinks
  stats : Stats

namespace Resolver

def start (roundLimit : Nat) : Resolver :=
  ⟨.start roundLimit, [], .empty, .none, .none, .empty, .zero⟩

/-- Forgets everything but the limit of the context. -/
def reset (r : Resolver) : Resolver := ⟨r.context.reset, [], .empty, .none, .none, .empty, .zero⟩

end Resolver

/-- What decides how links are followed. -/
structure Guide where
  registry : Registry
  settings : Settings
  fetcher : Fetcher

/-- A resolver at work on a repository, with the locations it fetched and its warnings so far. -/
structure Run where
  resolver : Resolver
  repository : Repository
  fetched : List Text
  warnings : List Warning

/-- Work that may fail; what was done before the failure stays done. -/
abbrev Work := ExceptT PageFault (StateM Run)

/-- What became of an item. -/
inductive Outcome
  | skipped
  | circular (name : Text) (path : List Text)
  | deferred
  | page (p : ParsedPage)
  | failed (fault : PageFault)

namespace Run

def start (roundLimit : Nat) : Run := ⟨.start roundLimit, .empty, [], []⟩

def warn (s : Run) (w : Warning) : Run := { s with warnings := s.warnings ++ [w] }

def noteFetch (s : Run) (location : Text) : Run := { s with fetched := s.fetched ++ [location] }

def onContext (s : Run) (f : Context → Context) : Run :=
  { s with resolver := { s.resolver with context := f s.resolver.context } }

def onStats (s : Run) (f : Stats → Stats) : Run :=
  { s with resolver := { s.resolver with stats := f s.resolver.stats } }

def countUnresolved (s : Run) : Run := s.onStats fun t => { t with unresolved := t.unresolved + 1 }

/-- Whether an item needs its page. -/
def needsPage (s : Run) (i : Item) : Bool :=
  !s.resolver.circular.has i.name && !i.isOnPath && !Location.isNamespacePage i.location

/-- What an item comes to when its round begins. -/
def outcome (g : Guide) (s : Run) (i : Item) : Outcome :=
  if s.resolver.circular.has i.name then .skipped
  else if i.isOnPath then .circular i.name i.path
  else if Location.isNamespacePage i.location then .deferred
  else match g.fetcher.fetch i.location with
    | .ok p => .page p
    | .error (.unexplained (.cycle name path)) => .circular name path
    | .error fault => .failed fault

/-- Remembers a declaration, the path that led to it, and its page. -/
def record (s : Run) (d : Declaration) (kept : Option PageLinks) (path : List Text) : Run :=
  let s := s.onContext fun c => (c.resolve d.fullName d).recordPath d.fullName path
  match kept with
  | none => s
  | some p =>
    { s with resolver := { s.resolver with pages := s.resolver.pages.setNew d.fullName p } }

def store (s : Run) (d : Declaration) : Run :=
  { s with repository := (s.repository.add d.fullName d).2 }

/-- Reports a cycle; a name counts once. -/
def recordCircular (s : Run) (name : Text) (path : List Text) : Run :=
  let s := if s.resolver.circular.has name then s
    else
      let s := s.onStats fun t => { t with circular := t.circular + 1 }
      { s with resolver := { s.resolver with circular := s.resolver.circular.add name } }
  s.warn (.circular name path)

def mergePage (s : Run) (i : Item) (p : ParsedPage) : Run :=
  match p.declaration with
  | none => s.countUnresolved.warn (.noDeclaration i.location i.name)
  | some d =>
    let s := (s.store d).record d p.kept i.path
    (s.onContext (·.visit i.name)).onStats fun t => { t with resolved := t.resolved + 1 }

def defer (s : Run) (i : Item) : Run :=
  let s := { s with repository := s.repository.discover i.location }
  s.onStats fun t => { t with deferred := t.deferred + 1 }

/-- Settles an item of a round. -/
def settle (s : Run) (i : Item) (o : Outcome) : Run :=
  let s := s.onContext (·.dropPending i.name)
  match o with
  | .skipped => s
  | .circular name path => s.recordCircular name path
  | .deferred => s.defer i
  | .page p => s.mergePage i p
  | .failed fault =>
    s.countUnresolved.warn
      (if fault.isNamed then .failed i.name fault else .unexpected i.name i.location)

def settleAll (s : Run) (settled : List (Item × Outcome)) : Run :=
  settled.foldl (fun s (i, o) => s.settle i o) s

/-- Takes the pending items into a new round. -/
def openRound (s : Run) (number : Nat) : Run :=
  { s with resolver := { s.resolver with
      rounds := s.resolver.rounds ++ [⟨number, s.resolver.pending.values⟩]
      pending := .empty } }

def closeRound (s : Run) (number : Nat) : Run :=
  (s.onStats fun t => { t with rounds := number, depth := max t.depth number }).onContext
    fun c => { c with depth := number }

/-- One round: all pages are fetched, then all outcomes are settled in order. -/
def round (g : Guide) (s : Run) : Run :=
  let number := s.resolver.stats.rounds + 1
  let items := s.resolver.pending.values
  let s := s.openRound number
  let needed := (items.filter s.needsPage).map (·.location)
  let settled := items.map fun i => (i, s.outcome g i)
  let s := { s with fetched := s.fetched ++ needed }
  (s.settleAll settled).closeRound number

/-- Whether a dependency found in `parent` is not worth a look. -/
def isSettled (s : Run) (parent : Text) (d : Dependency) : Bool :=
  !d.isLinked || d.fullName = parent || s.resolver.circular.has d.fullName ||
    s.resolver.pending.contains d.fullName || s.resolver.context.isPending d.fullName

def isKnown (s : Run) (d : Dependency) : Bool :=
  s.resolver.context.visited.has d.fullName || s.repository.has d.fullName

def enqueue (s : Run) (i : Item) : Run :=
  let s := s.onContext (·.addPending i.name)
  { s with resolver := { s.resolver with pending := s.resolver.pending.set i.name i } }

/-- Schedules a dependency found in `parent`. A location is visited once; only a dependency that
closes a cycle is scheduled for the report alone. -/
def schedule (g : Guide) (parent : Text) (d : Dependency) : Work Unit := do
  let s ← get
  if s.isSettled parent d then return
  let path := s.resolver.context.pathTo parent ++ [parent]
  if path.contains d.fullName then
    let location ← liftM (g.fetcher.resolve (d.link.getD []) d.source)
    modify (·.enqueue ⟨d, location, path⟩)
  else if !s.isKnown d then
    let location ← liftM (g.fetcher.resolve (d.link.getD []) d.source)
    unless s.repository.visited.has location do
      modify fun s => { s with repository := s.repository.visit location }
      modify (·.enqueue ⟨d, location, path⟩)

/-- Looks for the page of a declaration whose page is not known. -/
def recover (g : Guide) (name : Text) : Work (Option PageLinks) :=
  match g.settings.documentRoot with
  | none => return none
  | some root => do
    let location ← liftM (g.fetcher.guess name root)
    modify (·.noteFetch location)
    match g.fetcher.fetch location with
    | .ok p =>
      match p.kept with
      | none => return none
      | some found =>
        modify fun s => { s with resolver := { s.resolver with
          pages := s.resolver.pages.set name found } }
        return some found
    | .error fault => if fault.isExpected then return none else throw fault

def pageOf (g : Guide) (name : Text) : Work (Option PageLinks) := do
  match (← get).resolver.pages.get? name with
  | some p => return some p
  | none => recover g name

/-- The dependencies of a declaration, with the links of its page. -/
def dependencies (g : Guide) (name : Text) (d : Declaration) (p : Option PageLinks) :
    Work (List Dependency) := do
  let s ← get
  let (context, found) := s.resolver.context.extract g.registry g.settings.primaryNamespace d
    (p.map (·.links)) ((p.map (·.source)).getD name)
  modify (·.onContext fun _ => context)
  return found

/-- Schedules what a declaration refers to, unless that has been done. -/
def scan (g : Guide) (name : Text) (d : Declaration) : Work Unit := do
  if (← get).resolver.scanned.has name then return
  modify fun s => { s with resolver := { s.resolver with scanned := s.resolver.scanned.add name } }
  let page ← pageOf g name
  (← dependencies g name d page).forM (schedule g name)

def discover (g : Guide) : Work Unit := do
  (← get).repository.declarations.entries.forM fun (name, d) => scan g name d

/-- Marks that work was left when the rounds were used up. -/
def cap (g : Guide) (s : Run) : Run :=
  (s.onStats fun t => { t with isCapped := true }).warn
    (.roundLimit g.settings.roundLimit s.resolver.pending.size)

/-- At most `left` rounds, until nothing is pending. -/
def roundsFrom (g : Guide) : Nat → Work Unit
  | 0 => do
    unless (← get).resolver.pending.entries.isEmpty do modify (cap g)
  | left + 1 => do
    unless (← get).resolver.pending.entries.isEmpty do
      modify (round g)
      discover g
      roundsFrom g left

/-- Resolves the dependencies of every declaration of the repository until nothing new is found. -/
def resolveAll (g : Guide) : Work Stats := do
  discover g
  roundsFrom g (g.settings.roundLimit - (← get).resolver.stats.rounds)
  let s ← get
  unless s.resolver.circular.entries.isEmpty do
    modify (·.warn (.circularNames s.resolver.circular.sorted))
  return s.resolver.stats

/-- Begins with a page that has been read; tells whether it held a declaration. -/
def seed (s : Run) (p : ParsedPage) : Bool × Run :=
  let s := { s with repository := s.repository.visit p.source }
  match p.declaration with
  | none =>
    let s := if p.isNamespace then { s with repository := s.repository.discover p.source } else s
    (false, s.warn (.emptySeed p.source))
  | some d => (true, (s.record d p.kept []).store d)

def addEnum (s : Run) (e : EnumType) : EnumOutcome × Run :=
  let (outcome, repository) := s.repository.addEnum e
  let s := { s with repository }
  (outcome, if outcome = .differs then s.warn (.enumDiffers e.name) else s)

/-- Adds enumerations; the count goes up for each that is new. -/
def addEnums (s : Run) (count : Nat) : List EnumType → Nat × Run
  | [] => (count, s)
  | e :: es =>
    let (outcome, s) := s.addEnum e
    s.addEnums (if outcome = .added then count + 1 else count) es

/-- The enumerations of one namespace page; a page that cannot be had is passed over. -/
def collectFrom (g : Guide) (count : Nat) (location : Text) : Work Nat := do
  modify (·.noteFetch location)
  match g.fetcher.fetch location with
  | .error fault =>
    if fault.isExpected then
      modify (·.warn (.skipped location fault))
      return count
    else throw fault
  | .ok p =>
    match p.namespaceInfo with
    | none => return count
    | some info =>
      let (count, s) := (← get).addEnums count info.enums
      set s
      return count

/-- Reads all namespace pages that wait, and tells how many enumerations they added. -/
def collectEnums (g : Guide) : Work Nat := do
  (← get).repository.discovered.inOrder.foldlM (collectFrom g) 0

end Run

end TypeAtlas
