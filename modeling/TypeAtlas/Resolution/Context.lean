import TypeAtlas.Resolution.Dependency

/-!
What is known while links are followed: which types have been dealt with or wait, which link leads
to a type, and by which path a declaration was found.
-/

namespace TypeAtlas

structure Context where
  visited : Names
  pending : Names
  links : LinkTable
  resolved : Keyed Text Declaration
  ancestry : Keyed Text (List Text)
  depth : Nat
  depthLimit : Int

namespace Context

def start (depthLimit : Int) : Context := ⟨.none, .none, .empty, .empty, .empty, 0, depthLimit⟩

/-- A fresh context with the same limit. -/
def reset (c : Context) : Context := start c.depthLimit

def isPending (c : Context) (name : Text) : Bool := c.pending.has name

def addPending (c : Context) (name : Text) : Context := { c with pending := c.pending.add name }

def dropPending (c : Context) (name : Text) : Context := { c with pending := c.pending.remove name }

def visit (c : Context) (name : Text) : Context := { c with visited := c.visited.add name }

def resolve (c : Context) (name : Text) (d : Declaration) : Context :=
  { c.visit name with resolved := c.resolved.set name d }

def pathTo (c : Context) (name : Text) : List Text := (c.ancestry.get? name).getD []

/-- Remembers the path to a declaration; the first path stays. -/
def recordPath (c : Context) (name : Text) (path : List Text) : Context :=
  { c with ancestry := c.ancestry.setNew name path }

def recordLink (c : Context) (d : Dependency) (target : Text) : Context :=
  { c with links := c.links.set d.fullName target }

/-- Dependencies with the links of a page, which the context remembers. -/
def attach (primary : Option Text) (t : LinkTable) : Context → List Dependency →
    Context × List Dependency
  | c, [] => (c, [])
  | c, d :: ds =>
    let c := match d.linkTo? primary t with
      | some target => c.recordLink d target
      | none => c
    let (c, rest) := attach primary t c ds
    (c, d.attach primary t :: rest)

/-- The dependencies of a declaration; `links` are those of its page, if the page is known. -/
def extract (c : Context) (r : Registry) (primary : Option Text) (d : Declaration)
    (links : Option (List (Text × Text))) (source : Text) : Context × List Dependency :=
  let found := Dependency.ofDeclaration r source d
  match links with
  | some links => attach primary (LinkTable.ofLinks links) c found
  | none => (c, found)

/-- Linked dependencies that are neither resolved nor visited nor accounted for by the registry. -/
def unresolved (c : Context) (r : Registry) (ds : List Dependency) : List Dependency :=
  ds.filter fun d => d.isLinked && !c.resolved.contains d.fullName && !c.visited.has d.fullName &&
    !r.isBuiltin d.fullName

def canResolve (c : Context) (d : Dependency) : Bool :=
  d.isLinked && !c.visited.has d.fullName && !c.isPending d.fullName

end Context

end TypeAtlas
