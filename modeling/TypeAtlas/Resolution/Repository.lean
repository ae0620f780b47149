import TypeAtlas.Declaration.Basic
import TypeAtlas.Store.Names

/-!
What has been found so far: declarations by name, enumerations of namespaces, the locations that
have been visited, and the namespace pages that wait to be read.
-/

namespace TypeAtlas

structure Repository where
  declarations : Keyed Text Declaration
  /-- how often a declaration came under a name that was taken -/
  merged : Nat
  enums : Keyed Text EnumType
  visited : Names
  discovered : Names

/-- What became of an enumeration that was added. -/
inductive EnumOutcome
  | added | known | differs
  deriving DecidableEq, Repr

namespace Repository

def empty : Repository := ⟨.empty, 0, .empty, .none, .none⟩

def has (r : Repository) (key : Text) : Bool := r.declarations.contains key

def get? (r : Repository) (key : Text) : Option Declaration := r.declarations.get? key

def notFound (key : Text) : Text := "Declaration '" ++ key ++ "' not found"

/-- Adds a declaration; tells whether the key was new. A declaration under a key that is taken only
adds the enumerations that the stored one lacks. -/
def add (r : Repository) (key : Text) (d : Declaration) : Bool × Repository :=
  match r.declarations.get? key with
  | some stored =>
    let kept := { stored with enums := EnumType.distinct (stored.enums ++ d.enums) }
    (false, { r with declarations := r.declarations.set key kept, merged := r.merged + 1 })
  | none =>
    let kept := { d with enums := EnumType.distinct d.enums }
    (true, { r with declarations := r.declarations.set key kept })

/-- Each addition stores a declaration or counts as merged. -/
theorem size_add (r : Repository) (key : Text) (d : Declaration) :
    (r.add key d).2.declarations.size + (r.add key d).2.merged =
      r.declarations.size + r.merged + 1 := by
  unfold add
  cases h : r.declarations.get? key with
  | none =>
    have hsize := Keyed.size_set_of_not_mem
      (v := { d with enums := EnumType.distinct d.enums }) (Keyed.get?_eq_none_iff.mp h)
    simp only [hsize]
    omega
  | some stored =>
    have hsize := Keyed.size_set_of_mem
      (v := { stored with enums := EnumType.distinct (stored.enums ++ d.enums) })
      (Keyed.mem_keys_iff.mpr ⟨stored, h⟩)
    simp only [hsize]
    omega

theorem mem_keys_add {r : Repository} {key x : Text} {d : Declaration} :
    x ∈ (r.add key d).2.declarations.keys ↔ x = key ∨ x ∈ r.declarations.keys := by
  unfold add
  split <;> exact Keyed.mem_keys_set

theorem get?_add_of_not_mem {r : Repository} {key x : Text} {d : Declaration}
    (h : key ∉ r.declarations.keys) : (r.add key d).2.declarations.get? x =
      if x = key then some { d with enums := EnumType.distinct d.enums }
      else r.declarations.get? x := by
  unfold add
  rw [Keyed.get?_eq_none_iff.mpr h]
  exact Keyed.get?_set _ _ _ _

def inNamespace (r : Repository) (scope : Text) : List Declaration :=
  r.declarations.values.filter (·.scope = scope)

def inheriting (r : Repository) (base : Text) : List Declaration :=
  r.declarations.values.filter (·.parents.contains base)

/-- Adds an enumeration of a namespace; the first one of a name stays. -/
def addEnum (r : Repository) (e : EnumType) : EnumOutcome × Repository :=
  match r.enums.get? e.name with
  | none => (.added, { r with enums := r.enums.set e.name e })
  | some stored => (if stored.signature = e.signature then .known else .differs, r)

def visit (r : Repository) (location : Text) : Repository :=
  { r with visited := r.visited.add location }

def discover (r : Repository) (location : Text) : Repository :=
  { r with discovered := r.discovered.add location }

def clearDeclarations (r : Repository) : Repository := { r with declarations := .empty, merged := 0 }

def clearEnums (r : Repository) : Repository := { r with enums := .empty }

def clearPages (r : Repository) : Repository := { r with visited := .none, discovered := .none }

/-- The sum of a count over all declarations. -/
def total (r : Repository) (count : Declaration → Nat) : Nat :=
  r.declarations.values.foldl (fun n d => n + count d) 0

def counts (r : Repository) : List (Text × Nat) := [
  ("declarations", r.declarations.size),
  ("enums", r.total (·.enums.length)),
  ("global_enums", r.enums.size),
  ("methods", r.total fun d => d.methods.length + d.slots.length),
  ("signals", r.total (·.signals.length)),
  ("documents", r.visited.size),
  ("namespace_documents", r.discovered.size),
  ("duplicates_merged", r.merged)]

def countsJson (r : Repository) : Json := .object (r.counts.map fun (k, n) => (k, .nat n))

end Repository

end TypeAtlas
