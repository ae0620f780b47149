import TypeAtlas.Schema.Check

/-!
Limits and hints for following links.
-/

namespace TypeAtlas

structure Settings where
  roundLimit : Nat
  primaryNamespace : Option Text
  documentRoot : Option Text
  roundLimit_pos : 0 < roundLimit := by decide

namespace Settings

def defaultRoundLimit : Nat := 50

def default : Settings := ⟨defaultRoundLimit, none, none, by decide⟩

/-- Why no round can be run. -/
def tooFewRounds : Text := "max_iterations must be at least 1"

/-- Settings with a limit of `n` rounds. -/
def withLimit? (n : Int) (primaryNamespace documentRoot : Option Text) : Option Settings :=
  if h : 1 ≤ n then some ⟨n.toNat, primaryNamespace, documentRoot, by omega⟩ else none

def roundLimitField : FieldName := .same "max_iterations"
def primaryNamespaceField : FieldName := .same "primary_namespace"
def documentRootField : FieldName := .same "document_root"

/-- The name under which issues are reported. -/
def title : Text := "ResolverSettings"

def positive (v : Json) : Checked { n : Nat // 0 < n } :=
  (Schema.integer v).andThen fun n =>
    if h : 1 ≤ n then .value ⟨n.toNat, by omega⟩ else .issue .belowOne v

def check : Json → Checked Settings := Schema.object fun es =>
  (fun roundLimit primaryNamespace documentRoot _ =>
      Settings.mk roundLimit.1 primaryNamespace documentRoot roundLimit.2) <$>
    Schema.optional roundLimitField ⟨defaultRoundLimit, by decide⟩ positive es <*>
    Schema.optional primaryNamespaceField none Schema.text? es <*>
    Schema.optional documentRootField none Schema.text? es <*>
    Schema.noExtras [roundLimitField, primaryNamespaceField, documentRootField] es

def read (v : Json) : Except (List Issue) Settings := (check v).toExcept.mapError (·.found)

def toJson (s : Settings) : Json :=
  .object ([Json.entry "max_iterations" (.nat s.roundLimit)] ++
    (s.primaryNamespace.map fun t => Json.entry "primary_namespace" (.text t)).toList ++
    (s.documentRoot.map fun t => Json.entry "document_root" (.text t)).toList)

end Settings

end TypeAtlas
