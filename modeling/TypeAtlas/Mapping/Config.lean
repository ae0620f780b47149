import TypeAtlas.Schema.Check
import TypeAtlas.Mapping.Rule

/-!
Configurations as JSON. Reading checks every part, compiles every pattern, and at last that no two
definitions claim one name.
-/

namespace TypeAtlas

namespace Definition

def nameField : FieldName := .same "name"
def targetField : FieldName := ⟨"targetType", "target_type"⟩
def categoryField : FieldName := .same "category"
def descriptionField : FieldName := .same "description"
def aliasesField : FieldName := .same "aliases"

def check : Json → Checked Definition := Schema.object fun es =>
  (fun name target category description aliases _ =>
      Definition.mk name target category description aliases) <$>
    Schema.required nameField Schema.someText es <*>
    Schema.required targetField Schema.someText es <*>
    Schema.required categoryField Schema.someText es <*>
    Schema.optional descriptionField none Schema.text? es <*>
    Schema.optional aliasesField [] (Schema.list Schema.text) es <*>
    Schema.noExtras [nameField, targetField, categoryField, descriptionField, aliasesField] es

end Definition

def describedBy (description : Option Text) : List (Text × Json) :=
  (description.map fun d => Json.entry "description" (.text d)).toList

def Definition.toJson (d : Definition) : Json :=
  .object ([Json.entry "name" (.text d.name), Json.entry "targetType" (.text d.target),
    Json.entry "category" (.text d.category)] ++ describedBy d.description ++
    [Json.entry "aliases" (.texts d.aliases)])

/-- What is wrong with a text whose pattern cannot be compiled. A number in the pattern may be too
large to go on; one that is too long to be read is reported by itself, as are flags that exclude one
another. -/
def Schema.patternIssue (title t pattern : Text) (e : PatternError) (v : Json) : Checked α :=
  match e.fault with
  | .repetitionTooLarge => .stopped .repetitionTooLarge
  | .longNumber _ | .characterSets => .issue (.invalid e.fault.message) v
  | _ => .issue (.invalid (title ++ t.quoted ++ ": " ++ e.message pattern)) v

namespace GenericRule

def patternField : FieldName := .same "pattern"
def replacementField : FieldName := .same "replacement"
def descriptionField : FieldName := .same "description"

def checkPattern (v : Json) : Checked Text :=
  (Schema.someText v).andThen fun t =>
    match Pattern.ofText (baseText t) with
    | .ok _ => .value t
    | .error e => Schema.patternIssue "invalid base type pattern in " t (baseText t) e v

def check : Json → Checked GenericRule := Schema.object fun es =>
  (fun pattern replacement description _ => GenericRule.mk pattern replacement description) <$>
    Schema.required patternField checkPattern es <*>
    Schema.required replacementField Schema.text es <*>
    Schema.optional descriptionField none Schema.text? es <*>
    Schema.noExtras [patternField, replacementField, descriptionField] es

def toJson (r : GenericRule) : Json :=
  .object ([Json.entry "pattern" (.text r.pattern), Json.entry "replacement" (.text r.replacement)] ++
    describedBy r.description)

end GenericRule

namespace ScopeRule

def sourceField : FieldName := ⟨"sourceNamespace", "source_namespace"⟩
def targetField : FieldName := ⟨"targetNamespace", "target_namespace"⟩
def strippedField : FieldName := ⟨"stripNamespace", "strip_namespace"⟩

def check : Json → Checked ScopeRule := Schema.object fun es =>
  (fun source target isStripped _ => ScopeRule.mk source target isStripped) <$>
    Schema.required sourceField Schema.someText es <*>
    Schema.required targetField Schema.text es <*>
    Schema.optional strippedField false Schema.boolean es <*>
    Schema.noExtras [sourceField, targetField, strippedField] es

def toJson (r : ScopeRule) : Json :=
  .object [("sourceNamespace", .text r.source), ("targetNamespace", .text r.target),
    ("stripNamespace", .bool r.isStripped)]

end ScopeRule

namespace CustomRule

def kindField : FieldName := .same "kind"
def nameField : FieldName := .same "name"
def priorityField : FieldName := .same "priority"
def descriptionField : FieldName := .same "description"
def patternField : FieldName := .same "pattern"
def templateField : FieldName := .same "template"
def equalsField : FieldName := .same "equals"
def replacementField : FieldName := .same "replacement"

def checkPattern (v : Json) : Checked Text :=
  (Schema.someText v).andThen fun t =>
    match Pattern.ofText t with
    | .ok _ => .value t
    | .error e => Schema.patternIssue "invalid pattern " t t e v

def checkSearch (es : List (Text × Json)) : Checked CustomRule :=
  (fun name priority pattern template description _ =>
      CustomRule.mk name priority (.search pattern template) description) <$>
    Schema.required nameField Schema.someText es <*>
    Schema.optional priorityField 0 Schema.integer es <*>
    Schema.required patternField checkPattern es <*>
    Schema.required templateField Schema.text es <*>
    Schema.optional descriptionField none Schema.text? es <*>
    Schema.noExtras [kindField, nameField, priorityField, patternField, templateField,
      descriptionField] es

def checkEqual (es : List (Text × Json)) : Checked CustomRule :=
  (fun name priority text replacement description _ =>
      CustomRule.mk name priority (.equal text replacement) description) <$>
    Schema.required nameField Schema.someText es <*>
    Schema.optional priorityField 0 Schema.integer es <*>
    Schema.required equalsField Schema.someText es <*>
    Schema.required replacementField Schema.text es <*>
    Schema.optional descriptionField none Schema.text? es <*>
    Schema.noExtras [kindField, nameField, priorityField, equalsField, replacementField,
      descriptionField] es

def searchTag : Text := "regex"

def equalTag : Text := "literal"

/-- The entry `kind` decides which fields a rule has. -/
def check (v : Json) : Checked CustomRule := Schema.object (fun es =>
  match kindField.find? es with
  | none => .issue .noTag v
  | some (.text tag) =>
    if tag = searchTag then (checkSearch es).under tag
    else if tag = equalTag then (checkEqual es).under tag
    else .issue (.unknownTag tag) v
  | some tag => .issue (.unknownTag tag.shown) v) v

def toJson (r : CustomRule) : Json :=
  let common (kind : Text) : List (Text × Json) :=
    [Json.entry "kind" (.text kind), Json.entry "name" (.text r.name),
      Json.entry "priority" (.int r.priority)]
  match r.action with
  | .search pattern template =>
    .object (common searchTag ++ [Json.entry "pattern" (.text pattern),
      Json.entry "template" (.text template)] ++ describedBy r.description)
  | .equal text replacement =>
    .object (common equalTag ++ [Json.entry "equals" (.text text),
      Json.entry "replacement" (.text replacement)] ++ describedBy r.description)

end CustomRule

/-- Two definitions that claim one name. -/
inductive NameClash
  | repeated (name : Text)
  | taken (name owner earlier : Text)
  deriving DecidableEq, Repr

namespace NameClash

def message : NameClash → Text
  | repeated name => "duplicate type name " ++ name.quoted
  | taken name owner earlier =>
    "alias " ++ name.quoted ++ " of " ++ owner.quoted ++ " already names " ++ earlier.quoted

end NameClash

namespace MappingConfig

/-- The names, each owned by itself, unless one occurs twice. -/
def claimNames (owners : List (Text × Text)) : List Definition → Except NameClash (List (Text × Text))
  | [] => .ok owners
  | d :: ds =>
    if (owners.lookup d.name).isSome then .error (.repeated d.name)
    else claimNames ((d.name, d.name) :: owners) ds

/-- The owners with the aliases of one definition, unless another definition owns one of them. -/
def claimAliases (owner : Text) (owners : List (Text × Text)) :
    List Text → Except NameClash (List (Text × Text))
  | [] => .ok owners
  | name :: rest =>
    match owners.lookup name with
    | some earlier =>
      if earlier = owner then claimAliases owner ((name, owner) :: owners) rest
      else .error (.taken name owner earlier)
    | none => claimAliases owner ((name, owner) :: owners) rest

def claimAll (owners : List (Text × Text)) : List Definition → Except NameClash (List (Text × Text))
  | [] => .ok owners
  | d :: ds => do claimAll (← claimAliases d.name owners d.aliases) ds

/-- The first clash between two definitions: among the names, then among the aliases. -/
def clash? (ds : List Definition) : Option NameClash :=
  match (do claimAll (← claimNames [] ds) ds) with
  | .ok _ => none
  | .error e => some e

def definitionsField : FieldName := .same "mappings"
def genericField : FieldName := ⟨"templateMappings", "template_mappings"⟩
def scopeField : FieldName := ⟨"namespaceMappings", "namespace_mappings"⟩
def customField : FieldName := ⟨"customRules", "custom_rules"⟩

def checkParts : Json → Checked MappingConfig := Schema.object fun es =>
  (fun definitions generic scope custom _ => MappingConfig.mk definitions generic scope custom) <$>
    Schema.required definitionsField (Schema.someList Definition.check) es <*>
    Schema.optional genericField [] (Schema.list GenericRule.check) es <*>
    Schema.optional scopeField [] (Schema.list ScopeRule.check) es <*>
    Schema.optional customField [] (Schema.list CustomRule.check) es <*>
    Schema.noExtras [definitionsField, genericField, scopeField, customField] es

def check (v : Json) : Checked MappingConfig :=
  (checkParts v).andThen fun c =>
    match clash? c.definitions with
    | some clash => .issue (.invalid clash.message) v
    | none => .value c

def toJson (c : MappingConfig) : Json :=
  .object [
    ("mappings", .list (c.definitions.map Definition.toJson)),
    ("templateMappings", .list (c.genericRules.map GenericRule.toJson)),
    ("namespaceMappings", .list (c.scopeRules.map ScopeRule.toJson)),
    ("customRules", .list (c.customRules.map CustomRule.toJson))]

/-- Lists and objects in the text of a configuration nest no deeper than this. -/
def deepest : Nat := 200

/-- Reads the text of a configuration. -/
def ofText (t : Text) : Except Rejection MappingConfig :=
  match Json.readWithin deepest t with
  | .ok v => (check v).toExcept
  | .error e => .error (.issues [⟨[], .badJson (e.message t), .text t⟩])

end MappingConfig

end TypeAtlas
