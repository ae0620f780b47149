import TypeAtlas.Mapping.Cache

/-!
A registry in use. Conversions and answers are remembered until the registry changes; every change
counts as a generation, and those who listen are told its number.
-/

namespace TypeAtlas

inductive MapperError
  | tooDeep
  | notListening
  | rejected (r : Rejection)

namespace MapperError

def message : MapperError → Text
  | tooDeep => "maximum recursion depth exceeded"
  | notListening => "list.remove(x): x not in list"
  | rejected r => r.message

end MapperError

/-- What is known about a signature. -/
structure TypeInfo where
  canConvert : Bool
  target : Text
  category : Option Text
  deriving DecidableEq, Repr

def TypeInfo.entries (i : TypeInfo) : List (Text × Json) :=
  [("can_convert", .bool i.canConvert), ("target_type", .text i.target),
    ("category", .ofText? i.category)]

/-- A listener may be registered several times; `records` holds for each what it was told. -/
structure Mapper where
  registry : Registry
  generation : Nat
  caches : Caches
  invalidations : Nat
  listeners : List Text
  records : Keyed Text (List Nat)

namespace Mapper

/-- The deepest nesting of conversions. -/
def depth : Nat := 1000

/-- A mapper on a registry that has seen `generation` changes. -/
def attach (registry : Registry) (generation : Nat) : Mapper :=
  ⟨registry, generation, .empty, 0, [], .empty⟩

def empty : Mapper := attach .empty 0

def ofConfig (c : MappingConfig) : Mapper := attach (.ofConfig c) 1

/-- Adds the number of a generation to the record of one listener. -/
def tell (generation : Nat) (records : Keyed Text (List Nat)) (listener : Text) :
    Keyed Text (List Nat) :=
  records.set listener ((records.get? listener).getD [] ++ [generation])

/-- A changed registry: what was remembered is dropped and all listeners are told. -/
def changed (s : Mapper) (registry : Registry) : Mapper :=
  let generation := s.generation + 1
  { s with
    registry
    generation
    caches := .empty
    invalidations := s.invalidations + 1
    records := s.listeners.foldl (tell generation) s.records }

def load (s : Mapper) (c : MappingConfig) : Mapper := s.changed (.ofConfig c)

def register (s : Mapper) (d : Definition) : Mapper := s.changed (s.registry.register d)

def addRule (s : Mapper) (rule : CustomRule) : Mapper := s.changed (s.registry.addRule rule)

def clearCache (s : Mapper) : Mapper := s.changed s.registry

def ofChecked (x : Checked α) : Except MapperError α := x.toExcept.mapError .rejected

def loadJson (s : Mapper) (v : Json) : Except MapperError Mapper :=
  (ofChecked (MappingConfig.check v)).map s.load

def registerJson (s : Mapper) (v : Json) : Except MapperError Mapper :=
  (ofChecked (Definition.check v)).map s.register

def addRuleJson (s : Mapper) (v : Json) : Except MapperError Mapper :=
  (ofChecked (CustomRule.check v)).map s.addRule

/-- Defines `name` without description or aliases. -/
def addMapping (s : Mapper) (name target category : Text) : Except MapperError Mapper :=
  s.registerJson (.object [("name", .text name), ("targetType", .text target),
    ("category", .text category)])

def listen (s : Mapper) (listener : Text) : Mapper :=
  { s with listeners := s.listeners ++ [listener], records := s.records.setNew listener [] }

/-- Takes back one registration. A listener that has none fails, but from then on has a record. -/
def unlisten (s : Mapper) (listener : Text) : Except MapperError Unit × Mapper :=
  let s := { s with records := s.records.setNew listener [] }
  if s.listeners.contains listener then (.ok (), { s with listeners := s.listeners.erase listener })
  else (.error .notListening, s)

/-- Work that leaves its mark on what is remembered. -/
def consult (s : Mapper) (work : StateM Caches α) : α × Mapper :=
  let (a, caches) := work.run s.caches
  (a, { s with caches })

/-- Work that may be nested too deeply; then nothing of it is remembered. -/
def run (s : Mapper) (conversion : Recall Text) : Except MapperError (Text × Mapper) :=
  match conversion.run s.caches with
  | some (result, caches) => .ok (result, { s with caches })
  | none => .error .tooDeep

def convertWithin (s : Mapper) (depth : Nat) (raw : Text) : Except MapperError (Text × Mapper) :=
  s.run (s.registry.remembered depth raw)

def convert (s : Mapper) (raw : Text) : Except MapperError (Text × Mapper) :=
  s.convertWithin depth raw

def resolveGenericsWithin (s : Mapper) (depth : Nat) (t : Text) :
    Except MapperError (Text × Mapper) :=
  s.run (s.registry.resolveGenericsStep (s.registry.remembered depth) t)

def resolveGenerics (s : Mapper) (t : Text) : Except MapperError (Text × Mapper) :=
  s.resolveGenericsWithin depth t

def genericRule? (s : Mapper) (t : TypeTree) : Option GenericRule × Mapper :=
  s.consult (s.registry.ruleFor t)

def canConvert (s : Mapper) (raw : Text) : Bool × Mapper :=
  s.consult (s.registry.canConvertStep s.registry.ruleFor raw)

def typeInfoWithin (s : Mapper) (depth : Nat) (raw : Text) :
    Except MapperError (TypeInfo × Mapper) := do
  let (canConvert, s) := s.canConvert raw
  let (target, s) ← s.convertWithin depth raw
  return (⟨canConvert, target, (s.registry.definitionOf? raw).map (·.category)⟩, s)

def typeInfo (s : Mapper) (raw : Text) : Except MapperError (TypeInfo × Mapper) :=
  s.typeInfoWithin depth raw

/-- What is known about each of some signatures. -/
def describeAll (s : Mapper) : List Text → Except MapperError (List Json)
  | [] => .ok []
  | raw :: rest => do
    let (info, s) ← s.typeInfo raw
    return .object (("signature", .text raw) :: info.entries) :: (← s.describeAll rest)

def isBuiltin (s : Mapper) (t : Text) : Bool × Mapper :=
  match s.caches.builtins.get? t with
  | some known => (known, s)
  | none =>
    let (answer, s) := s.consult (s.registry.isBuiltinStep s.registry.ruleFor t)
    (answer, { s with caches := s.caches.noteBuiltin t answer })

/-- The number of remembered conversions. -/
def cacheSize (s : Mapper) : Nat := s.caches.memo.size

end Mapper

end TypeAtlas
