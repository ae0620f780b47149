import TypeAtlas.Mapping.Conversion

/-!
What is remembered while a registry stays as it is: conversions, answers on what the registry
accounts for, and the bases of generic rules. The step of a conversion is the one that remembers
nothing.
-/

namespace TypeAtlas

abbrev Memo := Keyed Text Text

structure Caches where
  memo : Memo
  builtins : Keyed Text Bool
  /-- bases that have been read, by the patterns they belong to -/
  bases : Keyed Text (Except PatternError Pattern)

namespace Caches

def empty : Caches := ⟨.empty, .empty, .empty⟩

def remember (c : Caches) (raw result : Text) : Caches := { c with memo := c.memo.set raw result }

def noteBuiltin (c : Caches) (t : Text) (answer : Bool) : Caches :=
  { c with builtins := c.builtins.set t answer }

/-- The base of a rule, which is read unless it is known. -/
def baseOf (c : Caches) (rule : GenericRule) : Except PatternError Pattern × Caches :=
  match c.bases.get? rule.pattern with
  | some base => (base, c)
  | none => (rule.base?, { c with bases := c.bases.set rule.pattern rule.base? })

/-- The first of some rules whose base names a type, with or without its scope. No base behind it
is read. -/
def firstRule (c : Caches) (t : TypeTree) : List GenericRule → Option GenericRule × Caches
  | [] => (none, c)
  | rule :: rules =>
    let (base, c) := c.baseOf rule
    if GenericRule.isNamedBy t.base base || GenericRule.isNamedBy t.qualifiedName base then
      (some rule, c)
    else c.firstRule t rules

end Caches

/-- Conversions that remember; they fail where they are nested too deeply. -/
abbrev Recall := StateT Caches Option

namespace Registry

def recallRule (r : Registry) (t : TypeTree) (c : Caches) : Option GenericRule × Caches :=
  if t.isGeneric then c.firstRule t r.genericRules else (none, c)

/-- The rule for a generic type, by bases that are remembered. -/
def ruleFor {m : Type → Type} [MonadStateOf Caches m] (r : Registry) (t : TypeTree) :
    m (Option GenericRule) := modifyGet (r.recallRule t)

/-- Conversion that looks into the memo first and adds every result to it. -/
def remembered (r : Registry) : Nat → Text → Recall Text
  | 0, _ => failure
  | depth + 1, raw => do
    match (← get).memo.get? raw with
    | some known => pure known
    | none =>
      let result ← r.convertStep r.ruleFor (r.remembered depth) raw
      modify (·.remember raw result)
      pure result

end Registry

end TypeAtlas
