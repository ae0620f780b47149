import TypeAtlas.Proofs.Mapping.Honouring
import TypeAtlas.Proofs.Signature.Cleaning

/-!
What a conversion rests on. At its top level a conversion follows one rule or one definition, its
ground, or else it passes the type through. Whether a type can be converted is decided in another
way, by the custom and generic rules and by the names that are defined, and so it does not always
tell whether there is a ground; the types on which it does not are listed here.
-/

namespace TypeAtlas

namespace TypeTree

/-- The base name under its own scope, written with dots. -/
def dotted (t : TypeTree) : Text :=
  match t.namespace? with
  | none => t.base
  | some scope => Text.replaceAll "::" "." scope ++ "." ++ t.base

/-- A name with the arguments and the array suffix of the tree, the arguments converted. -/
def written (again : Text → Option Text) (t : TypeTree) (name : Text) : Option Text :=
  (Registry.convertArguments again t).map fun args =>
    suffixed (if t.isGeneric then name ++ "<" ++ Text.join ", " args ++ ">" else name) t.isArray

end TypeTree

def ScopeRule.renamed (rule : ScopeRule) (base : Text) : Text :=
  if rule.isStripped || rule.target.isEmpty then base else rule.target ++ "." ++ base

/-- What a conversion follows at its top level. -/
inductive Ground
  | custom (rule : CustomRule)
  | generic (rule : GenericRule)
  | scope (rule : ScopeRule)
  | definition (d : Definition)
  /-- the definition of the elements of an array -/
  | element (d : Definition)
  deriving DecidableEq, Repr

/-- What a ground makes of a cleaned type. Only what a custom rule makes of it is read again, with
all rules. -/
def Ground.render (r : Registry) (again : Text → Option Text) (clean : Text) :
    Ground → Option Text
  | custom rule => (rule.result? clean).bind (r.resolveGenericsStep again)
  | generic rule => (parse? clean).bind fun t =>
      (Registry.convertArguments again t).map fun args =>
        TypeTree.suffixed (substitute rule.replacement args) t.isArray
  | scope rule => (parse? clean).bind fun t => t.written again (rule.renamed t.base)
  | definition d => some d.target
  | element d => some (d.target ++ TypeTree.arraySuffix)

/-- What becomes of a cleaned type without any ground: a name with a scope or with arguments keeps
its parts, and other text stays as it is. -/
def passedThrough (again : Text → Option Text) (clean : Text) : Option Text :=
  if isSimple clean then some (if clean.isEmpty then Registry.fallback else clean)
  else (parse? clean).bind fun t => t.written again t.dotted

/-! Simple names. -/

theorem isSimple_of_unread {clean : Text} (h : parse? clean = none) : isSimple clean = true := by
  rw [isSimple, h]
  rfl

theorem exists_tree_of_composite {clean : Text} (h : isSimple clean = false) :
    ∃ t, parse? clean = some t := by
  cases hparse : parse? clean with
  | none =>
    rw [isSimple, hparse] at h
    cases h
  | some t => exact ⟨t, rfl⟩

theorem isSimple_iff {clean : Text} {t : TypeTree} (hparse : parse? clean = some t) :
    isSimple clean = true ↔ t.isGeneric = false ∧ t.namespace?.isNone = true := by
  rw [isSimple, hparse, Option.all_some, Bool.and_eq_true, Bool.not_eq_true']

theorem endsWith_of_identifier {n : Text} (h : IsIdentifier n) :
    Text.endsWith TypeTree.arraySuffix n = false := by
  rw [← Bool.not_eq_true]
  intro hends
  obtain ⟨front, hfront⟩ := List.isPrefixOf_iff_prefix.mp hends
  have hmem : ']' ∈ n := by
    rw [← List.mem_reverse, ← hfront]
    exact List.mem_append_left front (by decide)
  have hword := isWord_of_isName h.1 ']' hmem
  exact absurd hword (by decide)

namespace TypeTree

theorem qualifiedName_of_unscoped {t : TypeTree} (h : t.namespace?.isNone = true) :
    t.qualifiedName = t.base := by
  obtain ⟨scope, base, arguments, isArray, qualifiers⟩ := t
  cases scope with
  | nil => simp [qualifiedName, TypeTree.scope, TypeTree.base, Text.join]
  | cons n scope => cases h

theorem fullName_of_plain {t : TypeTree} (hplain : t.isGeneric = false)
    (hscope : t.namespace?.isNone = true) :
    t.fullName = suffixed t.base t.isArray := by
  rw [← qualifiedName_of_unscoped hscope]
  obtain ⟨scope, base, arguments, isArray, qualifiers⟩ := t
  cases arguments with
  | nil => rfl
  | cons a arguments => cases hplain

theorem Named.base {t : TypeTree} (h : t.Named) : IsIdentifier t.base := by
  obtain ⟨scope, base, arguments, isArray, qualifiers⟩ := t
  exact (named_mk.mp h).1 base (List.mem_append_right scope List.mem_cons_self)

end TypeTree

namespace Registry

/-- The rule for the scope that a type is written in. -/
def scopeRuleOf? (r : Registry) (t : TypeTree) : Option ScopeRule := t.namespace?.bind r.scopeRule?

/-- The definition that a name is looked up to. -/
def nameGround? (r : Registry) (name : Text) : Option Ground :=
  (r.get? name <|> r.get? (Text.collapse name)).map Ground.definition <|>
    (r.element? name).map Ground.element

/-- What the conversion of a cleaned type follows, if anything. -/
def ground? (r : Registry) (clean : Text) : Option Ground :=
  match r.customRules.find? (·.fires clean) with
  | some rule => some (.custom rule)
  | none =>
    if isSimple clean then r.nameGround? clean
    else (parse? clean).bind fun t =>
      (r.genericRule? t).map Ground.generic <|> (r.scopeRuleOf? t).map Ground.scope

/-- A cleaned type as its ground has it, or passed through. -/
def grounded (r : Registry) (again : Text → Option Text) (clean : Text) : Option Text :=
  match r.ground? clean with
  | some ground => ground.render r again clean
  | none => passedThrough again clean

variable {r : Registry}

/-! The ground decides what a conversion gives. -/

theorem customResult?_eq (clean : Text) :
    r.customResult? clean = (r.customRules.find? (·.fires clean)).bind (·.result? clean) := by
  unfold customResult?
  induction r.customRules with
  | nil => rfl
  | cons rule rules ih =>
    rw [List.findSome?_cons, List.find?_cons, CustomRule.fires]
    cases hresult : rule.result? clean with
    | none => exact ih
    | some t => exact hresult.symm

/-- A custom rule that is found fires, so that it has a result. -/
theorem customResult?_eq_none_iff {clean : Text} :
    r.customResult? clean = none ↔ r.customRules.find? (·.fires clean) = none := by
  rw [customResult?, List.findSome?_eq_none_iff, List.find?_eq_none]
  simp [CustomRule.fires]

theorem mappedBase_eq (t : TypeTree) : r.mappedBase t =
    match r.scopeRuleOf? t with
    | some rule => rule.renamed t.base
    | none => t.dotted := by
  unfold mappedBase scopeRuleOf? TypeTree.dotted
  cases t.namespace? with
  | none => rfl
  | some scope =>
    simp only [Option.bind_some]
    cases r.scopeRule? scope <;> rfl

theorem some_lookup (again : Text → Option Text) {clean : Text} (h : isSimple clean = true) :
    some (r.lookup clean) =
      match r.nameGround? clean with
      | some ground => ground.render r again clean
      | none => passedThrough again clean := by
  unfold lookup nameGround?
  rw [passedThrough, if_pos h]
  cases r.get? clean <|> r.get? (Text.collapse clean) with
  | some d => rfl
  | none => cases r.element? clean <;> rfl

theorem convertArguments_of_plain {again : Text → Option Text} {t : TypeTree}
    (h : t.isGeneric = false) : convertArguments again t = some [] := by
  obtain ⟨scope, base, arguments, isArray, qualifiers⟩ := t
  cases arguments with
  | nil => rfl
  | cons a arguments => cases h

theorem genericRule?_of_plain {t : TypeTree} (h : t.isGeneric = false) :
    r.genericRule? t = none := by
  rw [genericRule?, h]
  rfl

theorem composite_of_scope {clean : Text} {t : TypeTree} {rule : ScopeRule}
    (hparse : parse? clean = some t) (h : r.scopeRuleOf? t = some rule) :
    isSimple clean = false := by
  obtain ⟨scope, hscope, -⟩ := Option.bind_eq_some_iff.mp h
  rw [isSimple, hparse, Option.all_some, hscope, Option.isNone_some, Bool.and_false]

theorem convertCleaned_of_composite {again : Text → Option Text} {clean : Text} {t : TypeTree}
    (hparse : parse? clean = some t) (hcomposite : isSimple clean = false) :
    r.convertCleaned (fun t => pure (r.genericRule? t)) again clean =
      match r.genericRule? t with
      | some rule => (Ground.generic rule).render r again clean
      | none => t.written again (r.mappedBase t) := by
  unfold convertCleaned
  rw [isSimple, hparse, Option.all_some] at hcomposite
  simp only [hparse, Ground.render, Option.bind_some, TypeTree.written]
  cases hgeneric : t.isGeneric with
  | true =>
    simp only [if_true]
    cases convertArguments again t <;> cases r.genericRule? t <;> simp [generic, applied]
  | false =>
    have hscope : t.namespace?.isSome = true := by simpa [hgeneric] using hcomposite
    simp only [hscope, if_true, genericRule?_of_plain hgeneric, convertArguments_of_plain hgeneric]
    rfl

theorem written_mappedBase (again : Text → Option Text) {t : TypeTree} {clean : Text}
    (hparse : parse? clean = some t) (hcomposite : isSimple clean = false) :
    t.written again (r.mappedBase t) =
      match (r.scopeRuleOf? t).map Ground.scope with
      | some ground => ground.render r again clean
      | none => passedThrough again clean := by
  rw [mappedBase_eq]
  cases r.scopeRuleOf? t with
  | some rule => simp only [Option.map_some, Ground.render, hparse, Option.bind_some]
  | none => simp [passedThrough, hparse, hcomposite]

theorem convertCleaned_eq {again : Text → Option Text} {clean : Text}
    (hcustom : r.customResult? clean = none) :
    r.convertCleaned (fun t => pure (r.genericRule? t)) again clean = r.grounded again clean := by
  unfold grounded ground?
  rw [customResult?_eq_none_iff.mp hcustom]
  cases hsimple : isSimple clean with
  | true =>
    rw [convertCleaned_of_simple hsimple]
    exact some_lookup again hsimple
  | false =>
    obtain ⟨t, hparse⟩ := exists_tree_of_composite hsimple
    rw [convertCleaned_of_composite hparse hsimple]
    simp only [hparse, Option.bind_some, Bool.false_eq_true, if_false]
    cases r.genericRule? t with
    | some rule => rfl
    | none => exact written_mappedBase again hparse hsimple

/-- Every conversion follows its ground. -/
theorem convert_succ_eq (n : Nat) (raw : Text) :
    r.convert (n + 1) raw = r.grounded (r.convert n) (normalize raw) := by
  rw [convert]
  simp only [convertStep]
  cases hcustom : r.customResult? (normalize raw) with
  | none => exact convertCleaned_eq hcustom
  | some t =>
    rw [customResult?_eq] at hcustom
    obtain ⟨rule, hrule, ht⟩ := Option.bind_eq_some_iff.mp hcustom
    simp only [grounded, ground?, hrule, Ground.render, ht, Option.bind_some]

theorem gives_grounded {raw target : Text} (h : Gives (r.convert · raw) target) :
    Gives (fun k => r.grounded (r.convert k) (normalize raw)) target := by
  simpa only [convert_succ_eq] using h.succ

/-! Whether a type can be converted. -/

theorem has_eq_isSome (name : Text) : r.has name = (r.get? name).isSome := by
  rw [Bool.eq_iff_iff, has_iff, Option.isSome_iff_exists]

theorem isSome_nameGround? (name : Text) : (r.nameGround? name).isSome =
    ((r.has name || r.has (Text.collapse name)) || (r.element? name).isSome) := by
  unfold nameGround?
  rw [has_eq_isSome, has_eq_isSome]
  cases r.get? name <;> cases r.get? (Text.collapse name) <;> cases r.element? name <;> rfl

/-- The cleaned types, if no custom rule fires on them, that can be converted without a ground, or
that have a ground and cannot be converted. -/
inductive Disputed (r : Registry) (clean : Text) : Prop
  /-- A definition of a name that conversion does not look up, for it has arguments or a scope. -/
  | unused {t : TypeTree} (parsed : parse? clean = some t) (composite : isSimple clean = false)
      (noRule : r.genericRule? t = none) (noScope : r.scopeRuleOf? t = none)
      (defined : (r.has t.qualifiedName || r.has t.base) = true)
  /-- A rule for the scope alone. -/
  | scope {t : TypeTree} {rule : ScopeRule} (parsed : parse? clean = some t)
      (noRule : r.genericRule? t = none) (scope : r.scopeRuleOf? t = some rule)
      (undefined : (r.has t.qualifiedName || r.has t.base) = false)
  /-- A definition of the text, but none of the base name read from it. -/
  | whole {t : TypeTree} (parsed : parse? clean = some t) (simple : isSimple clean = true)
      (found : (r.nameGround? clean).isSome = true) (undefined : r.has t.base = false)
  /-- A definition of the base name only. -/
  | part {t : TypeTree} (parsed : parse? clean = some t) (simple : isSimple clean = true)
      (missed : r.nameGround? clean = none) (defined : r.has t.base = true)
  /-- An array that is no signature, of defined elements. -/
  | element (unread : parse? clean = none)
      (undefined : (r.has clean || r.has (Text.collapse clean)) = false)
      (found : (r.element? clean).isSome = true)

section

variable {raw : Text}

theorem canConvert_of_custom {t : Text} (hcustom : r.customResult? (normalize raw) = some t) :
    r.canConvert raw = true := by
  simp only [canConvert, canConvertStep, hcustom]
  rfl

theorem ground?_of_custom {clean t : Text} (hcustom : r.customResult? clean = some t) :
    ∃ rule, r.ground? clean = some (.custom rule) := by
  rw [customResult?_eq] at hcustom
  obtain ⟨rule, hrule, -⟩ := Option.bind_eq_some_iff.mp hcustom
  exact ⟨rule, by rw [ground?, hrule]⟩

variable (hcustom : r.customResult? (normalize raw) = none)
include hcustom

theorem canConvert_of_tree {t : TypeTree} (hparse : parse? (normalize raw) = some t) :
    r.canConvert raw = ((r.genericRule? t).isSome || r.has t.qualifiedName || r.has t.base) := by
  simp only [canConvert, canConvertStep, hcustom, hparse]
  rfl

theorem canConvert_of_simple {t : TypeTree} (hparse : parse? (normalize raw) = some t)
    (hsimple : isSimple (normalize raw) = true) : r.canConvert raw = r.has t.base := by
  obtain ⟨hplain, hscope⟩ := (isSimple_iff hparse).mp hsimple
  rw [canConvert_of_tree hcustom hparse, genericRule?_of_plain hplain,
    TypeTree.qualifiedName_of_unscoped hscope, Option.isSome_none, Bool.false_or, Bool.or_self]

theorem canConvert_of_unread (hparse : parse? (normalize raw) = none) :
    r.canConvert raw = (r.has (normalize raw) || r.has (Text.collapse (normalize raw))) := by
  simp only [canConvert, canConvertStep, hcustom, hparse]
  rfl

theorem ground?_of_simple (hsimple : isSimple (normalize raw) = true) :
    r.ground? (normalize raw) = r.nameGround? (normalize raw) := by
  rw [ground?, customResult?_eq_none_iff.mp hcustom, if_pos hsimple]

theorem ground?_of_composite {t : TypeTree} (hparse : parse? (normalize raw) = some t)
    (hcomposite : isSimple (normalize raw) = false) : r.ground? (normalize raw) =
      ((r.genericRule? t).map Ground.generic <|> (r.scopeRuleOf? t).map Ground.scope) := by
  simp [ground?, customResult?_eq_none_iff.mp hcustom, hcomposite, hparse]

theorem Disputed.disagree (h : r.Disputed (normalize raw)) :
    r.canConvert raw ≠ (r.ground? (normalize raw)).isSome := by
  cases h with
  | unused parsed composite noRule noScope defined =>
    simp [canConvert_of_tree hcustom parsed, ground?_of_composite hcustom parsed composite, noRule,
      noScope, defined]
  | scope parsed noRule scope undefined =>
    have hcomposite := composite_of_scope parsed scope
    simp [canConvert_of_tree hcustom parsed, ground?_of_composite hcustom parsed hcomposite, noRule,
      scope, undefined]
  | whole parsed simple found undefined =>
    simp [canConvert_of_simple hcustom parsed simple, ground?_of_simple hcustom simple, found,
      undefined]
  | part parsed simple missed defined =>
    simp [canConvert_of_simple hcustom parsed simple, ground?_of_simple hcustom simple, missed,
      defined]
  | element unread undefined found =>
    have hsimple := isSimple_of_unread unread
    simp [canConvert_of_unread hcustom unread, ground?_of_simple hcustom hsimple, undefined,
      nameGround?, found]

theorem disputed_of_disagree (h : r.canConvert raw ≠ (r.ground? (normalize raw)).isSome) :
    r.Disputed (normalize raw) := by
  cases hparse : parse? (normalize raw) with
  | none =>
    rw [canConvert_of_unread hcustom hparse, ground?_of_simple hcustom (isSimple_of_unread hparse),
      isSome_nameGround?] at h
    cases hnamed : r.has (normalize raw) || r.has (Text.collapse (normalize raw)) with
    | true => simp [hnamed] at h
    | false =>
      refine .element hparse hnamed ?_
      simpa [hnamed, Option.isSome_iff_ne_none] using h
  | some t =>
    cases hsimple : isSimple (normalize raw) with
    | true =>
      rw [canConvert_of_simple hcustom hparse hsimple, ground?_of_simple hcustom hsimple] at h
      cases hbase : r.has t.base with
      | true => exact .part hparse hsimple (by simpa [hbase] using h) hbase
      | false =>
        refine .whole hparse hsimple ?_ hbase
        simpa [hbase, Option.isSome_iff_ne_none] using h
    | false =>
      rw [canConvert_of_tree hcustom hparse, ground?_of_composite hcustom hparse hsimple] at h
      cases hrule : r.genericRule? t with
      | some rule => simp [hrule] at h
      | none =>
        cases hscope : r.scopeRuleOf? t with
        | none =>
          rw [hrule, hscope] at h
          exact .unused hparse hsimple hrule hscope (Bool.ne_false_iff.mp h)
        | some rule =>
          rw [hrule, hscope] at h
          exact .scope hparse hrule hscope (eq_false_of_ne_true h)

end

/-- Whether a type can be converted says whether its conversion has a ground, on the types that are
not disputed and on no other. -/
theorem canConvert_eq_iff (raw : Text) :
    r.canConvert raw = (r.ground? (normalize raw)).isSome ↔
      ¬(r.customResult? (normalize raw) = none ∧ r.Disputed (normalize raw)) := by
  cases hcustom : r.customResult? (normalize raw) with
  | some t =>
    obtain ⟨rule, hground⟩ := ground?_of_custom hcustom
    simp [canConvert_of_custom hcustom, hground]
  | none =>
    constructor
    · rintro hagree ⟨-, hdisputed⟩
      exact hdisputed.disagree hcustom hagree
    · intro hundisputed
      by_contra hdisagree
      exact hundisputed ⟨rfl, disputed_of_disagree hcustom hdisagree⟩

/-! Signatures without arguments and scope. -/

/-- The elements of an array are looked up by its base name. -/
theorem isSome_element? {t : TypeTree} (hnamed : t.Named) (hplain : t.isGeneric = false)
    (hscope : t.namespace?.isNone = true) :
    (r.element? t.fullName).isSome = (t.isArray && r.has t.base) := by
  have hbase := hnamed.base
  rw [TypeTree.fullName_of_plain hplain hscope, element?]
  cases t.isArray with
  | false => simp [TypeTree.suffixed, endsWith_of_identifier hbase]
  | true =>
    have hends : Text.endsWith TypeTree.arraySuffix (t.base ++ TypeTree.arraySuffix) = true := by
      rw [Text.endsWith, List.reverse_append]
      exact List.isPrefixOf_iff_prefix.mpr (List.prefix_append _ _)
    have htake : (t.base ++ TypeTree.arraySuffix).take
        ((t.base ++ TypeTree.arraySuffix).length - 2) = t.base := by
      simp [TypeTree.arraySuffix]
    rw [TypeTree.suffixed, if_pos rfl, if_pos hends, htake, (Clean.of_identifier hbase).strip_eq,
      has_eq_isSome, Bool.true_and]

/-- Such a signature is disputed only where it is an array defined by a name of its own, and its
elements are not defined. -/
theorem disputed_of_simple {t : TypeTree} (hnamed : t.Named) (hsimple : isSimple t.fullName = true) :
    r.Disputed t.fullName ↔ r.has t.fullName = true ∧ r.has t.base = false := by
  have hparse := parse?_fullName hnamed
  obtain ⟨hplain, hscope⟩ : t.isGeneric = false ∧ t.namespace?.isNone = true := by
    rwa [isSimple_iff hparse, isGeneric_bare, namespace?_bare] at hsimple
  have hground : (r.nameGround? t.fullName).isSome =
      (r.has t.fullName || (t.isArray && r.has t.base)) := by
    rw [isSome_nameGround?, (clean_fullName hnamed).collapse_eq, Bool.or_self,
      isSome_element? hnamed hplain hscope]
  constructor
  · intro h
    cases h with
    | unused parsed composite => simp [hsimple] at composite
    | scope parsed noRule scope => simp [composite_of_scope parsed scope] at hsimple
    | whole parsed simple found undefined =>
      obtain rfl := Option.some.inj (hparse.symm.trans parsed)
      rw [base_bare] at undefined
      rw [hground, undefined, Bool.and_false, Bool.or_false] at found
      exact ⟨found, undefined⟩
    | part parsed simple missed defined =>
      obtain rfl := Option.some.inj (hparse.symm.trans parsed)
      rw [base_bare] at defined
      have hnone := congrArg Option.isSome missed
      rw [hground, defined, TypeTree.fullName_of_plain hplain hscope] at hnone
      cases harray : t.isArray <;> simp [harray, TypeTree.suffixed, defined] at hnone
    | element unread => simp [hparse] at unread
  · intro h
    exact .whole hparse hsimple (by rw [hground, h.1, Bool.true_or]) ((base_bare t).symm ▸ h.2)

end Registry

/-- A conversion that ends gives what its ground makes of the type, or passes the type through where
it has none. Whether the type can be converted tells the one from the other, except on the disputed
types, where it says the opposite. Of the signatures without arguments and scope only arrays are
disputed that are defined as such and whose elements are not. -/
theorem canConvert_grounded (r : Registry) (generation : Nat) (steps : List Step) (u : Mapper)
    (hrun : (Mapper.attach r generation).performAll steps = .ok u) (raw : Text) (n : Nat)
    (target : Text) (w : Mapper) (hconvert : u.convertWithin n raw = .ok (target, w)) :
    Gives (fun k => u.registry.grounded (u.registry.convert k) (normalize raw)) target ∧
    (((u.canConvert raw).1 = true ↔ (u.registry.ground? (normalize raw)).isSome = true) ↔
      ¬(u.registry.customResult? (normalize raw) = none ∧
        u.registry.Disputed (normalize raw))) ∧
    ((u.canConvert raw).1 = false → ¬u.registry.Disputed (normalize raw) →
      Gives (fun k => passedThrough (u.registry.convert k) (normalize raw)) target) ∧
    ∀ t, parse? raw = some t → isSimple t.fullName = true →
      (u.registry.Disputed (normalize raw) ↔
        u.registry.has t.fullName = true ∧ u.registry.has t.base = false) := by
  have hu : u.On u.registry := Mapper.performAll_on (Mapper.on_attach r generation) hrun
  have hanswer : (u.canConvert raw).1 = u.registry.canConvert raw := (Mapper.canConvert_on hu raw).1
  have hgives := Registry.gives_grounded
    ((Mapper.convertWithin_mirrors hu n raw).sound target w hconvert).1
  rw [hanswer]
  refine ⟨hgives, ?_, ?_, ?_⟩
  · rw [← Bool.eq_iff_iff]
    exact Registry.canConvert_eq_iff raw
  · intro hfalse hagreed
    have hagree := (Registry.canConvert_eq_iff raw).mpr fun h => hagreed h.2
    have hnone : u.registry.ground? (normalize raw) = none := by
      rw [hfalse] at hagree
      exact Option.isNone_iff_eq_none.mp (Option.isSome_eq_false_iff.mp hagree.symm)
    simpa only [Registry.grounded, hnone] using hgives
  · intro t hparse hsimple
    rw [normalize, hparse]
    exact Registry.disputed_of_simple (named_of_parse? hparse) hsimple

namespace Sample

/-- Only for the scope `ns` there is a rule, and of `other::Name` the base name is defined. -/
theorem scopes_asked :
    (((Mapper.attach names 1).convertWithin 1 "a::Unknown").toOption.map Prod.fst =
        some "a.Unknown" ∧
      ((Mapper.attach names 1).canConvert "a::Unknown").1 = false ∧
      names.ground? (normalize "a::Unknown") = none ∧
      names.customResult? (normalize "a::Unknown") = none) ∧
    (((Mapper.attach names 1).canConvert "ns::Other").1 = false ∧
      names.ground? (normalize "ns::Other") = some (.scope ⟨"ns", "lib", false⟩) ∧
      ((Mapper.attach names 1).convert "ns::Other").toOption.map Prod.fst = some "lib.Other") ∧
    ((Mapper.attach names 1).canConvert "other::Name").1 = true ∧
      names.ground? (normalize "other::Name") = none ∧
      ((Mapper.attach names 1).convert "other::Name").toOption.map Prod.fst =
        some "other.Name" := by
  decide +kernel

end Sample

/-- A name under a scope that no rule is for is passed through. -/
theorem canConvert_grounded_sample : ∃ w,
    (Mapper.attach Sample.names 1).convertWithin 1 "a::Unknown" = .ok ("a.Unknown", w) ∧
    ((Mapper.attach Sample.names 1).canConvert "a::Unknown").1 = false ∧
    ¬Sample.names.Disputed (normalize "a::Unknown") ∧
    Gives (fun k => passedThrough (Sample.names.convert k) (normalize "a::Unknown")) "a.Unknown" := by
  obtain ⟨⟨hends, hfalse, hground, hcustom⟩, -⟩ := Sample.scopes_asked
  obtain ⟨w, hconvert⟩ := exists_ok_of_fst hends
  obtain ⟨-, hiff, hpassed, -⟩ :=
    canConvert_grounded Sample.names 1 [] _ rfl "a::Unknown" 1 "a.Unknown" w hconvert
  have hagree : ((Mapper.attach Sample.names 1).canConvert "a::Unknown").1 = true ↔
      (Sample.names.ground? (normalize "a::Unknown")).isSome = true := by
    rw [hfalse, hground, Option.isSome_none]
  have hagreed : ¬Sample.names.Disputed (normalize "a::Unknown") :=
    fun hdisputed => hiff.mp hagree ⟨hcustom, hdisputed⟩
  exact ⟨w, hconvert, hfalse, hagreed, hpassed hfalse hagreed⟩

/-- A rule for the scope alone is followed though nothing can be converted, and the definition of
the base name says that it can be where nothing is followed. -/
theorem canConvert_ungrounded :
    (((Mapper.attach Sample.names 1).canConvert "ns::Other").1 = false ∧
      Sample.names.ground? (normalize "ns::Other") = some (.scope ⟨"ns", "lib", false⟩) ∧
      ∃ w, (Mapper.attach Sample.names 1).convert "ns::Other" = .ok ("lib.Other", w)) ∧
    (((Mapper.attach Sample.names 1).canConvert "other::Name").1 = true ∧
      Sample.names.ground? (normalize "other::Name") = none ∧
      ∃ w, (Mapper.attach Sample.names 1).convert "other::Name" = .ok ("other.Name", w)) := by
  obtain ⟨-, ⟨hfalse, hscope, hother⟩, htrue, hnone, hname⟩ := Sample.scopes_asked
  exact ⟨⟨hfalse, hscope, exists_ok_of_fst hother⟩, htrue, hnone, exists_ok_of_fst hname⟩

end TypeAtlas
