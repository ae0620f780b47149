import TypeAtlas.Proofs.Mapping.Transparency
import TypeAtlas.Proofs.Signature.RoundTrip

/-!
Conversion as a fold over the tree of a signature. A conversion writes each argument out and reads
it again; where no custom rule fires, this gives what a fold gives that never leaves the tree, and
it needs no more depth than the tree has.
-/

namespace TypeAtlas

namespace TypeTree

mutual
/-- The number of nodes on the longest way down from the root. -/
def height : TypeTree → Nat
  | mk _ _ arguments _ _ => heightAll arguments + 1

def heightAll : List TypeTree → Nat
  | [] => 0
  | t :: ts => max (height t) (heightAll ts)
end

theorem height_le_heightAll {a : TypeTree} {ts : List TypeTree} (h : a ∈ ts) :
    a.height ≤ heightAll ts := by
  induction ts with
  | nil => cases h
  | cons t ts ih =>
    rw [heightAll]
    rcases List.mem_cons.mp h with rfl | h
    · exact Nat.le_max_left _ _
    · exact Nat.le_trans (ih h) (Nat.le_max_right _ _)

end TypeTree

namespace Registry

mutual
/-- What the rules for generic types, the rules for scopes and the definitions make of a tree. -/
def translate (r : Registry) : TypeTree → Text
  | .mk scope base arguments isArray qualifiers =>
    let t := TypeTree.mk scope base arguments isArray qualifiers
    match arguments with
    | [] =>
      match scope with
      | [] => r.lookup t.fullName
      | _ :: _ => TypeTree.suffixed (r.mappedBase t) isArray
    | _ :: _ =>
      let args := r.translateAll arguments
      TypeTree.suffixed (match r.genericRule? t with
        | some rule => substitute rule.replacement args
        | none => r.mappedBase t ++ "<" ++ Text.join ", " args ++ ">") isArray

def translateAll (r : Registry) : List TypeTree → List Text
  | [] => []
  | t :: ts => r.translate t :: r.translateAll ts
end

theorem translateAll_eq_map (r : Registry) (ts : List TypeTree) :
    r.translateAll ts = ts.map r.translate := by
  induction ts <;> simp_all [translateAll]

variable {r : Registry}

/-! Qualifiers do not matter to the rules. -/

theorem base_bare (t : TypeTree) : t.bare.base = t.base := by
  obtain ⟨scope, base, arguments, isArray, qualifiers⟩ := t
  rfl

theorem namespace?_bare (t : TypeTree) : t.bare.namespace? = t.namespace? := by
  obtain ⟨scope, base, arguments, isArray, qualifiers⟩ := t
  rfl

theorem isArray_bare (t : TypeTree) : t.bare.isArray = t.isArray := by
  obtain ⟨scope, base, arguments, isArray, qualifiers⟩ := t
  rfl

theorem mappedBase_bare (t : TypeTree) : r.mappedBase t.bare = r.mappedBase t := by
  obtain ⟨scope, base, arguments, isArray, qualifiers⟩ := t
  rfl

theorem isGeneric_bare (t : TypeTree) : t.bare.isGeneric = t.isGeneric := by
  obtain ⟨scope, base, arguments, isArray, qualifiers⟩ := t
  cases arguments <;> rfl

theorem genericRule?_bare (t : TypeTree) : r.genericRule? t.bare = r.genericRule? t := by
  unfold genericRule?
  rw [isGeneric_bare]
  obtain ⟨scope, base, arguments, isArray, qualifiers⟩ := t
  rfl

theorem generic_bare (t : TypeTree) (rule? : Option GenericRule) (args : List Text) :
    r.generic t.bare rule? args = r.generic t rule? args := by
  unfold generic applied
  rw [mappedBase_bare, isArray_bare]

theorem isBuiltin_of_parse? {t : Text} {tree : TypeTree} (h : parse? t = some tree) :
    r.isBuiltin t =
      ((r.genericRule? tree).isSome || r.has tree.qualifiedName || r.has tree.base) := by
  rw [isBuiltin, isBuiltinStep, h]
  rfl

theorem isBuiltin_of_bare {t : Text} {tree : TypeTree} (h : parse? t = some tree) :
    r.isBuiltin t = r.isBuiltin tree.fullName := by
  rw [isBuiltin_of_parse? h, isBuiltin_of_parse? (parse?_fullName (named_of_parse? h)),
    genericRule?_bare]
  obtain ⟨scope, base, arguments, isArray, qualifiers⟩ := tree
  rfl

/-! One step. -/

theorem mapM_eq_some_map {α β : Type} {f : α → Option β} {g : α → β} {l : List α}
    (h : ∀ a ∈ l, f a = some (g a)) : l.mapM f = some (l.map g) := by
  induction l with
  | nil => rfl
  | cons a l ih =>
    rw [List.mapM_cons, h a List.mem_cons_self, ih fun b hb => h b (List.mem_cons_of_mem a hb)]
    rfl

theorem convertArguments_bare {again : Text → Option Text} {t : TypeTree}
    (h : ∀ a ∈ t.arguments, again a.fullName = some (r.translate a)) :
    convertArguments again t.bare = some (r.translateAll t.arguments) := by
  obtain ⟨scope, base, arguments, isArray, qualifiers⟩ := t
  rw [convertArguments, translateAll_eq_map, TypeTree.bare, TypeTree.bareAll_eq_map]
  change (arguments.map TypeTree.bare).mapM _ = _
  rw [List.mapM_map]
  apply mapM_eq_some_map
  intro a ha
  simp only [Function.comp_apply, TypeTree.fullName_bare]
  exact h a ha

theorem translate_of_generic {t : TypeTree} (h : t.isGeneric = true) :
    r.translate t = r.generic t (r.genericRule? t) (r.translateAll t.arguments) := by
  obtain ⟨scope, base, arguments, isArray, qualifiers⟩ := t
  cases arguments with
  | nil => cases h
  | cons a arguments => rfl

theorem translate_of_scope {t : TypeTree} (h : t.isGeneric = false)
    (hscope : t.namespace?.isSome = true) :
    r.translate t = TypeTree.suffixed (r.mappedBase t) t.isArray := by
  obtain ⟨scope, base, arguments, isArray, qualifiers⟩ := t
  cases arguments with
  | nil =>
    cases scope with
    | nil => cases hscope
    | cons n scope => rfl
  | cons a arguments => cases h

theorem translate_of_plain {t : TypeTree} (h : t.isGeneric = false)
    (hscope : t.namespace?.isSome = false) : r.translate t = r.lookup t.fullName := by
  obtain ⟨scope, base, arguments, isArray, qualifiers⟩ := t
  cases arguments with
  | nil =>
    cases scope with
    | nil => rfl
    | cons n scope => cases hscope
  | cons a arguments => cases h

theorem convertCleaned_fullName {again : Text → Option Text} {t : TypeTree} (hnamed : t.Named)
    (h : ∀ a ∈ t.arguments, again a.fullName = some (r.translate a)) :
    r.convertCleaned (fun t => pure (r.genericRule? t)) again t.fullName =
      some (r.translate t) := by
  simp only [convertCleaned, parse?_fullName hnamed, isGeneric_bare, namespace?_bare,
    convertArguments_bare h, genericRule?_bare, generic_bare, mappedBase_bare, isArray_bare]
  split
  · rename_i hgeneric
    rw [translate_of_generic hgeneric]
    rfl
  · rename_i hplain
    rw [Bool.not_eq_true] at hplain
    split
    · rename_i hscope
      rw [translate_of_scope hplain hscope]
      rfl
    · rename_i hscope
      rw [Bool.not_eq_true] at hscope
      rw [translate_of_plain hplain hscope]
      rfl

/-! The whole tree. -/

/-- No custom rule fires on the canonical name of any node. -/
def LeavesAlone (r : Registry) (t : TypeTree) : Prop :=
  ∀ node ∈ t.walk, ∀ rule ∈ r.customRules, rule.fires node.fullName = false

instance (t : TypeTree) : Decidable (r.LeavesAlone t) :=
  inferInstanceAs (Decidable (∀ node ∈ t.walk, ∀ rule ∈ r.customRules,
    rule.fires node.fullName = false))

theorem leavesAlone_mk {scope : List Text} {base : Text} {arguments : List TypeTree}
    {isArray : Bool} {qualifiers : Qualifiers}
    (h : r.LeavesAlone (.mk scope base arguments isArray qualifiers)) :
    r.customResult? (TypeTree.mk scope base arguments isArray qualifiers).fullName = none ∧
      ∀ a ∈ arguments, r.LeavesAlone a := by
  constructor
  · apply List.findSome?_eq_none_iff.mpr
    intro rule hrule
    have hfires := h _ (by rw [TypeTree.walk]; exact List.mem_cons_self) rule hrule
    simpa [CustomRule.fires] using hfires
  · intro a ha node hnode
    refine h node ?_
    rw [TypeTree.walk, TypeTree.walkAll_eq_flatMap]
    exact List.mem_cons_of_mem _ (List.mem_flatMap.mpr ⟨a, ha, hnode⟩)

theorem normalize_fullName {t : TypeTree} (h : t.Named) : normalize t.fullName = t.fullName := by
  rw [normalize, parse?_fullName h]
  exact t.fullName_bare

/-- The text may be any with the canonical name of the tree: an argument is converted by its
canonical name, and read from it without its qualifiers. -/
theorem convert_of_normalize {t : TypeTree} (hnamed : t.Named) (halone : r.LeavesAlone t)
    {raw : Text} (hraw : normalize raw = t.fullName) {n : Nat} (hn : t.height ≤ n) :
    r.convert n raw = some (r.translate t) := by
  induction t using TypeTree.byArguments generalizing raw n with
  | h scope base arguments isArray qualifiers ih =>
    obtain ⟨hcustom, hargs⟩ := leavesAlone_mk halone
    cases n with
    | zero => simp [TypeTree.height] at hn
    | succ n =>
      rw [convert]
      simp only [convertStep, hraw, hcustom]
      apply convertCleaned_fullName hnamed
      intro a ha
      have hname := (TypeTree.named_mk.mp hnamed).2 a ha
      refine ih a ha hname (hargs a ha) (normalize_fullName hname) ?_
      have hheight : a.height ≤ TypeTree.heightAll arguments := TypeTree.height_le_heightAll ha
      rw [TypeTree.height] at hn
      omega

end Registry

/-- A mapper in use converts a signature, at any depth its tree fits in, to what the fold over the
tree gives, unless some custom rule fires on a part of it. -/
theorem convert_translates (r : Registry) (generation : Nat) (steps : List Step) (u : Mapper)
    (hrun : (Mapper.attach r generation).performAll steps = .ok u) (raw : Text) (t : TypeTree)
    (hparse : parse? raw = some t) (halone : u.registry.LeavesAlone t) (n : Nat)
    (hn : t.height ≤ n) : ∃ v, u.convertWithin n raw = .ok (u.registry.translate t, v) := by
  have hu : u.On u.registry := Mapper.performAll_on (Mapper.on_attach r generation) hrun
  have hraw : normalize raw = t.fullName := by rw [normalize, hparse]
  apply (Mapper.convertWithin_mirrors hu n raw).complete
  exact Registry.convert_of_normalize (named_of_parse? hparse) halone hraw hn

namespace Sample

/-- Beside the lists, a name, a scope, and a custom rule for one type. -/
def names : Registry :=
  .ofConfig ⟨[⟨"Name", "string", "text", none, []⟩], lists.genericRules, [⟨"ns", "lib", false⟩],
    [⟨"pair", 1, .equal "Pair" "[any, any]", none⟩]⟩

def signature : Text := "List<const ns::Pair<Name &, int[2]> *>[]"

end Sample

/-- The rule for `Pair` does not fire on `ns::Pair`. -/
theorem convert_translates_sample : ∃ t v, parse? Sample.signature = some t ∧
    (Mapper.attach Sample.names 1).convertWithin 3 Sample.signature =
      .ok (Sample.names.translate t, v) ∧
    Sample.names.translate t = "lib.Pair<string, int[]>[][]" := by
  have h : (parse? Sample.signature).any (fun t => decide (Sample.names.LeavesAlone t ∧
      t.height ≤ 3 ∧ Sample.names.translate t = "lib.Pair<string, int[]>[][]")) = true := by
    decide +kernel
  cases hparse : parse? Sample.signature with
  | none =>
    rw [hparse] at h
    cases h
  | some t =>
    rw [hparse] at h
    obtain ⟨halone, hheight, ht⟩ := of_decide_eq_true h
    obtain ⟨v, hv⟩ := convert_translates Sample.names 1 [] _ rfl _ t hparse halone 3 hheight
    exact ⟨t, v, rfl, hv, ht⟩

end TypeAtlas
