import TypeAtlas.Proofs.Mapping.Ownership
import TypeAtlas.Proofs.Mapping.Structural

/-!
What a configured mapping is good for. Definitions are looked up last and by canonical name, so a
mapper honours them for texts whose canonical name is one of theirs and has neither arguments nor a
scope; any other name of a definition goes the way of the rules for generic types and for scopes.
-/

namespace TypeAtlas

/-- No arguments and no scope are read from the name. -/
def isSimple (name : Text) : Bool :=
  (parse? name).all fun t => !t.isGeneric && t.namespace?.isNone

namespace Registry

variable {r : Registry}

theorem customResult?_of_nil (h : r.customRules = []) (clean : Text) :
    r.customResult? clean = none := by
  rw [customResult?, h]
  rfl

theorem leavesAlone_of_nil (h : r.customRules = []) (t : TypeTree) : r.LeavesAlone t := by
  intro node _ rule hrule
  rw [h] at hrule
  cases hrule

theorem customRules_ofConfig {c : MappingConfig} (h : c.customRules = []) :
    (ofConfig c).customRules = [] := by
  rw [ofConfig, h]
  exact List.mergeSort_nil

theorem lookup_of_get? {name : Text} {d : Definition} (h : r.get? name = some d) :
    r.lookup name = d.target := by
  rw [lookup, h]
  rfl

theorem convertCleaned_of_simple {name : Text} (h : isSimple name = true)
    (ruleFor : TypeTree → Option (Option GenericRule)) (again : Text → Option Text) :
    r.convertCleaned ruleFor again name = some (r.lookup name) := by
  unfold convertCleaned
  unfold isSimple at h
  cases hparse : parse? name with
  | none => rfl
  | some t =>
    rw [hparse] at h
    simp only [Option.all_some, Bool.and_eq_true, Bool.not_eq_true', Option.isNone_iff_eq_none] at h
    simp only [h.1, h.2, Option.isSome_none, Bool.false_eq_true, if_false]
    rfl

theorem convert_of_simple (hcustom : r.customRules = []) {raw : Text} {d : Definition}
    (hsimple : isSimple (normalize raw) = true) (hget : r.get? (normalize raw) = some d) (n : Nat) :
    r.convert (n + 1) raw = some d.target := by
  rw [convert]
  simp only [convertStep, customResult?_of_nil hcustom]
  rw [convertCleaned_of_simple hsimple, lookup_of_get? hget]

end Registry

/-- With a valid configuration without custom rules loaded, and whatever was asked since, a text is
converted to the target of a definition if its canonical name is the name or an alias of it and is
simple. Text with arguments or a scope is converted as the rules for these say. -/
theorem mapping_honoured (v : Json) (c : MappingConfig) (hvalid : MappingConfig.check v = .value c)
    (hcustom : c.customRules = []) (s u : Mapper) (questions : List (Nat × Query))
    (hrun : (s.load c).performAll (questions.map fun q => .ask q.1 q.2) = .ok u) :
    (∀ d ∈ c.definitions, ∀ x, normalize x = d.name ∨ normalize x ∈ d.aliases →
      isSimple (normalize x) = true → ∀ n, 1 ≤ n → ∃ w, u.convertWithin n x = .ok (d.target, w)) ∧
    ∀ x t, parse? x = some t → ∀ n, t.height ≤ n →
      (t.isGeneric = true → ∃ w, u.convertWithin n x = .ok (u.registry.generic t
        (u.registry.genericRule? t) (u.registry.translateAll t.arguments), w)) ∧
      (t.isGeneric = false → t.namespace?.isSome = true → ∃ w, u.convertWithin n x =
        .ok (TypeTree.suffixed (u.registry.mappedBase t) t.isArray, w)) := by
  have hload : (s.load c).On (Registry.ofConfig c) := Mapper.on_change s (.load c)
  have hregistry : u.registry = .ofConfig c := Mapper.registry_askAll hload hrun
  have hu : u.On u.registry := Mapper.performAll_on hload hrun
  have hrules : u.registry.customRules = [] := hregistry ▸ Registry.customRules_ofConfig hcustom
  constructor
  · intro d hd x hx hsimple n hn
    obtain ⟨n, rfl⟩ := Nat.exists_eq_add_of_le' hn
    have hget : u.registry.get? (normalize x) = some d := by
      rw [hregistry]
      exact Registry.get?_ofConfig (MappingConfig.clash_of_check hvalid) hd (List.mem_cons.mpr hx)
    exact (Mapper.convertWithin_mirrors hu (n + 1) x).complete _
      (Registry.convert_of_simple hrules hsimple hget n)
  · intro x t hparse n hn
    have hname : normalize x = t.fullName := by rw [normalize, hparse]
    have hconvert := (Mapper.convertWithin_mirrors hu n x).complete _ (Registry.convert_of_normalize
      (named_of_parse? hparse) (Registry.leavesAlone_of_nil hrules t) hname hn)
    constructor
    · intro hgeneric
      rwa [Registry.translate_of_generic hgeneric] at hconvert
    · intro hplain hscope
      rwa [Registry.translate_of_scope hplain hscope] at hconvert

namespace Sample

/-- A list may be defined by its own name, which is simple. -/
def catalog : MappingConfig :=
  ⟨[⟨"Name", "string", "text", none, ["Label"]⟩, ⟨"Item[]", "items", "list", none, []⟩],
    [⟨"^List<(.+)>$", "$1[]", none⟩], [], []⟩

/-- A scope, an argument and a mark, each of which keeps a definition from being looked up. -/
def composite : MappingConfig :=
  ⟨[⟨"ns::Name", "name", "text", none, []⟩, ⟨"List<Name>", "names", "text", none, []⟩,
    ⟨"Name", "plain", "text", none, ["Item *"]⟩], [], [], []⟩

/-- What the names of `composite` are converted to. -/
def passedOver : List (Text × Text) :=
  [("ns::Name", "ns.Name"), ("List<Name>", "List<plain>"), ("Item *", "Item")]

theorem names_converted :
    (((Mapper.empty.load catalog).performAll
        [.ask 2 (.convert "List<Label>")]).toOption.isSome = true ∧
      (normalize "const Label &" = "Label" ∧ isSimple (normalize "const Label &") = true) ∧
      normalize "Item[3]" = "Item[]" ∧ isSimple (normalize "Item[3]") = true) ∧
    ∀ p ∈ passedOver,
      ((Mapper.empty.load composite).convert p.1).toOption.map Prod.fst = some p.2 := by
  decide +kernel

end Sample

theorem mapping_honoured_sample : ∃ u,
    (Mapper.empty.load Sample.catalog).performAll [.ask 2 (.convert "List<Label>")] = .ok u ∧
      (∃ w, u.convertWithin 1 "const Label &" = .ok ("string", w)) ∧
      (∃ w, u.convertWithin 1 "Item[3]" = .ok ("items", w)) := by
  have hvalid : MappingConfig.check Sample.catalog.toJson = .value Sample.catalog := rfl
  obtain ⟨⟨hends, ⟨hlabel, hlabelSimple⟩, hitem, hitemSimple⟩, -⟩ := Sample.names_converted
  obtain ⟨u, hrun⟩ := exists_ok_of_isSome hends
  obtain ⟨hhonoured, -⟩ := mapping_honoured _ Sample.catalog hvalid rfl Mapper.empty u
    [(2, .convert "List<Label>")] hrun
  refine ⟨u, hrun, ?_, ?_⟩
  · exact hhonoured _ List.mem_cons_self _ (.inr (hlabel ▸ List.mem_cons_self)) hlabelSimple 1
      (by decide)
  · exact hhonoured _ (List.mem_cons_of_mem _ List.mem_cons_self) _ (.inl hitem) hitemSimple 1
      (by decide)

/-- A valid configuration without custom rules, and names of its definitions that are not converted
to their targets. -/
theorem mapping_honoured_composite :
    MappingConfig.check Sample.composite.toJson = .value Sample.composite ∧
    Sample.composite.customRules = [] ∧
    ∀ p ∈ Sample.passedOver,
      (∃ d ∈ Sample.composite.definitions, (p.1 = d.name ∨ p.1 ∈ d.aliases) ∧ d.target ≠ p.2) ∧
      ∃ w, (Mapper.empty.load Sample.composite).convert p.1 = .ok (p.2, w) := by
  refine ⟨rfl, rfl, ?_⟩
  intro p hp
  have hdefined : ∀ p ∈ Sample.passedOver, ∃ d ∈ Sample.composite.definitions,
      (p.1 = d.name ∨ p.1 ∈ d.aliases) ∧ d.target ≠ p.2 := by decide
  exact ⟨hdefined p hp, exists_ok_of_fst (Sample.names_converted.2 p hp)⟩

end TypeAtlas
