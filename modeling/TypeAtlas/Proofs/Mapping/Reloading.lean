import TypeAtlas.Proofs.Mapping.Payload
import TypeAtlas.Proofs.Mapping.Priority

/-!
A registry written out and loaded again. The rules come back in their order. The definitions do so
just when every definition is still found by all its names: an alias that a later definition has
taken over is written out with both, and then the configuration is rejected, or the alias goes back
to the one that lost it.
-/

namespace TypeAtlas

/-! Registries that look alike from outside. -/

namespace Registry

/-- The same definition for every name, and the same rules. -/
structure Agrees (r r' : Registry) : Prop where
  get? : ∀ x, r.get? x = r'.get? x
  genericRules : r.genericRules = r'.genericRules
  scopeRules : r.scopeRules = r'.scopeRules
  customRules : r.customRules = r'.customRules

namespace Agrees

variable {r r' : Registry} (h : r.Agrees r')
include h

theorem symm : r'.Agrees r where
  get? x := (h.get? x).symm
  genericRules := h.genericRules.symm
  scopeRules := h.scopeRules.symm
  customRules := h.customRules.symm

theorem has (x : Text) : r.has x = r'.has x := by
  rw [Bool.eq_iff_iff, has_iff, has_iff, h.get?]

theorem genericRule? (t : TypeTree) : r.genericRule? t = r'.genericRule? t := by
  simp only [Registry.genericRule?, h.genericRules]

theorem mappedBase (t : TypeTree) : r.mappedBase t = r'.mappedBase t := by
  simp only [Registry.mappedBase, scopeRule?, h.scopeRules]

theorem applied (t : TypeTree) (args : List Text) : r.applied t args = r'.applied t args := by
  simp only [Registry.applied, h.mappedBase]

theorem lookup (name : Text) : r.lookup name = r'.lookup name := by
  simp only [Registry.lookup, element?, h.get?]

theorem customResult? (clean : Text) : r.customResult? clean = r'.customResult? clean := by
  simp only [Registry.customResult?, h.customRules]

theorem resolveGenericsStep (again : Text → Option Text) (t : Text) :
    r.resolveGenericsStep again t = r'.resolveGenericsStep again t := by
  simp only [Registry.resolveGenericsStep, container, h.applied]

theorem convertStep (again : Text → Option Text) (raw : Text) :
    r.convertStep (fun t => pure (r.genericRule? t)) again raw =
      r'.convertStep (fun t => pure (r'.genericRule? t)) again raw := by
  simp only [Registry.convertStep, h.customResult?, h.resolveGenericsStep, convertCleaned, generic,
    h.applied, h.genericRule?, h.mappedBase, h.lookup]

theorem convert (n : Nat) (raw : Text) : r.convert n raw = r'.convert n raw := by
  induction n generalizing raw with
  | zero => rfl
  | succ n ih =>
    rw [Registry.convert, Registry.convert, h.convertStep]
    congr 1
    exact funext ih

theorem canConvert (raw : Text) : r.canConvert raw = r'.canConvert raw := by
  simp only [Registry.canConvert, canConvertStep, h.customResult?, hasTreeStep, h.genericRule?,
    h.has]

theorem isBuiltin (t : Text) : r.isBuiltin t = r'.isBuiltin t := by
  simp only [Registry.isBuiltin, isBuiltinStep, hasTreeStep, h.genericRule?, h.has]

theorem answer (n : Nat) (q : Query) : r.answer n q = r'.answer n q := by
  cases q with
  | convert raw => simp only [Registry.answer, h.convert]
  | canConvert raw => simp only [Registry.answer, h.canConvert]
  | typeInfo raw =>
    simp only [Registry.answer, h.convert, h.canConvert, infoOf, definitionOf?, h.get?]
  | isBuiltin t => simp only [Registry.answer, h.isBuiltin]
  | genericRule t => simp only [Registry.answer, h.genericRule?]
  | resolveGenerics t =>
    have hagain : r.convert n = r'.convert n := funext (h.convert n)
    simp only [Registry.answer, resolveGenerics, h.resolveGenericsStep, hagain]

end Agrees

end Registry

/-- Mappers on registries that look alike give the same answers, each at some depth. -/
theorem Mapper.answer_of_agrees {s s' : Mapper} {r r' : Registry} (h : s.On r) (h' : s'.On r')
    (hagrees : r.Agrees r') {q : Query} {a : Answer} (hanswer : ∃ n v, s.answer n q = .ok (a, v)) :
    ∃ n v, s'.answer n q = .ok (a, v) := by
  obtain ⟨n, v, hanswer⟩ := hanswer
  obtain ⟨m, hm⟩ := ((answer_mirrors h n q).sound a v hanswer).1
  refine ⟨m, (answer_mirrors h' m q).complete a ?_⟩
  rw [← hagrees.answer]
  exact hm m (Nat.le_refl m)

/-! What every registry satisfies that is made of checked parts. -/

namespace Registry

variable {r : Registry}

theorem mem_values {d : Definition} :
    d ∈ r.definitions.values ↔ ∃ n, r.definitions.get? n = some d := by
  simp only [Keyed.values, List.mem_map, Prod.exists, exists_eq_right, Keyed.get?_eq_some_iff]

theorem mem_values_register (r : Registry) (d : Definition) :
    d ∈ (r.register d).definitions.values := by
  refine mem_values.mpr ⟨d.name, ?_⟩
  change (r.definitions.set d.name d).get? d.name = some d
  rw [Keyed.get?_set, if_pos rfl]

/-- Each definition is found by all its names. -/
def Settled (r : Registry) : Prop := ∀ d ∈ r.definitions.values, ∀ x ∈ d.names, r.get? x = some d

instance (r : Registry) : Decidable r.Settled :=
  inferInstanceAs (Decidable (∀ d ∈ r.definitions.values, ∀ x ∈ d.names, r.get? x = some d))

/-- The parts have passed their checks, and the custom rules stand in order. -/
structure IsValid (r : Registry) : Prop where
  parts : r.toConfig.IsValid
  ordered : CustomRule.byPriority r.customRules = r.customRules

end Registry

/-- The change brings in nothing that has not passed its check. -/
def Change.IsChecked : Change → Prop
  | .register d => ∃ v, Definition.check v = .value d
  | .addRule rule => ∃ v, CustomRule.check v = .value rule
  | .load c => ∃ v, MappingConfig.check v = .value c
  | .clearCache => True

namespace Registry.IsValid

variable {r : Registry}

theorem register (h : r.IsValid) {d : Definition} (hd : d.IsValid) : (r.register d).IsValid := by
  have hstored : ∀ e ∈ (r.register d).definitions.values, e = d ∨ e ∈ r.definitions.values := by
    intro e he
    obtain ⟨n, hn⟩ := mem_values.mp he
    change (r.definitions.set d.name d).get? n = some e at hn
    rw [Keyed.get?_set] at hn
    split at hn
    · cases hn
      exact .inl rfl
    · exact .inr (mem_values.mpr ⟨n, hn⟩)
  refine ⟨⟨?_, ?_, h.parts.genericRules, h.parts.scopeRules, h.parts.customRules⟩, h.ordered⟩
  · exact List.ne_nil_of_mem (mem_values_register r d)
  · intro e he
    rcases hstored e he with rfl | he
    · exact hd
    · exact h.parts.definitions e he

theorem ofConfig {c : MappingConfig} (h : c.IsValid) : (Registry.ofConfig c).IsValid := by
  refine ⟨⟨?_, ?_, h.genericRules, h.scopeRules, ?_⟩, CustomRule.byPriority_byPriority _⟩
  · obtain ⟨ds, d, hds⟩ : ∃ ds d, c.definitions = ds ++ [d] :=
      ⟨_, _, (List.dropLast_concat_getLast h.nonempty).symm⟩
    have hlast := mem_values_register (ds.foldl Registry.register empty) d
    have hall : c.definitions.foldl Registry.register empty =
        (ds.foldl Registry.register empty).register d := by rw [hds, List.foldl_concat]
    rw [← hall] at hlast
    exact List.ne_nil_of_mem hlast
  · intro d hd
    obtain ⟨n, hn⟩ := mem_values.mp hd
    exact h.definitions d (mem_of_stored hn)
  · intro rule hrule
    exact h.customRules rule (CustomRule.mem_byPriority.mp hrule)

theorem change (h : r.IsValid) {c : Change} (hc : c.IsChecked) : (r.change c).IsValid := by
  cases c with
  | register d =>
    obtain ⟨v, hv⟩ := hc
    exact h.register (Definition.valid_of_check hv)
  | addRule rule =>
    obtain ⟨v, hv⟩ := hc
    have hvalid := CustomRule.valid_of_check hv
    refine ⟨⟨h.parts.nonempty, h.parts.definitions, h.parts.genericRules, h.parts.scopeRules, ?_⟩,
      CustomRule.byPriority_byPriority _⟩
    intro other hother
    rcases List.mem_append.mp (CustomRule.mem_byPriority.mp hother) with hold | hnew
    · exact h.parts.customRules other hold
    · rwa [List.mem_singleton.mp hnew]
  | load c =>
    obtain ⟨v, hv⟩ := hc
    exact ofConfig (MappingConfig.valid_of_check hv)
  | clearCache => exact h

theorem after (h : r.IsValid) {steps : List Step} (hsteps : ∀ c, .change c ∈ steps → c.IsChecked) :
    (steps.foldl Registry.after r).IsValid := by
  induction steps generalizing r with
  | nil => exact h
  | cons step steps ih =>
    have hrest : ∀ c, Step.change c ∈ steps → c.IsChecked :=
      fun c hc => hsteps c (List.mem_cons_of_mem step hc)
    cases step with
    | ask n q => exact ih h hrest
    | change c => exact ih (h.change (hsteps c List.mem_cons_self)) hrest

end Registry.IsValid

/-! Loading what was written out. -/

namespace Registry

variable {r : Registry}

theorem Tied.unambiguous (htied : r.Tied) (h : r.Settled) : Unambiguous r.definitions.values := by
  constructor
  · have hnames : r.definitions.values.map Definition.name = r.definitions.keys := by
      rw [Keyed.values, Keyed.keys, List.map_map]
      apply List.map_congr_left
      intro e he
      exact htied.named e.1 e.2 (Keyed.get?_eq_some_iff.mpr he)
    rw [hnames]
    exact r.definitions.nodup
  · intro d hd e he x hxd hxe
    exact Option.some.inj ((h d hd x hxd).symm.trans (h e he x hxe))

theorem mem_of_get?_ofConfig {c : MappingConfig} {x : Text} {d : Definition}
    (h : (ofConfig c).get? x = some d) : d ∈ c.definitions ∧ x ∈ d.names :=
  ⟨mem_of_stored h, List.mem_cons.mpr (Tied.names_of_get? (.ofConfig c) h)⟩

/-- The definitions come back just when each is found by all its names. -/
theorem Tied.reload_iff (htied : r.Tied) (hvalid : r.IsValid) :
    (MappingConfig.check r.toConfig.toJson = .value r.toConfig ∧
      ∀ x, (Registry.ofConfig r.toConfig).get? x = r.get? x) ↔ r.Settled := by
  rw [MappingConfig.check_toJson_iff hvalid.parts]
  constructor
  · rintro ⟨⟨-, hclash⟩, hget⟩ d hd x hx
    rw [← hget]
    exact get?_ofConfig hclash hd hx
  · intro h
    have hclash : MappingConfig.clash? r.toConfig.definitions = none :=
      MappingConfig.clash_of_unambiguous (htied.unambiguous h)
    refine ⟨⟨rfl, hclash⟩, fun x => Option.ext fun d => ⟨?_, ?_⟩⟩
    · intro hd
      obtain ⟨hmem, hx⟩ := mem_of_get?_ofConfig hd
      exact h d hmem x hx
    · intro hd
      have hmem : d ∈ r.definitions.values := mem_values.mpr ⟨_, hd⟩
      exact get?_ofConfig hclash hmem (List.mem_cons.mpr (htied.names_of_get? hd))

end Registry

namespace Mapper

/-- `w` is new and has loaded what `u` was written out as. -/
def Reloads (u w : Mapper) : Prop := empty.loadJson u.registry.toConfig.toJson = .ok w

theorem reloads_iff {u w : Mapper} (h : u.registry.IsValid) : u.Reloads w ↔
    MappingConfig.check u.registry.toConfig.toJson = .value u.registry.toConfig ∧
      w = empty.load u.registry.toConfig := by
  rw [Reloads, loadJson]
  constructor
  · intro hload
    obtain ⟨c, hchecked, rfl⟩ := ok_of_map hload
    cases hcheck : MappingConfig.check u.registry.toConfig.toJson with
    | value found =>
      rw [hcheck] at hchecked
      cases hchecked
      obtain ⟨rfl, -⟩ := (MappingConfig.check_toJson_iff h.parts).mp hcheck
      exact ⟨rfl, rfl⟩
    | issues found =>
      rw [hcheck] at hchecked
      cases hchecked
    | stopped fault =>
      rw [hcheck] at hchecked
      cases hchecked
  · rintro ⟨hcheck, rfl⟩
    rw [hcheck]
    rfl

end Mapper

/-- However a mapper came from one checked configuration by checked changes and any questions: what
it is written out as can be loaded with every name leading to the same definition just when each of
its definitions is found by all its names. A new mapper that has loaded it has the same rules in the
same order, and in that case it gives the same answers to all questions, if they end. -/
theorem reload_lossless (v₀ : Json) (c₀ : MappingConfig) (h₀ : MappingConfig.check v₀ = .value c₀)
    (steps : List Step) (hsteps : ∀ c, .change c ∈ steps → c.IsChecked) (u : Mapper)
    (hrun : (Mapper.ofConfig c₀).performAll steps = .ok u) :
    ((∃ w, u.Reloads w ∧ ∀ x, w.registry.get? x = u.registry.get? x) ↔ u.registry.Settled) ∧
    ∀ w, u.Reloads w →
      w.registry.genericRules = u.registry.genericRules ∧
      w.registry.scopeRules = u.registry.scopeRules ∧
      w.registry.customRules = u.registry.customRules ∧
      (u.registry.Settled → ∀ q a,
        (∃ n v, u.answer n q = .ok (a, v)) ↔ ∃ n v, w.answer n q = .ok (a, v)) := by
  have hstart : (Mapper.ofConfig c₀).On (Mapper.ofConfig c₀).registry := Mapper.on_attach _ 1
  have htied : u.registry.Tied :=
    Mapper.tied_performAll hstart (Registry.Tied.ofConfig c₀) hrun
  have hvalid : u.registry.IsValid := by
    rw [Mapper.registry_performAll hstart hrun]
    exact (Registry.IsValid.ofConfig (MappingConfig.valid_of_check h₀)).after hsteps
  have hreload := htied.reload_iff hvalid
  constructor
  · rw [← hreload]
    constructor
    · rintro ⟨w, hw, hget⟩
      obtain ⟨hcheck, rfl⟩ := (Mapper.reloads_iff hvalid).mp hw
      exact ⟨hcheck, hget⟩
    · rintro ⟨hcheck, hget⟩
      exact ⟨_, (Mapper.reloads_iff hvalid).mpr ⟨hcheck, rfl⟩, hget⟩
  · intro w hw
    obtain ⟨-, rfl⟩ := (Mapper.reloads_iff hvalid).mp hw
    refine ⟨rfl, rfl, hvalid.ordered, fun hsettled q a => ?_⟩
    have hagrees : (Registry.ofConfig u.registry.toConfig).Agrees u.registry :=
      ⟨(hreload.mpr hsettled).2, rfl, rfl, hvalid.ordered⟩
    have hu : u.On u.registry := Mapper.performAll_on hstart hrun
    have hw := Mapper.on_change Mapper.empty (.load u.registry.toConfig)
    exact ⟨Mapper.answer_of_agrees hu hw hagrees.symm, Mapper.answer_of_agrees hw hu hagrees⟩

namespace Sample

/-- One definition with an alias. -/
def single : MappingConfig :=
  ⟨[⟨"A", "a", "letter", none, ["x"]⟩], [⟨"^List<(.+)>$", "$1[]", none⟩], [], []⟩

/-- Takes over the alias. -/
def takenOver : Definition := ⟨"B", "b", "letter", none, ["x"]⟩

/-- Has given it up again. -/
def givenUp : Definition := ⟨"B", "b", "letter", none, []⟩

/-- Once the alias has gone over, `A` is replaced and no longer lists it. -/
def moved : List Step :=
  [.change (.register takenOver), .ask 1 (.convert "x"),
    .change (.register ⟨"A", "a", "letter", some "first", ["y"]⟩),
    .change (.addRule ⟨"pair", 1, .search "^D(.)$" "$1", none⟩)]

end Sample

theorem reload_lossless_sample : ∃ u w,
    (Mapper.ofConfig Sample.single).performAll Sample.moved = .ok u ∧ u.Reloads w ∧
    w.registry.get? "x" = u.registry.get? "x" ∧
    w.registry.customRules = u.registry.customRules ∧
    ∃ n v, w.answer n (.convert "List<x>") = .ok (.text "b[]", v) := by
  have hlast : ((Mapper.ofConfig Sample.single).performAll Sample.moved).toOption.any (fun u =>
      decide (u.registry.Settled ∧ (u.answer 2 (.convert "List<x>")).toOption.map Prod.fst =
        some (.text "b[]"))) = true := by
    decide +kernel
  obtain ⟨u, hrun, hlast⟩ := (Option.any_eq_true _ _).mp hlast
  obtain ⟨hsettled, hanswer⟩ := of_decide_eq_true hlast
  have hchecked : ∀ c, .change c ∈ Sample.moved → c.IsChecked := by
    intro c hc
    simp only [Sample.moved, List.mem_cons, Step.change.injEq, reduceCtorEq, List.not_mem_nil,
      or_false, false_or] at hc
    rcases hc with rfl | rfl | rfl
    · exact ⟨_, Definition.check_toJson (by decide)⟩
    · exact ⟨_, Definition.check_toJson (by decide)⟩
    · exact ⟨_, CustomRule.check_toJson ⟨by decide, by decide, _, rfl⟩⟩
  obtain ⟨hreload, hkept⟩ := reload_lossless Sample.single.toJson Sample.single rfl Sample.moved
    hchecked u (ok_of_toOption hrun)
  obtain ⟨w, hw, hget⟩ := hreload.mpr hsettled
  obtain ⟨-, -, hcustom, hanswers⟩ := hkept w hw
  obtain ⟨v, hv⟩ := exists_ok_of_fst hanswer
  exact ⟨u, w, ok_of_toOption hrun, hw, hget _, hcustom,
    (hanswers hsettled _ _).mp ⟨2, v, hv⟩⟩

/-- An alias that has gone over to another definition is written out with both, and the configuration
is rejected; when the other definition has given it up again, it comes back to the first. -/
theorem reload_lossy :
    MappingConfig.check Sample.single.toJson = .value Sample.single ∧
    Definition.check Sample.takenOver.toJson = .value Sample.takenOver ∧
    Definition.check Sample.givenUp.toJson = .value Sample.givenUp ∧
    (∃ u, (Mapper.ofConfig Sample.single).performAll
        [.change (.register Sample.takenOver)] = .ok u ∧ ¬∃ w, u.Reloads w) ∧
    ∃ u w, (Mapper.ofConfig Sample.single).performAll [.change (.register Sample.takenOver),
        .change (.register Sample.givenUp)] = .ok u ∧ u.Reloads w ∧
      u.registry.get? "x" = none ∧ (w.registry.get? "x").isSome = true := by
  let taken := (Mapper.ofConfig Sample.single).register Sample.takenOver
  let given := taken.register Sample.givenUp
  have hsingle : (Mapper.ofConfig Sample.single).registry.IsValid :=
    .ofConfig (MappingConfig.valid_of_check (v := Sample.single.toJson) rfl)
  have htaken : taken.registry.IsValid :=
    hsingle.change (c := .register Sample.takenOver) ⟨_, Definition.check_toJson (by decide)⟩
  have hgiven : given.registry.IsValid :=
    htaken.change (c := .register Sample.givenUp) ⟨_, Definition.check_toJson (by decide)⟩
  have hclash : (MappingConfig.clash? taken.registry.toConfig.definitions).isSome = true := by
    decide
  have hback : MappingConfig.check given.registry.toConfig.toJson = .value given.registry.toConfig :=
    (MappingConfig.check_toJson_iff hgiven.parts).mpr ⟨rfl, rfl⟩
  refine ⟨rfl, rfl, rfl, ⟨taken, rfl, ?_⟩, given, _, rfl,
    (Mapper.reloads_iff hgiven).mpr ⟨hback, rfl⟩, by decide, by decide⟩
  rintro ⟨w, hw⟩
  have hchecked := ((Mapper.reloads_iff htaken).mp hw).1
  obtain ⟨-, hnone⟩ := (MappingConfig.check_toJson_iff htaken.parts).mp hchecked
  rw [hnone] at hclash
  cases hclash

end TypeAtlas
