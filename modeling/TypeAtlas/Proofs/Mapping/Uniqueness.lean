import TypeAtlas.Proofs.Mapping.Reloading

/-!
Configurations and their lookups. A configuration is rejected for its names just when two of its
entries go by one name; once it is loaded, a name leads to the one entry that goes by it, and to
nothing where there is none, whatever the registry held before.
-/

namespace TypeAtlas

/-- Two entries go by one name. Entries that are equal count as two where they stand apart. -/
def NameShared (ds : List Definition) : Prop :=
  ∃ (i j : Nat) (d e : Definition) (x : Text), i ≠ j ∧ ds[i]? = some d ∧ ds[j]? = some e ∧
    x ∈ d.names ∧ x ∈ e.names

theorem unambiguous_iff {ds : List Definition} : Unambiguous ds ↔ ¬NameShared ds := by
  constructor
  · rintro h ⟨i, j, d, e, x, hij, hd, he, hxd, hxe⟩
    obtain rfl := h.apart d (List.mem_of_getElem? hd) e (List.mem_of_getElem? he) x hxd hxe
    have hname : (ds.map Definition.name)[i]? = (ds.map Definition.name)[j]? := by
      rw [List.getElem?_map, List.getElem?_map, hd, he]
    obtain ⟨hi, -⟩ := List.getElem?_eq_some_iff.mp hd
    have hi : i < (ds.map Definition.name).length := by rwa [List.length_map]
    exact hij ((List.getElem?_inj hi h.nodup).mp hname)
  · intro h
    constructor
    · rw [List.nodup_iff_getElem?_ne_getElem?]
      intro i j hij hj hname
      rw [List.length_map] at hj
      have hi : i < ds.length := Nat.lt_trans hij hj
      rw [List.getElem?_map, List.getElem?_map, List.getElem?_eq_getElem hi,
        List.getElem?_eq_getElem hj] at hname
      have hname : ds[i].name = ds[j].name := Option.some.inj hname
      exact h ⟨i, j, ds[i], ds[j], ds[i].name, Nat.ne_of_lt hij, List.getElem?_eq_getElem hi,
        List.getElem?_eq_getElem hj, List.mem_cons_self, List.mem_cons.mpr (.inl hname)⟩
    · intro d hd e he x hxd hxe
      obtain ⟨i, hi⟩ := List.mem_iff_getElem?.mp hd
      obtain ⟨j, hj⟩ := List.mem_iff_getElem?.mp he
      by_cases hij : i = j
      · subst hij
        exact Option.some.inj (hi.symm.trans hj)
      · exact absurd ⟨i, j, d, e, x, hij, hi, hj, hxd, hxe⟩ h

namespace MappingConfig

theorem clash_eq_none_iff {ds : List Definition} : clash? ds = none ↔ ¬NameShared ds := by
  rw [← unambiguous_iff]
  exact ⟨unambiguous_of_clash, clash_of_unambiguous⟩

theorem exists_clash_iff {ds : List Definition} : (∃ c, clash? ds = some c) ↔ NameShared ds := by
  rw [← Option.isSome_iff_exists, ← Option.ne_none_iff_isSome, ne_eq, clash_eq_none_iff, not_not]

section Check

variable {v : Json} {c : MappingConfig} (h : checkParts v = .value c)
include h

/-- A configuration of valid parts has its clash as the only issue. -/
theorem check_of_parts : check v = match clash? c.definitions with
    | some clash => .issue (.invalid clash.message) v
    | none => .value c := by
  rw [check, h]
  rfl

theorem check_eq_value_iff : check v = .value c ↔ ¬NameShared c.definitions := by
  rw [check_of_parts h, ← clash_eq_none_iff]
  cases clash? c.definitions with
  | none => exact iff_of_true rfl rfl
  | some clash => exact iff_of_false nofun nofun

theorem check_eq_issue_iff :
    (∃ clash : NameClash, check v = .issue (.invalid clash.message) v) ↔
      NameShared c.definitions := by
  rw [check_of_parts h, ← exists_clash_iff]
  cases clash? c.definitions with
  | none => exact iff_of_false nofun nofun
  | some clash => exact iff_of_true ⟨clash, rfl⟩ ⟨clash, rfl⟩

end Check

end MappingConfig

/-! The lookups of a registry that has loaded a configuration. -/

namespace Registry

variable {c : MappingConfig} {d : Definition} {x : Text}

theorem get?_ofConfig_iff (h : MappingConfig.clash? c.definitions = none) :
    (ofConfig c).get? x = some d ↔ d ∈ c.definitions ∧ x ∈ d.names :=
  ⟨mem_of_get?_ofConfig, fun hd => get?_ofConfig h hd.1 hd.2⟩

theorem get?_ofConfig_eq_none_iff (h : MappingConfig.clash? c.definitions = none) :
    (ofConfig c).get? x = none ↔ ∀ d ∈ c.definitions, x ∉ d.names := by
  rw [Option.eq_none_iff_forall_ne_some]
  constructor
  · intro hnone d hd hx
    exact hnone d ((get?_ofConfig_iff h).mpr ⟨hd, hx⟩)
  · intro hnone d hd
    obtain ⟨hmem, hx⟩ := (get?_ofConfig_iff h).mp hd
    exact hnone d hmem hx

end Registry

theorem Mapper.loadJson_of_check {v : Json} {c : MappingConfig}
    (h : MappingConfig.check v = .value c) (s : Mapper) : s.loadJson v = .ok (s.load c) := by
  rw [loadJson, h]
  rfl

/-- Definitions are rejected just when two entries go by one name, and so are configurations whose
parts are valid. Every other one is loaded, whatever the registry held before, and then each name
leads to the one entry that goes by it, or to nothing. -/
theorem configuration_lookups :
    (∀ ds, (∃ clash, MappingConfig.clash? ds = some clash) ↔ NameShared ds) ∧
    ∀ v c, MappingConfig.checkParts v = .value c →
      ((∃ clash : NameClash, MappingConfig.check v = .issue (.invalid clash.message) v) ↔
        NameShared c.definitions) ∧
      (MappingConfig.check v = .value c ↔ ¬NameShared c.definitions) ∧
      (¬NameShared c.definitions → ∀ s : Mapper, ∃ w, s.loadJson v = .ok w ∧ ∀ x,
        (∀ d, w.registry.get? x = some d ↔ d ∈ c.definitions ∧ x ∈ d.names) ∧
        (∀ d ∈ c.definitions, ∀ e ∈ c.definitions, x ∈ d.names → x ∈ e.names → d = e) ∧
        (w.registry.get? x = none ↔ ∀ d ∈ c.definitions, x ∉ d.names)) := by
  refine ⟨fun ds => MappingConfig.exists_clash_iff, fun v c hparts => ?_⟩
  have haccepted := MappingConfig.check_eq_value_iff hparts
  refine ⟨MappingConfig.check_eq_issue_iff hparts, haccepted, fun hapart s => ?_⟩
  have hclash := MappingConfig.clash_eq_none_iff.mpr hapart
  refine ⟨s.load c, Mapper.loadJson_of_check (haccepted.mpr hapart) s, fun x => ⟨?_, ?_, ?_⟩⟩
  · intro d
    exact Registry.get?_ofConfig_iff hclash
  · intro d hd e he
    exact (unambiguous_iff.mpr hapart).apart d hd e he x
  · exact Registry.get?_ofConfig_eq_none_iff hclash

namespace Sample

/-- `A` lists its own name and one alias twice. -/
def repeating : MappingConfig :=
  ⟨[⟨"A", "a", "letter", none, ["A", "x", "x"]⟩, ⟨"B", "b", "letter", none, ["y"]⟩], [], [], []⟩

/-- One entry twice. -/
def doubled : MappingConfig :=
  ⟨[⟨"A", "a", "letter", none, []⟩, ⟨"A", "a", "letter", none, []⟩], [], [], []⟩

end Sample

/-- Loaded over a registry in which `z` is a name; an entry that stands twice is rejected. -/
theorem configuration_lookups_sample :
    (∃ w, (Mapper.empty.load Sample.shared).loadJson Sample.repeating.toJson = .ok w ∧
      (Mapper.empty.load Sample.shared).registry.get? "z" ≠ none ∧
      w.registry.get? "x" = some ⟨"A", "a", "letter", none, ["A", "x", "x"]⟩ ∧
      w.registry.get? "z" = none) ∧
    ∃ clash : NameClash, MappingConfig.check Sample.doubled.toJson =
      .issue (.invalid clash.message) Sample.doubled.toJson := by
  obtain ⟨-, hchecked⟩ := configuration_lookups
  obtain ⟨-, haccepted, hloaded⟩ := hchecked Sample.repeating.toJson Sample.repeating rfl
  obtain ⟨w, hw, hlookups⟩ := hloaded (haccepted.mp rfl) (Mapper.empty.load Sample.shared)
  obtain ⟨hdoubled, -, -⟩ := hchecked Sample.doubled.toJson Sample.doubled rfl
  refine ⟨⟨w, hw, by decide, ?_, ?_⟩, hdoubled.mpr ?_⟩
  · exact ((hlookups "x").1 _).mpr ⟨List.mem_cons_self, by decide⟩
  · exact (hlookups "z").2.2.mpr (by decide)
  · exact ⟨0, 1, _, _, "A", by decide, rfl, rfl, List.mem_cons_self, List.mem_cons_self⟩

end TypeAtlas
