import TypeAtlas.Proofs.Mapping.History

/-!
Names and aliases of a registry in use. A definition that is replaced gives up just the aliases that
lead to it, so an alias never leads to a name that is not defined, nor to a definition that does not
list it; and the names that a registry tells are those it has a definition for.
-/

namespace TypeAtlas

namespace Text

theorem mem_sortedSet {t : Text} {ts : List Text} : t ∈ sortedSet ts ↔ t ∈ ts := by
  rw [sortedSet, sort, List.mem_mergeSort, List.mem_eraseDups]

end Text

namespace Registry

variable {r : Registry}

/-! The aliases of a definition. -/

theorem get?_claimed (aliases : Keyed Text Text) (d : Definition) (x : Text) :
    (claimed aliases d).get? x = if x ∈ d.aliases then some d.name else aliases.get? x := by
  unfold claimed
  induction d.aliases generalizing aliases with
  | nil => simp
  | cons a as ih =>
    rw [List.foldl_cons, ih, Keyed.get?_set]
    by_cases hx : x = a
    · simp [hx]
    · simp [hx]

theorem get?_released (aliases : Keyed Text Text) (d : Definition) (x : Text) :
    (released aliases d).get? x =
      if x ∈ d.aliases ∧ aliases.get? x = some d.name then none else aliases.get? x := by
  unfold released
  induction d.aliases generalizing aliases with
  | nil => simp
  | cons a as ih =>
    rw [List.foldl_cons, ih]
    by_cases ha : aliases.get? a = some d.name
    · rw [if_pos ha, Keyed.get?_erase]
      by_cases hx : x = a
      · simp [hx, ha]
      · simp [hx]
    · rw [if_neg ha]
      by_cases hx : x = a
      · simp [hx, ha]
      · simp [hx]

/-- Definitions stand under their own names, and an alias leads to one that lists it. -/
structure Tied (r : Registry) : Prop where
  named : ∀ n d, r.definitions.get? n = some d → d.name = n
  listed : ∀ a n, r.aliases.get? a = some n → ∃ d, r.definitions.get? n = some d ∧ a ∈ d.aliases

namespace Tied

theorem empty : Registry.empty.Tied := ⟨nofun, nofun⟩

/-- A definition takes its aliases and leaves no other one leading to its name. -/
theorem aliases_register (h : r.Tied) (d : Definition) (x : Text) :
    (r.register d).aliases.get? x =
      if x ∈ d.aliases then some d.name
      else if r.aliases.get? x = some d.name then none else r.aliases.get? x := by
  simp only [register, get?_claimed]
  congr 1
  cases hprevious : r.definitions.get? d.name with
  | none =>
    have hfree : r.aliases.get? x ≠ some d.name := by
      intro hx
      obtain ⟨e, he, -⟩ := h.listed x d.name hx
      rw [hprevious] at he
      cases he
    rw [if_neg hfree]
  | some previous =>
    have hname := h.named d.name previous hprevious
    have hlisted : r.aliases.get? x = some d.name → x ∈ previous.aliases := by
      intro hx
      obtain ⟨e, he, hmem⟩ := h.listed x d.name hx
      rw [hprevious] at he
      cases he
      exact hmem
    simp only [get?_released, hname]
    congr 1
    exact propext ⟨And.right, fun hx => ⟨hlisted hx, hx⟩⟩

theorem register (h : r.Tied) (d : Definition) : (r.register d).Tied := by
  constructor
  · intro n e he
    change (r.definitions.set d.name d).get? n = some e at he
    rw [Keyed.get?_set] at he
    split at he
    · rename_i hn
      cases he
      exact hn.symm
    · exact h.named n e he
  · intro a n ha
    change ∃ e, (r.definitions.set d.name d).get? n = some e ∧ a ∈ e.aliases
    rw [h.aliases_register] at ha
    split at ha
    · rename_i hmem
      cases ha
      exact ⟨d, by rw [Keyed.get?_set, if_pos rfl], hmem⟩
    · split at ha
      · cases ha
      · rename_i hother
        have hn : n ≠ d.name := by
          rintro rfl
          exact hother ha
        obtain ⟨e, he, hmem⟩ := h.listed a n ha
        exact ⟨e, by rw [Keyed.get?_set, if_neg hn, he], hmem⟩

theorem registerAll (h : r.Tied) (ds : List Definition) : (ds.foldl Registry.register r).Tied := by
  induction ds generalizing r with
  | nil => exact h
  | cons d ds ih => exact ih (h.register d)

theorem ofConfig (c : MappingConfig) : (Registry.ofConfig c).Tied :=
  let h := empty.registerAll c.definitions
  ⟨h.named, h.listed⟩

theorem change (h : r.Tied) (c : Change) : (r.change c).Tied := by
  cases c with
  | register d => exact h.register d
  | addRule rule => exact ⟨h.named, h.listed⟩
  | load c => exact ofConfig c
  | clearCache => exact h

theorem after (h : r.Tied) (steps : List Step) : (steps.foldl Registry.after r).Tied := by
  induction steps generalizing r with
  | nil => exact h
  | cons step steps ih =>
    cases step with
    | ask n q => exact ih h
    | change c => exact ih (h.change c)

/-- An alias leads to the definition that lists it, whatever else its name may be. -/
theorem names_of_get? (h : r.Tied) {x : Text} {d : Definition} (hx : r.get? x = some d) :
    x = d.name ∨ x ∈ d.aliases := by
  rw [get?, owner] at hx
  cases ha : r.aliases.get? x with
  | none =>
    rw [ha] at hx
    exact .inl (h.named x d hx).symm
  | some n =>
    obtain ⟨e, he, hmem⟩ := h.listed x n ha
    rw [ha] at hx
    rw [Option.getD_some, he] at hx
    cases hx
    exact .inr hmem

end Tied

/-! The names that lead to a definition. -/

theorem has_iff {x : Text} : r.has x = true ↔ ∃ d, r.get? x = some d := by
  rw [has, Keyed.contains_iff, Keyed.mem_keys_iff]
  exact Iff.rfl

theorem mem_names {x : Text} : x ∈ r.names ↔ x ∈ r.definitions.keys ∨ x ∈ r.aliases.keys := by
  rw [names, Text.mem_sortedSet, List.mem_append]

theorem Tied.mem_names_iff (h : r.Tied) {x : Text} : x ∈ r.names ↔ ∃ d, r.get? x = some d := by
  rw [mem_names, Keyed.mem_keys_iff, Keyed.mem_keys_iff, get?, owner]
  cases ha : r.aliases.get? x with
  | none => simp
  | some n =>
    obtain ⟨d, hd, -⟩ := h.listed x n ha
    simp [hd]

theorem mem_targets {x target : Text} : (x, target) ∈ r.targets ↔
    x ∈ r.names ∧ ∃ d, r.get? x = some d ∧ d.target = target := by
  simp only [targets, List.mem_filterMap, Option.map_eq_some_iff, Prod.mk.injEq]
  constructor
  · rintro ⟨y, hy, d, hd, rfl, htarget⟩
    exact ⟨hy, d, hd, htarget⟩
  · rintro ⟨hx, d, hd, htarget⟩
    exact ⟨x, hx, d, hd, rfl, htarget⟩

theorem Tied.map_fst_targets (h : r.Tied) : r.targets.map Prod.fst = r.names := by
  have hall : ∀ x ∈ r.names,
      ((r.get? x).map fun d => (x, d.target)).map Prod.fst = some x := by
    intro x hx
    obtain ⟨d, hd⟩ := h.mem_names_iff.mp hx
    rw [hd]
    rfl
  rw [targets, List.map_filterMap, List.filterMap_congr hall]
  exact List.filterMap_some

end Registry

theorem Mapper.tied_performAll {s u : Mapper} (h : s.On s.registry) (htied : s.registry.Tied)
    {steps : List Step} (hrun : s.performAll steps = .ok u) : u.registry.Tied := by
  rw [registry_performAll h hrun]
  exact htied.after steps

/-- However a registry came about, each alias leads to a name that is defined, by a definition that
lists the alias; a name leads only to a definition that goes by it; the registry has a definition
for just the names that it tells, and the table of targets holds just these. -/
theorem aliases_tied (steps : List Step) (u : Mapper)
    (hrun : Mapper.empty.performAll steps = .ok u) :
    (∀ a n, u.registry.aliases.get? a = some n →
      ∃ d, u.registry.definitions.get? n = some d ∧ d.name = n ∧ a ∈ d.aliases) ∧
    (∀ x d, u.registry.get? x = some d → x = d.name ∨ x ∈ d.aliases) ∧
    (∀ x, ((∃ d, u.registry.get? x = some d) ↔ u.registry.has x = true) ∧
      (u.registry.has x = true ↔ x ∈ u.registry.names)) ∧
    u.registry.targets.map Prod.fst = u.registry.names ∧
    ∀ x target, (x, target) ∈ u.registry.targets ↔
      ∃ d, u.registry.get? x = some d ∧ d.target = target := by
  have htied : u.registry.Tied :=
    Mapper.tied_performAll (Mapper.on_attach _ _) Registry.Tied.empty hrun
  refine ⟨?_, fun x d => htied.names_of_get?, ?_, htied.map_fst_targets, ?_⟩
  · intro a n ha
    obtain ⟨d, hd, hmem⟩ := htied.listed a n ha
    exact ⟨d, hd, htied.named n d hd, hmem⟩
  · intro x
    exact ⟨Registry.has_iff.symm, Registry.has_iff.trans htied.mem_names_iff.symm⟩
  · intro x target
    rw [Registry.mem_targets]
    constructor
    · exact And.right
    · rintro ⟨d, hd, htarget⟩
      exact ⟨htied.mem_names_iff.mpr ⟨d, hd⟩, d, hd, htarget⟩

namespace Sample

def shared : MappingConfig :=
  ⟨[⟨"A", "a", "letter", none, ["x", "y"]⟩, ⟨"B", "b", "letter", none, ["z"]⟩], [], [], []⟩

/-- `B` takes over an alias of `A` and gives up its own; then `A` takes the name of `B` for an alias
and no longer lists any other. -/
def taken : List Step :=
  [.change (.load shared), .change (.register ⟨"B", "b", "letter", none, ["x"]⟩),
    .ask 1 (.convert "x"), .change (.register ⟨"A", "a", "letter", none, ["B"]⟩)]

end Sample

theorem aliases_tied_sample : ∃ u, Mapper.empty.performAll Sample.taken = .ok u ∧
    (∃ d, u.registry.definitions.get? "B" = some d ∧ d.name = "B" ∧ "x".toList ∈ d.aliases) ∧
    "x".toList ∈ u.registry.names ∧ "y".toList ∉ u.registry.names ∧
    ("B".toList, "a".toList) ∈ u.registry.targets ∧
    u.registry.targets.map Prod.fst = u.registry.names := by
  have hlast : ((Mapper.empty.performAll Sample.taken).toOption.any fun u =>
      decide (u.registry.aliases.get? "x" = some "B".toList ∧ u.registry.has "x" = true ∧
        u.registry.has "y" = false ∧
        u.registry.get? "B" = some ⟨"A", "a", "letter", none, ["B"]⟩)) = true := by
    decide +kernel
  obtain ⟨u, hrun, hlast⟩ := (Option.any_eq_true _ _).mp hlast
  obtain ⟨halias, hx, hy, hB⟩ := of_decide_eq_true hlast
  obtain ⟨hlisted, -, hnames, hcovered, htargets⟩ :=
    aliases_tied Sample.taken u (ok_of_toOption hrun)
  have hdropped : "y".toList ∉ u.registry.names := by
    intro hmem
    rw [(hnames "y").2.mpr hmem] at hy
    cases hy
  exact ⟨u, ok_of_toOption hrun, hlisted _ _ halias, (hnames "x").2.mp hx, hdropped,
    (htargets "B" "a").mpr ⟨_, hB, rfl⟩, hcovered⟩

end TypeAtlas
