import TypeAtlas.Proofs.Mapping.Reloading

/-!
What a registration does to lookups. The registered definition is found by all its aliases. By its
own name it is found unless that name is an alias of another definition, and it hides another one
just when it lists the name of that one as an alias; nothing checks for either.
-/

namespace TypeAtlas

namespace Registry

variable {r : Registry} {d e f : Definition} {x : Text}

/-! The definitions. -/

theorem Tied.get?_name (h : r.Tied) (he : e ∈ r.definitions.values) :
    r.definitions.get? e.name = some e := by
  obtain ⟨n, hn⟩ := mem_values.mp he
  rwa [h.named n e hn]

theorem Tied.mem_values_register_iff (h : r.Tied) :
    e ∈ (r.register d).definitions.values ↔
      e = d ∨ e ∈ r.definitions.values ∧ e.name ≠ d.name := by
  constructor
  · intro he
    have hget := (h.register d).get?_name he
    change (r.definitions.set d.name d).get? e.name = some e at hget
    rw [Keyed.get?_set] at hget
    split at hget
    · exact .inl (Option.some.inj hget).symm
    · rename_i hname
      exact .inr ⟨mem_values.mpr ⟨e.name, hget⟩, hname⟩
  · rintro (rfl | ⟨he, hname⟩)
    · exact mem_values_register r e
    · refine mem_values.mpr ⟨e.name, ?_⟩
      change (r.definitions.set d.name d).get? e.name = some e
      rw [Keyed.get?_set, if_neg hname]
      exact h.get?_name he

/-! Where names lead. -/

/-- A name leads to the definition that lists it, or is free again if it led to an earlier
definition of the same name, or leads where it did. -/
theorem Tied.owner_register (h : r.Tied) (d : Definition) (x : Text) :
    (r.register d).owner x =
      if x ∈ d.aliases then d.name else if r.owner x = d.name then x else r.owner x := by
  rw [owner, h.aliases_register, owner]
  split
  · rfl
  · cases halias : r.aliases.get? x with
    | none =>
      -- a name that is no alias leads to itself, before and after
      rw [if_neg (Option.some_ne_none d.name).symm, Option.getD_none, ite_self]
    | some n =>
      simp only [Option.some.injEq, Option.getD_some]
      split
      · rfl
      · rfl

theorem Tied.get?_registered (h : r.Tied) (d : Definition) (x : Text) :
    (r.register d).get? x =
      if x ∈ d.aliases then some d
      else if r.owner x = d.name then (r.definitions.set d.name d).get? x
      else r.get? x := by
  change (r.definitions.set d.name d).get? ((r.register d).owner x) = _
  rw [h.owner_register]
  split
  · rw [Keyed.get?_set, if_pos rfl]
  · split
    · rfl
    · rename_i hother
      rw [Keyed.get?_set, if_neg hother]
      rfl

theorem Tied.owner_of_none (h : r.Tied) (hx : r.get? x = none) : r.owner x = x := by
  rw [owner]
  cases halias : r.aliases.get? x with
  | none => rfl
  | some n =>
    obtain ⟨e, he, -⟩ := h.listed x n halias
    rw [get?, owner, halias, Option.getD_some, he] at hx
    cases hx

/-- The name of the registered definition leads to it unless it is taken by another definition. -/
theorem Tied.get?_register_name (h : r.Tied) (d : Definition) :
    (r.register d).get? d.name = some d ↔
      d.name ∈ d.aliases ∨ ∀ e, r.get? d.name = some e → e.name = d.name := by
  rw [h.get?_registered]
  by_cases hlisted : d.name ∈ d.aliases
  · simp [hlisted]
  · rw [if_neg hlisted]
    cases hget : r.get? d.name with
    | none =>
      rw [if_pos (h.owner_of_none hget), Keyed.get?_set, if_pos rfl]
      simp
    | some e =>
      rw [h.owner_eq hget]
      by_cases hname : e.name = d.name
      · simp [hname]
      · have hne : e ≠ d := fun heq => hname (congrArg Definition.name heq)
        simp [hlisted, hname, hne]

/-- Another definition is found by its name unless the registered one has listed it, or a third one
has taken it. A name that the definition had taken before, and no longer lists, is free again. -/
theorem Tied.get?_register_other (h : r.Tied) (he : e ∈ r.definitions.values)
    (hname : e.name ≠ d.name) :
    (r.register d).get? e.name = some e ↔
      e.name ∉ d.aliases ∧ ∀ f, r.get? e.name = some f → f = e ∨ f.name = d.name := by
  rw [h.get?_registered]
  by_cases hlisted : e.name ∈ d.aliases
  · have hne : d ≠ e := fun heq => hname (congrArg Definition.name heq.symm)
    simp [hlisted, hne]
  · rw [if_neg hlisted]
    cases hget : r.get? e.name with
    | none =>
      have hstored := h.get?_name he
      rw [get?, h.owner_of_none hget, hstored] at hget
      cases hget
    | some f =>
      rw [h.owner_eq hget]
      by_cases hf : f.name = d.name
      · rw [if_pos hf, Keyed.get?_set, if_neg hname, h.get?_name he]
        simp [hlisted, hf]
      · simp [hlisted, hf]

/-- Where each definition is found by all its names, one that shares none of its names with another
is added or replaced without loss. -/
theorem Tied.settled_register (h : r.Tied) (hsettled : r.Settled)
    (hapart : ∀ e ∈ r.definitions.values, e.name ≠ d.name → ∀ x ∈ e.names, x ∉ d.names) :
    (r.register d).Settled := by
  intro e he x hx
  rcases h.mem_values_register_iff.mp he with rfl | ⟨he, hname⟩
  · apply h.get?_register _ hx
    intro n hn
    obtain ⟨f, hf, hmem⟩ := h.listed e.name n hn
    have hfn := h.named n f hf
    by_contra hne
    exact hapart f (mem_values.mpr ⟨n, hf⟩) (hfn ▸ hne) e.name (List.mem_cons_of_mem f.name hmem)
      List.mem_cons_self
  · exact h.get?_register_of_ne (hsettled e he x hx) hname
      fun hmem => hapart e he hname x hx (List.mem_cons_of_mem d.name hmem)

end Registry

/-- However a registry came about: a definition that is registered replaces just the one of its name,
and all its aliases lead to it. Its own name does if the name led to no other definition or is among
its aliases. Every other definition is found by its name if the new one does not list that name and
no third one had taken it. So nothing is lost where no name is shared. -/
theorem registration_found (steps : List Step) (u : Mapper)
    (hrun : Mapper.empty.performAll steps = .ok u) (d : Definition) :
    (∀ e, e ∈ (u.register d).registry.definitions.values ↔
      e = d ∨ e ∈ u.registry.definitions.values ∧ e.name ≠ d.name) ∧
    (∀ a ∈ d.aliases, (u.register d).registry.get? a = some d) ∧
    ((u.register d).registry.get? d.name = some d ↔
      d.name ∈ d.aliases ∨ ∀ e, u.registry.get? d.name = some e → e.name = d.name) ∧
    (∀ e ∈ u.registry.definitions.values, e.name ≠ d.name →
      ((u.register d).registry.get? e.name = some e ↔
        e.name ∉ d.aliases ∧
          ∀ f, u.registry.get? e.name = some f → f = e ∨ f.name = d.name)) ∧
    (u.registry.Settled → (∀ e ∈ u.registry.definitions.values, e.name ≠ d.name →
      ∀ x ∈ e.names, x ∉ d.names) → (u.register d).registry.Settled) := by
  have htied : u.registry.Tied :=
    Mapper.tied_performAll (Mapper.on_attach _ _) Registry.Tied.empty hrun
  refine ⟨fun e => htied.mem_values_register_iff, ?_, htied.get?_register_name d,
    fun e => htied.get?_register_other, htied.settled_register⟩
  intro a ha
  exact (htied.get?_registered d a).trans (if_pos ha)

namespace Sample

/-- `A` without the alias that it has in `taken`, the name of `B`. -/
def replaced : Definition := ⟨"A", "a", "letter", none, []⟩

/-- Goes by an alias of `A` in `single`. -/
def namesake : Definition := ⟨"x", "ex", "letter", none, []⟩

/-- Lists the name of `A`. -/
def usurper : Definition := ⟨"B", "b", "letter", none, ["A"]⟩

end Sample

/-- `B` is hidden by an alias of `A`, until `A` is replaced by a definition without it. -/
theorem registration_found_sample : ∃ u, Mapper.empty.performAll Sample.taken = .ok u ∧
    u.registry.get? "B" ≠ some ⟨"B", "b", "letter", none, ["x"]⟩ ∧
    (u.register Sample.replaced).registry.get? "A" = some Sample.replaced ∧
    (u.register Sample.replaced).registry.get? "B" = some ⟨"B", "b", "letter", none, ["x"]⟩ := by
  have hlast : ((Mapper.empty.performAll Sample.taken).toOption.any fun u =>
      decide (⟨"B", "b", "letter", none, ["x"]⟩ ∈ u.registry.definitions.values ∧
        u.registry.get? "A" = some ⟨"A", "a", "letter", none, ["B"]⟩ ∧
        u.registry.get? "B" = some ⟨"A", "a", "letter", none, ["B"]⟩)) = true := by
    with_unfolding_all decide
  obtain ⟨u, hrun, hlast⟩ := (Option.any_eq_true _ _).mp hlast
  obtain ⟨hstored, hA, hB⟩ := of_decide_eq_true hlast
  obtain ⟨-, -, hname, hothers, -⟩ :=
    registration_found Sample.taken u (ok_of_toOption hrun) Sample.replaced
  refine ⟨u, ok_of_toOption hrun, ?_, hname.mpr (.inr ?_), (hothers _ hstored (by decide)).mpr ?_⟩
  · rw [hB]
    decide
  · intro e he
    obtain rfl := Option.some.inj (hA.symm.trans he)
    rfl
  · refine ⟨by decide, fun f hf => .inr ?_⟩
    obtain rfl := Option.some.inj (hB.symm.trans hf)
    rfl

/-- A checked definition is registered and its name still leads to another one, of which that name is
an alias; and one that lists the name of another hides it. -/
theorem registration_hidden :
    MappingConfig.check Sample.single.toJson = .value Sample.single ∧
    Definition.check Sample.namesake.toJson = .value Sample.namesake ∧
    Definition.check Sample.usurper.toJson = .value Sample.usurper ∧
    ∃ u e, Mapper.empty.performAll [.change (.load Sample.single)] = .ok u ∧
      (u.register Sample.namesake).registry.get? Sample.namesake.name = some e ∧
      e ≠ Sample.namesake ∧
      e ∈ (u.register Sample.usurper).registry.definitions.values ∧
      (u.register Sample.usurper).registry.get? e.name = some Sample.usurper ∧
      Sample.usurper ≠ e := by
  refine ⟨rfl, rfl, rfl, Mapper.empty.load Sample.single, ⟨"A", "a", "letter", none, ["x"]⟩, rfl, ?_⟩
  decide

end TypeAtlas
