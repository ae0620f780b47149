import Mathlib.Data.List.Induction
import Mathlib.Data.List.Nodup
import TypeAtlas.Proofs.Mapping.Aliases

/-!
Who owns a name. In a configuration that passes the check no two definitions go by one name, and in
the registry of such a configuration every name and alias leads to the definition that goes by it.
-/

namespace TypeAtlas

/-- All that a definition goes by. -/
def Definition.names (d : Definition) : List Text := d.name :: d.aliases

/-- No two definitions have one name, and none goes by what another one goes by. -/
structure Unambiguous (ds : List Definition) : Prop where
  nodup : (ds.map Definition.name).Nodup
  apart : ∀ d ∈ ds, ∀ e ∈ ds, ∀ x ∈ d.names, x ∈ e.names → d = e

theorem Unambiguous.of_append {ds es : List Definition} (h : Unambiguous (ds ++ es)) :
    Unambiguous ds := by
  constructor
  · have hnodup := h.nodup
    rw [List.map_append] at hnodup
    exact (List.nodup_append.mp hnodup).1
  · intro d hd e he
    exact h.apart d (List.mem_append_left es hd) e (List.mem_append_left es he)

/-! The check. -/

namespace MappingConfig

/-- No name loses its owner. -/
def Retains (owners owners' : List (Text × Text)) : Prop :=
  ∀ x o, owners.lookup x = some o → owners'.lookup x = some o

theorem Retains.refl (owners : List (Text × Text)) : Retains owners owners := fun _ _ => id

theorem Retains.trans {a b c : List (Text × Text)} (h : Retains a b) (h' : Retains b c) :
    Retains a c := fun x o hx => h' x o (h x o hx)

theorem retains_cons {owners : List (Text × Text)} {name owner : Text}
    (h : ∀ o, owners.lookup name = some o → o = owner) :
    Retains owners ((name, owner) :: owners) := by
  intro x o hx
  by_cases hname : x = name
  · subst hname
    rw [List.lookup_cons_self, h o hx]
  · rw [Keyed.lookup_cons_ne hname, hx]

theorem claimNames_ok {owners owners' : List (Text × Text)} {ds : List Definition}
    (h : claimNames owners ds = .ok owners') :
    Retains owners owners' ∧ (ds.map Definition.name).Nodup ∧
      ∀ d ∈ ds, owners.lookup d.name = none ∧ owners'.lookup d.name = some d.name := by
  induction ds generalizing owners with
  | nil =>
    cases h
    exact ⟨.refl _, List.nodup_nil, nofun⟩
  | cons d ds ih =>
    rw [claimNames] at h
    split at h
    · cases h
    · rename_i hfree
      have hnone : owners.lookup d.name = none := Option.not_isSome_iff_eq_none.mp hfree
      obtain ⟨hretains, hnodup, howned⟩ := ih h
      have hothers : ∀ e ∈ ds, e.name ≠ d.name := by
        intro e he heq
        have hlookup := (howned e he).1
        rw [heq, List.lookup_cons_self] at hlookup
        cases hlookup
      refine ⟨(retains_cons fun o ho => absurd (hnone.symm.trans ho) nofun).trans hretains, ?_, ?_⟩
      · rw [List.map_cons, List.nodup_cons]
        refine ⟨?_, hnodup⟩
        intro hmem
        obtain ⟨e, he, heq⟩ := List.mem_map.mp hmem
        exact hothers e he heq
      · intro e he
        rcases List.mem_cons.mp he with rfl | he
        · exact ⟨hnone, hretains e.name e.name List.lookup_cons_self⟩
        · obtain ⟨hlookup, hlast⟩ := howned e he
          rw [Keyed.lookup_cons_ne (hothers e he)] at hlookup
          exact ⟨hlookup, hlast⟩

theorem claimAliases_ok {owner : Text} {owners owners' : List (Text × Text)} {as : List Text}
    (h : claimAliases owner owners as = .ok owners') :
    Retains owners owners' ∧ ∀ a ∈ as, owners'.lookup a = some owner := by
  induction as generalizing owners with
  | nil =>
    cases h
    exact ⟨.refl _, nofun⟩
  | cons a as ih =>
    -- the alias is free, or the definition owns it already
    obtain ⟨hfree, hrest⟩ : (∀ o, owners.lookup a = some o → o = owner) ∧
        claimAliases owner ((a, owner) :: owners) as = .ok owners' := by
      rw [claimAliases] at h
      split at h
      · rename_i earlier hearlier
        split at h
        · rename_i heq
          refine ⟨?_, h⟩
          intro o ho
          rw [hearlier] at ho
          cases ho
          exact heq
        · cases h
      · rename_i hnone
        exact ⟨fun o ho => absurd (hnone.symm.trans ho) nofun, h⟩
    obtain ⟨hretains, howned⟩ := ih hrest
    refine ⟨(retains_cons hfree).trans hretains, ?_⟩
    intro x hx
    rcases List.mem_cons.mp hx with rfl | hx
    · exact hretains x owner List.lookup_cons_self
    · exact howned x hx

theorem claimAll_ok {owners owners' : List (Text × Text)} {ds : List Definition}
    (h : claimAll owners ds = .ok owners') :
    Retains owners owners' ∧ ∀ d ∈ ds, ∀ a ∈ d.aliases, owners'.lookup a = some d.name := by
  induction ds generalizing owners with
  | nil =>
    cases h
    exact ⟨.refl _, nofun⟩
  | cons d ds ih =>
    obtain ⟨next, hclaim, hrest⟩ := ok_of_bind h
    obtain ⟨hretains, howned⟩ := claimAliases_ok hclaim
    obtain ⟨hretains', howned'⟩ := ih hrest
    refine ⟨hretains.trans hretains', ?_⟩
    intro e he a ha
    rcases List.mem_cons.mp he with rfl | he
    · exact hretains' a e.name (howned a ha)
    · exact howned' e he a ha

theorem unambiguous_of_clash {ds : List Definition} (h : clash? ds = none) : Unambiguous ds := by
  unfold clash? at h
  split at h
  · rename_i owners hclaims
    obtain ⟨named, hnames, haliases⟩ := ok_of_bind hclaims
    obtain ⟨-, hnodup, hnamed⟩ := claimNames_ok hnames
    obtain ⟨hretains, haliased⟩ := claimAll_ok haliases
    have howner : ∀ d ∈ ds, ∀ x ∈ d.names, owners.lookup x = some d.name := by
      intro d hd x hx
      rcases List.mem_cons.mp hx with rfl | hx
      · exact hretains d.name d.name (hnamed d hd).2
      · exact haliased d hd x hx
    refine ⟨hnodup, ?_⟩
    intro d hd e he x hxd hxe
    have hsame := (howner d hd x hxd).symm.trans (howner e he x hxe)
    exact List.inj_on_of_nodup_map hnodup hd he (Option.some.inj hsame)
  · cases h

/-- Only definitions own names, and only names they go by. -/
def Owned (ds : List Definition) (owners : List (Text × Text)) : Prop :=
  ∀ x o, owners.lookup x = some o → ∃ d ∈ ds, d.name = o ∧ x ∈ d.names

theorem Owned.cons {ds : List Definition} {owners : List (Text × Text)} (h : Owned ds owners)
    {d : Definition} (hd : d ∈ ds) {x : Text} (hx : x ∈ d.names) :
    Owned ds ((x, d.name) :: owners) := by
  intro y o hy
  by_cases hyx : y = x
  · subst hyx
    rw [List.lookup_cons_self] at hy
    cases hy
    exact ⟨d, hd, rfl, hx⟩
  · rw [Keyed.lookup_cons_ne hyx] at hy
    exact h y o hy

section Unambiguous

variable {all : List Definition} {owners : List (Text × Text)}

theorem claimNames_owned {ds : List Definition} (howned : Owned all owners)
    (hall : ∀ d ∈ ds, d ∈ all) (hfree : ∀ d ∈ ds, owners.lookup d.name = none)
    (hnodup : (ds.map Definition.name).Nodup) :
    ∃ owners', claimNames owners ds = .ok owners' ∧ Owned all owners' := by
  induction ds generalizing owners with
  | nil => exact ⟨owners, rfl, howned⟩
  | cons d ds ih =>
    rw [List.map_cons, List.nodup_cons] at hnodup
    rw [claimNames, hfree d List.mem_cons_self]
    apply ih (howned.cons (hall d List.mem_cons_self) List.mem_cons_self)
      (fun e he => hall e (List.mem_cons_of_mem d he)) _ hnodup.2
    intro e he
    have hne : e.name ≠ d.name := fun heq => hnodup.1 (heq ▸ List.mem_map_of_mem he)
    rw [Keyed.lookup_cons_ne hne]
    exact hfree e (List.mem_cons_of_mem d he)

variable (h : Unambiguous all)
include h

theorem claimAliases_owned {d : Definition} (hd : d ∈ all) {as : List Text}
    (has : ∀ a ∈ as, a ∈ d.aliases) (howned : Owned all owners) :
    ∃ owners', claimAliases d.name owners as = .ok owners' ∧ Owned all owners' := by
  induction as generalizing owners with
  | nil => exact ⟨owners, rfl, howned⟩
  | cons a as ih =>
    have ha : a ∈ d.names := List.mem_cons_of_mem d.name (has a List.mem_cons_self)
    have hrest := ih (fun b hb => has b (List.mem_cons_of_mem a hb)) (howned.cons hd ha)
    rw [claimAliases]
    split
    · rename_i earlier hearlier
      obtain ⟨e, he, rfl, hae⟩ := howned a earlier hearlier
      rwa [if_pos (congrArg Definition.name (h.apart e he d hd a hae ha))]
    · exact hrest

theorem claimAll_owned {ds : List Definition} (hall : ∀ d ∈ ds, d ∈ all)
    (howned : Owned all owners) : ∃ owners', claimAll owners ds = .ok owners' := by
  induction ds generalizing owners with
  | nil => exact ⟨owners, rfl⟩
  | cons d ds ih =>
    obtain ⟨next, hnext, howned⟩ :=
      claimAliases_owned h (hall d List.mem_cons_self) (fun _ => id) howned
    obtain ⟨last, hlast⟩ := ih (fun e he => hall e (List.mem_cons_of_mem d he)) howned
    refine ⟨last, ?_⟩
    rw [claimAll, hnext]
    exact hlast

theorem clash_of_unambiguous : clash? all = none := by
  have hnone : Owned all [] := nofun
  obtain ⟨named, hnamed, howned⟩ :=
    claimNames_owned hnone (fun _ => id) (fun _ _ => rfl) h.nodup
  obtain ⟨owners, howners⟩ := claimAll_owned h (fun _ => id) howned
  rw [clash?, hnamed]
  simp only [bind, Except.bind, howners]

end Unambiguous

theorem clash_of_check {v : Json} {c : MappingConfig} (h : check v = .value c) :
    clash? c.definitions = none := by
  unfold check at h
  cases hparts : checkParts v with
  | value found =>
    rw [hparts, Checked.andThen] at h
    split at h
    · cases h
    · rename_i hnone
      cases h
      exact hnone
  | issues found =>
    rw [hparts] at h
    cases h
  | stopped fault =>
    rw [hparts] at h
    cases h

end MappingConfig

/-! The registry of a configuration. -/

namespace Registry

variable {r : Registry} {d e : Definition} {x : Text}

theorem Tied.owner_eq (h : r.Tied) (hx : r.get? x = some d) : r.owner x = d.name :=
  (h.named _ d hx).symm

/-- What leads to a definition still does so when another one is registered that does not list it. -/
theorem Tied.get?_register_of_ne (h : r.Tied) (hx : r.get? x = some d) (hname : d.name ≠ e.name)
    (hfree : x ∉ e.aliases) : (r.register e).get? x = some d := by
  have howner := h.owner_eq hx
  have hkept : (r.register e).owner x = r.owner x := by
    rw [owner, h.aliases_register, if_neg hfree]
    split
    · rename_i halias
      rw [owner, halias] at howner
      exact absurd howner.symm hname
    · rfl
  rw [get?, hkept]
  change (r.definitions.set e.name e).get? (r.owner x) = some d
  rw [Keyed.get?_set, if_neg (howner ▸ hname)]
  exact hx

/-- A definition is found by all its names, unless its own name is an alias of another one. -/
theorem Tied.get?_register (h : r.Tied) (hname : ∀ n, r.aliases.get? e.name = some n → n = e.name)
    (hx : x ∈ e.names) : (r.register e).get? x = some e := by
  have howner : (r.register e).owner x = e.name := by
    rw [owner, h.aliases_register]
    split
    · rfl
    · rename_i hother
      obtain rfl : x = e.name := (List.mem_cons.mp hx).resolve_right hother
      split
      · rfl
      · rename_i hnot
        cases halias : r.aliases.get? e.name with
        | none => rfl
        | some n => exact absurd (hname n halias ▸ halias) hnot
  rw [get?, howner]
  change (r.definitions.set e.name e).get? e.name = some e
  rw [Keyed.get?_set, if_pos rfl]

theorem mem_of_stored {ds : List Definition} {n : Text}
    (h : (ds.foldl register empty).definitions.get? n = some d) : d ∈ ds := by
  induction ds using List.reverseRecOn with
  | nil => cases h
  | append_singleton ds e ih =>
    rw [List.foldl_concat] at h
    change ((ds.foldl register empty).definitions.set e.name e).get? n = some d at h
    rw [Keyed.get?_set] at h
    split at h
    · cases h
      exact List.mem_append_right ds List.mem_cons_self
    · exact List.mem_append_left [e] (ih h)

theorem get?_registerAll {ds : List Definition} (h : Unambiguous ds) (hd : d ∈ ds)
    (hx : x ∈ d.names) : (ds.foldl register empty).get? x = some d := by
  induction ds using List.reverseRecOn with
  | nil => cases hd
  | append_singleton ds e ih =>
    have htied := Tied.empty.registerAll ds
    have he : e ∈ ds ++ [e] := List.mem_append_right ds List.mem_cons_self
    rw [List.foldl_concat]
    by_cases hde : d = e
    · subst hde
      apply htied.get?_register _ hx
      -- an earlier definition with this alias would go by the name of this one
      intro n hn
      obtain ⟨f, hf, hmem⟩ := htied.listed d.name n hn
      have hfd : d = f := h.apart d he f (List.mem_append_left [d] (mem_of_stored hf)) d.name
        List.mem_cons_self (List.mem_cons_of_mem f.name hmem)
      rw [← htied.named n f hf, ← hfd]
    · have hd' : d ∈ ds := (List.mem_append.mp hd).resolve_right fun hlast =>
        hde (List.mem_singleton.mp hlast)
      apply htied.get?_register_of_ne (ih h.of_append hd')
      · intro hsame
        exact hde (List.inj_on_of_nodup_map h.nodup hd he hsame)
      · intro hmem
        exact hde (h.apart d hd e he x hx (List.mem_cons_of_mem e.name hmem))

/-- Every name and alias of a configuration leads to its own definition. -/
theorem get?_ofConfig {c : MappingConfig} (h : MappingConfig.clash? c.definitions = none)
    (hd : d ∈ c.definitions) (hx : x ∈ d.names) : (ofConfig c).get? x = some d :=
  get?_registerAll (MappingConfig.unambiguous_of_clash h) hd hx

end Registry

end TypeAtlas
