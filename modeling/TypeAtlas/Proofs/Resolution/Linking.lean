import TypeAtlas.Proofs.Resolution.Course

/-!
Where the links of dependencies come from: a dependency has a link only if the page of its
declaration is known, and then the link is one of that page.
-/

namespace TypeAtlas

namespace LinkTable

theorem get?_add {t : LinkTable} {text target key found : Text}
    (h : (t.add text target).get? key = some found) : found = target ∨ t.get? key = some found := by
  have hset {t : LinkTable} {name : Text} (h : (t.set name target).get? key = some found) :
      found = target ∨ t.get? key = some found := by
    rw [Keyed.get?_set] at h
    split at h
    · cases h
      exact .inl rfl
    · exact .inr h
  simp only [add] at h
  split at h
  · exact hset h
  · exact (hset h).elim .inl hset

theorem mem_of_ofLinks {links : List (Text × Text)} {key target : Text}
    (h : (ofLinks links).get? key = some target) : target ∈ links.map Prod.snd := by
  suffices hfold : ∀ (links : List (Text × Text)) (t : LinkTable),
      (links.foldl (fun t link => add t link.1 link.2) t).get? key = some target →
        target ∈ links.map Prod.snd ∨ t.get? key = some target by
    exact (hfold links .empty h).resolve_right nofun
  intro links
  induction links with
  | nil => exact fun t h => .inr h
  | cons link links ih =>
    intro t h
    rcases ih (t.add link.1 link.2) h with hmem | hadd
    · exact .inl (List.mem_cons_of_mem _ hmem)
    · rcases get?_add hadd with rfl | hget
      · exact .inl List.mem_cons_self
      · exact .inr hget

end LinkTable

namespace Dependency

theorem distinctFrom_cons (seen : List Text) (d : Dependency) (ds : List Dependency) :
    distinctFrom seen (d :: ds) = if d.fullName ∈ seen then distinctFrom seen ds
      else d :: distinctFrom (d.fullName :: seen) ds := rfl

theorem mem_of_mem_distinctFrom {seen : List Text} {ds : List Dependency} {x : Dependency}
    (h : x ∈ distinctFrom seen ds) : x ∈ ds := by
  induction ds generalizing seen with
  | nil => cases h
  | cons d ds ih =>
    rw [distinctFrom_cons] at h
    split at h
    · exact List.mem_cons_of_mem d (ih h)
    · rcases List.mem_cons.mp h with rfl | h
      · exact List.mem_cons_self
      · exact List.mem_cons_of_mem d (ih h)

/-- The dependencies of a declaration as such have no links yet. -/
theorem of_mem_ofDeclaration {r : Registry} {source : Text} {d : Declaration} {x : Dependency}
    (h : x ∈ ofDeclaration r source d) : x.source = source ∧ x.link = none := by
  obtain ⟨use, _, huse⟩ := List.mem_flatMap.mp (mem_of_mem_distinctFrom h)
  obtain ⟨reference, _, rfl⟩ := List.mem_map.mp huse
  exact ⟨rfl, rfl⟩

theorem mem_of_linkTo? {primary : Option Text} {links : List (Text × Text)} {x : Dependency}
    {target : Text} (h : x.linkTo? primary (.ofLinks links) = some target) :
    target ∈ links.map Prod.snd := by
  obtain ⟨text, _, htext⟩ := List.exists_of_findSome?_eq_some h
  obtain ⟨found, hfound, htarget⟩ := Option.bind_eq_some_iff.mp htext
  split at htarget
  · cases htarget
  · cases htarget
    exact LinkTable.mem_of_ofLinks hfound

end Dependency

namespace Guide

variable {g : Guide} {name : Text} {d : Declaration} {x : Dependency}

theorem uses_congr {d' : Declaration} (h : d.uses = d'.uses)
    (kept : Option PageLinks) : g.uses name d kept = g.uses name d' kept := by
  have hof (source : Text) : Dependency.ofDeclaration g.registry source d =
      Dependency.ofDeclaration g.registry source d' := by
    rw [Dependency.ofDeclaration, h]
    rfl
  cases kept <;> simp only [uses, hof]

/-- Without its page, a declaration leads nowhere. -/
theorem unlinked_of_uses_none (h : x ∈ g.uses name d none) : x.isLinked = false := by
  obtain ⟨_, hlink⟩ := Dependency.of_mem_ofDeclaration h
  rw [Dependency.isLinked, hlink]
  rfl

/-- With its page, a declaration leads where the links of the page lead. -/
theorem link_of_uses_some {p : PageLinks} (h : x ∈ g.uses name d (some p))
    (hlinked : x.isLinked = true) :
    x.source = p.source ∧ ∃ target ∈ p.links.map Prod.snd, x.link = some target := by
  obtain ⟨y, hy, rfl⟩ := List.mem_map.mp h
  obtain ⟨hsource, hlink⟩ := Dependency.of_mem_ofDeclaration hy
  refine ⟨hsource, ?_⟩
  cases htarget : y.linkTo? g.settings.primaryNamespace (.ofLinks p.links) with
  | none =>
    rw [Dependency.isLinked, Dependency.attach, htarget, hlink] at hlinked
    cases hlinked
  | some target =>
    refine ⟨target, Dependency.mem_of_linkTo? htarget, ?_⟩
    rw [Dependency.attach, htarget]
    rfl

end Guide

end TypeAtlas
