import TypeAtlas.Proofs.Resolution.Heeding

/-!
The paths that a run over a consistent set of pages records. The path to a declaration is a way from
the root along links, through declarations that are all different. A name is reported only if some
declaration refers to a name on its own path.
-/

namespace TypeAtlas

open Run

namespace Atlas

/-- A way from the root along links, on which no name occurs twice. -/
structure Way (a : Atlas) (path : List Text) : Prop where
  start : path.head? = some a.root
  nodup : path.Nodup
  chain : path.IsChain a.LeadsTo

variable {a : Atlas} {path : List Text} {name other : Text}

theorem Way.extend (h : a.Way (path ++ [name])) (hl : a.LeadsTo name other)
    (hnew : other ∉ path ++ [name]) : a.Way (path ++ [name] ++ [other]) := by
  refine ⟨?_, ?_, ?_⟩
  · rw [List.head?_append, h.start]
    rfl
  · rw [List.nodup_append]
    refine ⟨h.nodup, List.nodup_singleton other, ?_⟩
    rintro y hy z hz rfl
    exact hnew (List.mem_singleton.mp hz ▸ hy)
  · apply h.chain.append (List.isChain_singleton other)
    intro y hy z hz
    rw [List.getLast?_concat] at hy
    cases hy
    cases hz
    exact hl

end Atlas

variable {a : Atlas} {names : Set Text} {k : Nat} {name : Text} {x : Dependency}
  {s t : Run}

/-- Where a stored declaration refers to is what its page says. -/
theorem Charted.linksTo_iff (h : Charted a names s)
    (hname : name ∈ s.repository.declarations.keys) : LinksTo a.guide s name x ↔
      ∃ d kept, a.held name = some (d, kept) ∧ x ∈ a.guide.uses name d kept ∧
        x.isLinked = true := by
  obtain ⟨d, hd⟩ := Keyed.mem_keys_iff.mp hname
  obtain ⟨d', hheld, huses⟩ := h.faithful name d hd
  constructor
  · rintro ⟨e, he, hx, hlinked⟩
    rw [hd] at he
    cases he
    exact ⟨d', _, hheld, Guide.uses_congr huses _ ▸ hx, hlinked⟩
  · rintro ⟨e, kept, he, hx, hlinked⟩
    rw [hheld] at he
    cases he
    exact ⟨d, hd, Guide.uses_congr huses _ ▸ hx, hlinked⟩

theorem Charted.finish (h : Charted a names s) : Charted a names (finish a.guide s) := by
  have hrepository := finish_repository a.guide s
  obtain ⟨isCapped, hresolver⟩ := finish_resolver a.guide s
  constructor
  · rw [hrepository]
    exact h.stored
  · rw [hrepository, hresolver]
    exact h.faithful
  · rw [hrepository, hresolver]
    exact h.pages
  · rw [hrepository, hresolver]
    exact h.circular
  · rw [hrepository, hresolver]
    exact h.types
  · rw [hrepository, hresolver]
    exact h.ancestry
  · rw [hresolver]
    exact h.missing

theorem Charted.leads (ha : a.Consistent) (h : Charted a {x | a.Within k x} s)
    (hx : LinksTo a.guide s name x) : a.LeadsTo name x.fullName ∧
      a.guide.Leads x (a.page x.fullName) ∧ a.Linked x.fullName := by
  have hname : name ∈ s.repository.declarations.keys :=
    Keyed.mem_keys_iff.mpr (hx.imp fun _ h => h.1)
  obtain ⟨d, kept, hheld, hx, hlinked⟩ := (h.linksTo_iff hname).mp hx
  exact ⟨⟨d, kept, hheld, x, hx, hlinked, rfl⟩,
    ha.leads_of_held (ha.named (h.mem_names hname)) hheld hx hlinked⟩

/-- An item that a stored declaration leads to, with the path to it and the location of its page. -/
structure Addressed (a : Atlas) (s : Run) (parent : Text) (i : Item) : Prop where
  stored : parent ∈ s.repository.declarations.keys
  path : i.path = s.trail parent
  leads : a.LeadsTo parent i.name
  other : i.name ≠ parent
  location : i.location = a.page i.name
  linked : a.Linked i.name

/-- Every path is a way from the root, and every name that is reported lies on the path of a
declaration that refers to it. -/
structure Traced (a : Atlas) (s : Run) : Prop where
  recorded : s.repository.declarations.keys ⊆ s.resolver.context.ancestry.keys
  ways : ∀ name path, s.resolver.context.ancestry.get? name = some path → a.Way (path ++ [name])
  pending : ∀ i ∈ s.resolver.pending.values, ∃ parent, Addressed a s parent i
  circular : ∀ name ∈ s.resolver.circular.keys, ∃ parent ∈ s.repository.declarations.keys,
    name ∈ s.resolver.context.pathTo parent ∧ a.LeadsTo parent name
  counted : s.resolver.stats.circular = s.resolver.circular.size

namespace Traced

theorem pathTo_of_gains (h : Traced a s) (ht : Gains s t)
    (hname : name ∈ s.repository.declarations.keys) :
    t.resolver.context.pathTo name = s.resolver.context.pathTo name := by
  obtain ⟨path, hpath⟩ := Keyed.mem_keys_iff.mp (h.recorded hname)
  rw [Context.pathTo, Context.pathTo, hpath, ht.ancestry name path hpath]

theorem addressed_of_gains (h : Traced a s) (ht : Gains s t) {parent : Text} {i : Item}
    (hi : Addressed a s parent i) : Addressed a t parent i :=
  ⟨ht.keys hi.stored, by rw [hi.path, trail, trail, h.pathTo_of_gains ht hi.stored], hi.leads,
    hi.other, hi.location, hi.linked⟩

theorem way_trail (h : Traced a s) (hname : name ∈ s.repository.declarations.keys) :
    a.Way (s.trail name) := by
  obtain ⟨path, hpath⟩ := Keyed.mem_keys_iff.mp (h.recorded hname)
  rw [trail, Context.pathTo, hpath]
  exact h.ways name path hpath

/-! Looking through declarations. -/

theorem looks (h : Traced a s) (ht : Looks s t)
    (hpending : ∀ i ∈ t.resolver.pending.values, ∃ parent, Addressed a s parent i) :
    Traced a t := by
  have hgains := ht.gains
  refine ⟨?_, ?_, ?_, ?_, ?_⟩
  · rw [ht.declarations, ht.ancestry]
    exact h.recorded
  · rw [ht.ancestry]
    exact h.ways
  · exact fun i hi => (hpending i hi).imp fun _ hi => h.addressed_of_gains hgains hi
  · rw [ht.circular, ht.declarations]
    intro name hname
    obtain ⟨parent, hparent, hpath, hleads⟩ := h.circular name hname
    exact ⟨parent, hparent, by rw [h.pathTo_of_gains hgains hparent]; exact hpath, hleads⟩
  · rw [ht.stats, ht.circular, h.counted]

theorem offered (ha : a.Consistent) (h : Traced a s) (hs : Charted a {x | a.Within k x} s)
    (hx : LinksTo a.guide s name x) (ht : Offered a.guide name x s t) : Traced a t := by
  apply h.looks ht.looks
  intro i hi
  rcases ht.mem_pending hi with hi | ⟨hsettled, location, hl, rfl⟩
  · exact h.pending i hi
  · have hname : name ∈ s.repository.declarations.keys :=
      Keyed.mem_keys_iff.mpr (hx.imp fun _ h => h.1)
    obtain ⟨hleads, hlocation, hlinked⟩ := hs.leads ha hx
    have hsame : Except.ok location = Except.ok (a.page x.fullName) := hl.symm.trans hlocation
    exact ⟨name, hname, rfl, hleads, (unsettled hsettled).2.1, Except.ok.inj hsame, hlinked⟩

theorem discover (ha : a.Consistent) (hroot : a.guide.settings.documentRoot = none)
    (h : Traced a s) (hs : Charted a {x | a.Within k x} s) :
    ∃ t, (discover a.guide).run s = (.ok (), t) ∧ Traced a t := by
  have hreads : Reads a.guide s (Traced a) fun _ _ _ => True := by
    refine ⟨fun name x hx => ⟨_, (hs.leads ha hx).2.1⟩, ?_, ?_, fun _ _ _ _ _ _ => trivial⟩
    · exact fun u name links _ hu => hu.looks (looks_begin u name links) hu.pending
    · intro name x u t hx hsu hu ht
      have hx' : LinksTo a.guide u name x := hx.builds hsu.looks.builds
      exact ⟨hu.offered ha (hs.looks hsu.looks) hx' ht, trivial⟩
  obtain ⟨t, hrun, ht, _⟩ := hreads.discover hroot h
  exact ⟨t, hrun, ht⟩

/-! Settling a round. -/

/-- The declaration on the page of an item comes by the path of the item. -/
theorem store (h : Traced a s) {parent : Text} {i : Item} (hi : Addressed a s parent i)
    (hpath : i.path ⊆ s.resolver.context.ancestry.keys) {d : Declaration}
    (hfull : d.fullName = i.name) (kept : Option PageLinks) :
    Traced a ((s.store d).record d kept i.path) := by
  have hgains := gains_record s d kept i.path
  generalize ht : (s.store d).record d kept i.path = t at hgains
  obtain ⟨pages, hrecord, _⟩ := (s.store d).record_eq d kept i.path
  rw [ht] at hrecord
  have hancestry : t.resolver.context.ancestry =
      s.resolver.context.ancestry.setNew d.fullName i.path := by rw [hrecord]; rfl
  have hdeclarations : t.repository.declarations =
      (s.repository.add d.fullName d).2.declarations := by rw [hrecord]; rfl
  have hpending : t.resolver.pending = s.resolver.pending := by rw [hrecord]; rfl
  have hcircular : t.resolver.circular = s.resolver.circular := by rw [hrecord]; rfl
  have hstats : t.resolver.stats = s.resolver.stats := by rw [hrecord]; rfl
  refine ⟨?_, ?_, ?_, ?_, ?_⟩
  · intro name hname
    rw [hdeclarations] at hname
    rw [hancestry]
    exact Keyed.mem_keys_setNew.mpr ((Repository.mem_keys_add.mp hname).imp id (h.recorded ·))
  · intro name path hname
    rw [hancestry] at hname
    rcases Keyed.eq_of_get?_setNew hname with hname | ⟨rfl, rfl, hnew⟩
    · exact h.ways name path hname
    · have hway := h.way_trail hi.stored
      rw [hfull, hi.path, trail] at *
      exact hway.extend hi.leads fun hmem => hnew (hpath hmem)
  · rw [hpending]
    exact fun j hj => (h.pending j hj).imp fun _ hj => h.addressed_of_gains hgains hj
  · rw [hcircular]
    intro name hname
    obtain ⟨other, hother, hon, hleads⟩ := h.circular name hname
    refine ⟨other, hgains.keys hother, ?_, hleads⟩
    rw [h.pathTo_of_gains hgains hother]
    exact hon
  · rw [hstats, hcircular, h.counted]

theorem of_same (h : Traced a s)
    (hrepository : t.repository.declarations = s.repository.declarations)
    (hancestry : t.resolver.context.ancestry = s.resolver.context.ancestry)
    (hpending : t.resolver.pending.values ⊆ s.resolver.pending.values)
    (hcircular : t.resolver.circular = s.resolver.circular)
    (hcount : t.resolver.stats.circular = s.resolver.stats.circular) : Traced a t := by
  have hpathTo (name : Text) : t.resolver.context.pathTo name = s.resolver.context.pathTo name := by
    rw [Context.pathTo, Context.pathTo, hancestry]
  refine ⟨?_, ?_, ?_, ?_, ?_⟩
  · rw [hrepository, hancestry]
    exact h.recorded
  · rw [hancestry]
    exact h.ways
  · intro i hi
    obtain ⟨parent, hi⟩ := h.pending i (hpending hi)
    exact ⟨parent, hrepository ▸ hi.stored, by rw [hi.path, trail, trail, hpathTo], hi.leads,
      hi.other, hi.location, hi.linked⟩
  · rw [hcircular, hrepository]
    intro name hname
    obtain ⟨parent, hparent, hpath, hleads⟩ := h.circular name hname
    exact ⟨parent, hparent, hpathTo parent ▸ hpath, hleads⟩
  · rw [hcount, hcircular, h.counted]

/-- A name is counted when it is first reported. -/
theorem recordCircular (h : Traced a s) {parent : Text} {i : Item} (hi : Addressed a s parent i)
    (hpath : i.name ∈ i.path) : Traced a (s.recordCircular i.name i.path) := by
  have hparent : i.name ∈ s.resolver.context.pathTo parent := by
    rw [hi.path] at hpath
    rcases List.mem_append.mp hpath with hpath | hpath
    · exact hpath
    · exact absurd (List.mem_singleton.mp hpath) hi.other
  unfold Run.recordCircular
  cases hold : s.resolver.circular.has i.name with
  | true => exact h.of_same rfl rfl (List.Subset.refl _) rfl rfl
  | false =>
    have hnew := Names.has_eq_false_iff.mp hold
    have hsize : (s.resolver.circular.add i.name).size = s.resolver.circular.size + 1 := by
      rw [Names.add, Keyed.setNew_of_not_mem hnew, Keyed.size_set_of_not_mem hnew]
    refine ⟨h.recorded, h.ways, fun j hj => (h.pending j hj).imp fun _ hj =>
      ⟨hj.stored, hj.path, hj.leads, hj.other, hj.location, hj.linked⟩, ?_, ?_⟩
    · intro name hname
      rcases Names.mem_keys_add.mp hname with rfl | hname
      · exact ⟨parent, hi.stored, hparent, hi.leads⟩
      · exact h.circular name hname
    · change s.resolver.stats.circular + 1 = (s.resolver.circular.add i.name).size
      rw [hsize, h.counted]

theorem settle (ha : a.Consistent) (h : Traced a t) {parent : Text} {i : Item}
    (hi : Addressed a t parent i) (hpath : i.path ⊆ t.resolver.context.ancestry.keys) :
    Traced a (t.settle i (s.outcome a.guide i)) := by
  have hdrop : Traced a (t.onContext (·.dropPending i.name)) :=
    h.of_same rfl rfl (List.Subset.refl _) rfl rfl
  have hi' : Addressed a (t.onContext (·.dropPending i.name)) parent i :=
    ⟨hi.stored, hi.path, hi.leads, hi.other, hi.location, hi.linked⟩
  have hcomes := comesTo a.guide s i
  generalize s.outcome a.guide i = o at hcomes ⊢
  cases hcomes with
  | skipped | deferred | failed => exact h.of_same rfl rfl (List.Subset.refl _) rfl rfl
  | told _ _ hfetch =>
    rw [hi.location] at hfetch
    exact absurd hfetch (ha.reports i.name hi.linked _ _)
  | closing hclosing => exact hdrop.recordCircular hi' hclosing
  | page p _ hfetch =>
    cases hd : p.declaration with
    | none =>
      rw [settle_of_none hd]
      exact h.of_same rfl rfl (List.Subset.refl _) rfl rfl
    | some d =>
      rw [hi.location] at hfetch
      have hfull := ha.declares i.name hi.linked p d hfetch hd
      rw [settle_of_some hd]
      exact (hdrop.store hi' hpath hfull p.kept).of_same rfl rfl (List.Subset.refl _) rfl rfl

theorem round (ha : a.Consistent) (h : Traced a s) (hs : s.Poised) :
    Traced a (round a.guide s) := by
  have hopened : Traced a s.opened := h.of_same rfl rfl (List.nil_subset _) rfl rfl
  have hsettled : Gains s (s.opened.settleAll (s.outcomes a.guide)) ∧
      Traced a (s.opened.settleAll (s.outcomes a.guide)) := by
    apply settleAll_spec (fun _ t => Gains s t ∧ Traced a t)
    · exact ⟨.of_same rfl rfl (List.Subset.refl _) (List.Subset.refl _) rfl, hopened⟩
    · rintro done i o t hpart ⟨hgains, ht⟩
      have hmem : (i, o) ∈ s.outcomes a.guide := hpart.subset (by simp)
      obtain ⟨i, hi, hio⟩ := List.mem_map.mp hmem
      cases hio
      obtain ⟨parent, hsent⟩ := h.pending i hi
      have hpath : i.path ⊆ t.resolver.context.ancestry.keys :=
        List.Subset.trans (hs.paths i hi) (List.Subset.trans hgains.keys ht.recorded)
      exact ⟨hgains.trans (gains_settle t i _),
        ht.settle ha (h.addressed_of_gains hgains hsent) hpath⟩
  exact hsettled.2.of_same rfl rfl (List.Subset.refl _) rfl rfl

theorem seeded (ha : a.Consistent) : Traced a (seeded a.guide a.seed) := by
  rw [seeded_of_some ha.seed]
  obtain ⟨pages, hrecord, _⟩ := (((start a.guide.settings.roundLimit).visit a.seed.source).store
    a.start).record_eq a.start a.seed.kept []
  rw [hrecord]
  refine ⟨?_, ?_, fun i hi => absurd hi List.not_mem_nil,
    fun name hname => absurd hname List.not_mem_nil, rfl⟩
  · intro name hname
    rcases Keyed.mem_keys_set.mp hname with rfl | hname
    · exact Keyed.mem_keys_setNew.mpr (.inl rfl)
    · exact absurd hname List.not_mem_nil
  · intro name path hpath
    change ((Keyed.empty : Keyed Text (List Text)).setNew a.start.fullName []).get? name =
      some path at hpath
    rcases Keyed.eq_of_get?_setNew hpath with hpath | ⟨rfl, rfl, _⟩
    · rw [Keyed.get?_empty] at hpath
      cases hpath
    · exact ⟨rfl, List.nodup_singleton _, List.isChain_singleton _⟩

theorem finish (h : Traced a s) : Traced a (finish a.guide s) := by
  obtain ⟨isCapped, hresolver⟩ := finish_resolver a.guide s
  apply h.of_same
  · rw [finish_repository]
  · rw [hresolver]
  · rw [hresolver]
    exact List.Subset.refl _
  · rw [hresolver]
  · rw [hresolver]

end Traced

end TypeAtlas
