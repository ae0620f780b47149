import TypeAtlas.Proofs.Resolution.Lineage

/-!
What looks and rounds leave in place. A look offers every link of a declaration that had not been
looked through; what comes of an offer stays, since a look only adds to what waits and to what has
been visited. A declaration that has been looked through is passed over, so that a look with nothing
new to see changes nothing. A round keeps what is stored, known or reported.
-/

namespace TypeAtlas

namespace Run

variable {g : Guide} {name : Text} {s t u : Run}

/-! Looking through declarations. -/

/-- A look through declarations: what is stored stays as it is, and what waits, what has been
visited and what has been looked through grow. -/
structure Spreads (s t : Run) : Prop where
  looks : Looks s t
  depth : t.resolver.context.depth = s.resolver.context.depth
  pending : s.resolver.pending.values ⊆ t.resolver.pending.values
  visited : s.repository.visited.keys ⊆ t.repository.visited.keys
  scanned : s.resolver.scanned.keys ⊆ t.resolver.scanned.keys

theorem Spreads.refl (s : Run) : Spreads s s :=
  ⟨.refl s, rfl, List.Subset.refl _, List.Subset.refl _, List.Subset.refl _⟩

theorem Spreads.trans (h : Spreads s t) (h' : Spreads t u) : Spreads s u :=
  ⟨h.looks.trans h'.looks, h'.depth.trans h.depth, List.Subset.trans h.pending h'.pending,
    List.Subset.trans h.visited h'.visited, List.Subset.trans h.scanned h'.scanned⟩

theorem spreads_begin (s : Run) (name : Text) (links : LinkTable) :
    Spreads s (s.begin name links) :=
  ⟨looks_begin s name links, rfl, List.Subset.refl _, List.Subset.refl _,
    fun _ hx => Names.mem_keys_add.mpr (.inr hx)⟩

theorem Offered.spreads {parent : Text} {x : Dependency} (h : Offered g parent x s t) :
    Spreads s t := by
  have hadded {i : Item} (hi : i.name ∉ s.resolver.pending.keys) :
      s.resolver.pending.values ⊆ (s.resolver.pending.set i.name i).values := by
    rw [Keyed.values_set_of_not_mem hi]
    exact List.subset_append_left _ _
  refine ⟨h.looks, ?_, ?_, ?_, h.scanned ▸ List.Subset.refl _⟩
  · cases h <;> rfl
  · cases h with
    | settled | known | visited => exact List.Subset.refl _
    | closing _ hs | fresh _ hs => exact hadded (unsettled hs).2.2.2.1
  · cases h with
    | settled | known | visited | closing => exact List.Subset.refl _
    | fresh => exact fun _ hl => Names.mem_keys_add.mpr (.inr hl)

/-- What has no link is passed over. -/
theorem Offered.eq_of_unlinked {parent : Text} {x : Dependency} (h : Offered g parent x s t)
    (hx : x.isLinked = false) : t = s := by
  cases h with
  | settled | known | visited => rfl
  | closing _ hs | fresh _ hs =>
    rw [(unsettled hs).1] at hx
    cases hx

/-- What a look through the declarations of `s` may rely on: `I` holds while links are offered, and
what an offer brings about (`Q`) stays. -/
structure Reads (g : Guide) (s : Run) (I : Run → Prop) (Q : Text → Dependency → Run → Prop) :
    Prop where
  leads : ∀ name x, LinksTo g s name x → ∃ location, g.Leads x location
  begins : ∀ u name links, Spreads s u → I u → I (u.begin name links)
  offers : ∀ name x u t, LinksTo g s name x → Spreads s u → I u → Offered g name x u t →
    I t ∧ Q name x t
  stays : ∀ name x u t, Spreads u t → Q name x u → Q name x t

/-- Looked through, and all links have been offered if that was done since `s`. -/
def Seen (g : Guide) (s : Run) (Q : Text → Dependency → Run → Prop) (name : Text) (t : Run) :
    Prop :=
  name ∈ t.resolver.scanned.keys ∧
    (name ∉ s.resolver.scanned.keys → ∀ x, LinksTo g s name x → Q name x t)

namespace Reads

variable {I : Run → Prop} {Q : Text → Dependency → Run → Prop} {d : Declaration}

theorem seen_of_spreads (h : Reads g s I Q) (ht : Spreads u t) (hu : Seen g s Q name u) :
    Seen g s Q name t :=
  ⟨ht.scanned hu.1, fun hnew x hx => h.stays name x u t ht (hu.2 hnew x hx)⟩

/-- Every link of a declaration that had not been looked through is offered. -/
theorem scan (h : Reads g s I Q) (hroot : g.settings.documentRoot = none) (hsu : Spreads s u)
    (hu : I u) (hget : s.repository.declarations.get? name = some d)
    (hnew : name ∉ u.resolver.scanned.keys) :
    ∃ t, (Run.scan g name d).run u = (.ok (), t) ∧ I t ∧ Spreads u t ∧
      t.resolver.scanned = u.resolver.scanned.add name ∧ ∀ x, LinksTo g s name x → Q name x t := by
  have hlinks {x : Dependency} (hx : x ∈ g.uses name d (u.resolver.pages.get? name))
      (hlinked : x.isLinked = true) : LinksTo g s name x :=
    ⟨d, hget, hsu.looks.pages ▸ hx, hlinked⟩
  let J (offered : List Dependency) (t : Run) : Prop := I t ∧ Spreads u t ∧
    t.resolver.scanned = u.resolver.scanned.add name ∧
      ∀ x ∈ offered, x.isLinked = true → Q name x t
  obtain ⟨t, hrun, ht, hut, hadd, hoffered⟩ := scan_run hroot J hnew
    (fun links => ⟨h.begins u name links hsu hu, spreads_begin u name links, rfl, nofun⟩)
    (fun x hx hlinked => h.leads name x (hlinks hx hlinked)) (by
      rintro offered x v t hpart ⟨hv, huv, hadd, hoffered⟩ ht
      have hx : x ∈ g.uses name d (u.resolver.pages.get? name) := hpart.subset (by simp)
      suffices hstep : I t ∧ (x.isLinked = true → Q name x t) by
        refine ⟨hstep.1, huv.trans ht.spreads, ht.scanned.trans hadd, ?_⟩
        intro y hy hlinked
        rcases List.mem_append.mp hy with hy | hy
        · exact h.stays name y v t ht.spreads (hoffered y hy hlinked)
        · rw [List.mem_singleton.mp hy] at hlinked ⊢
          exact hstep.2 hlinked
      cases hlinked : x.isLinked with
      | true =>
        obtain ⟨hI, hQ⟩ := h.offers name x v t (hlinks hx hlinked) (hsu.trans huv) hv ht
        exact ⟨hI, fun _ => hQ⟩
      | false => exact ⟨ht.eq_of_unlinked hlinked ▸ hv, nofun⟩)
  refine ⟨t, hrun, ht, hut, hadd, ?_⟩
  rintro x ⟨d', hd', hx, hlinked⟩
  rw [hget] at hd'
  cases hd'
  exact hoffered x (hsu.looks.pages.symm ▸ hx) hlinked

/-- After its turn a declaration has been looked through, whether or not it had been before. -/
theorem seen_scan (h : Reads g s I Q) (hroot : g.settings.documentRoot = none) (hsu : Spreads s u)
    (hu : I u) (hget : s.repository.declarations.get? name = some d)
    (hseen : name ∈ u.resolver.scanned.keys → Seen g s Q name u) :
    ∃ t, (Run.scan g name d).run u = (.ok (), t) ∧ I t ∧ Spreads u t ∧ Seen g s Q name t ∧
      ∀ n ∈ t.resolver.scanned.keys, n = name ∨ n ∈ u.resolver.scanned.keys := by
  by_cases hscanned : name ∈ u.resolver.scanned.keys
  · exact ⟨u, scan_run_of_scanned hscanned, hu, .refl u, hseen hscanned, fun n hn => .inr hn⟩
  · obtain ⟨t, hrun, ht, hut, hadd, hread⟩ := h.scan hroot hsu hu hget hscanned
    refine ⟨t, hrun, ht, hut, ⟨?_, fun _ => hread⟩, ?_⟩
    · exact hadd ▸ Names.mem_keys_add.mpr (.inl rfl)
    · exact fun n hn => Names.mem_keys_add.mp (hadd ▸ hn)

/-- A look through all declarations offers the links of those that had not been looked through. -/
theorem discover (h : Reads g s I Q) (hroot : g.settings.documentRoot = none) (hs : I s) :
    ∃ t, (Run.discover g).run s = (.ok (), t) ∧ I t ∧ Spreads s t ∧
      (∀ name, name ∈ t.resolver.scanned.keys ↔
        name ∈ s.resolver.scanned.keys ∨ name ∈ s.repository.declarations.keys) ∧
      ∀ name x, name ∉ s.resolver.scanned.keys → LinksTo g s name x → Q name x t := by
  let J (done : List (Text × Declaration)) (t : Run) : Prop := I t ∧ Spreads s t ∧
    (∀ e ∈ done, Seen g s Q e.1 t) ∧ ∀ name ∈ t.resolver.scanned.keys,
      name ∈ s.resolver.scanned.keys ∨
        name ∈ s.repository.declarations.keys ∧ Seen g s Q name t
  obtain ⟨t, hrun, ht, hst, hdone, hall⟩ := forM_run
    (f := fun e : Text × Declaration => Run.scan g e.1 e.2)
    (l := s.repository.declarations.entries) J ⟨hs, .refl s, nofun, fun _ hn => .inl hn⟩ (by
      rintro done ⟨name, d⟩ u hpart ⟨hu, hsu, hdone, hall⟩
      have hentry : (name, d) ∈ s.repository.declarations.entries := hpart.subset (by simp)
      have hseen (hscanned : name ∈ u.resolver.scanned.keys) : Seen g s Q name u :=
        (hall name hscanned).elim (fun hold => ⟨hscanned, fun hnew => absurd hold hnew⟩) And.right
      obtain ⟨t, hrun, ht, hut, hname, hback⟩ :=
        h.seen_scan hroot hsu hu (Keyed.get?_eq_some_iff.mpr hentry) hseen
      refine ⟨t, hrun, ht, hsu.trans hut, ?_, ?_⟩
      · intro e he
        rcases List.mem_append.mp he with he | he
        · exact h.seen_of_spreads hut (hdone e he)
        · rw [List.mem_singleton.mp he]
          exact hname
      · intro n hn
        rcases hback n hn with rfl | hn
        · exact .inr ⟨List.mem_map_of_mem hentry, hname⟩
        · exact (hall n hn).imp id fun hn => ⟨hn.1, h.seen_of_spreads hut hn.2⟩)
  refine ⟨t, ?_, ht, hst, ?_, ?_⟩
  · rw [Run.discover, bind_run (get_run s)]
    exact hrun
  · intro name
    constructor
    · exact fun hname => (hall name hname).imp id And.left
    · rintro (hold | hstored)
      · exact hst.scanned hold
      · obtain ⟨e, he, rfl⟩ := List.mem_map.mp hstored
        exact (hdone e he).1
  · rintro name x hnew ⟨d, hd, hx⟩
    have hentry := Keyed.get?_eq_some_iff.mp hd
    exact (hdone _ hentry).2 hnew x ⟨d, hd, hx⟩

end Reads

theorem discover_spreads (hroot : g.settings.documentRoot = none)
    (hleads : ∀ name x, LinksTo g s name x → ∃ location, g.Leads x location) :
    ∃ t, (discover g).run s = (.ok (), t) ∧ Spreads s t ∧
      t.repository.declarations.keys ⊆ t.resolver.scanned.keys := by
  have hreads : Reads g s (fun _ => True) fun _ _ _ => True :=
    ⟨hleads, fun _ _ _ _ _ => trivial, fun _ _ _ _ _ _ _ _ => ⟨trivial, trivial⟩,
      fun _ _ _ _ _ _ => trivial⟩
  obtain ⟨t, hrun, _, hspreads, hscanned, _⟩ := hreads.discover hroot trivial
  refine ⟨t, hrun, hspreads, fun name hname => (hscanned name).mpr (.inr ?_)⟩
  rw [← hspreads.looks.declarations]
  exact hname

/-- Where everything has been looked through, there is nothing to do. -/
theorem discover_run_of_scanned
    (h : s.repository.declarations.keys ⊆ s.resolver.scanned.keys) :
    (discover g).run s = (.ok (), s) := by
  obtain ⟨t, hrun, rfl⟩ := forM_run (f := fun e : Text × Declaration => scan g e.1 e.2)
    (l := s.repository.declarations.entries) (fun _ t => t = s) rfl (by
      rintro done ⟨name, d⟩ u hpart rfl
      have hentry : (name, d) ∈ u.repository.declarations.entries := hpart.subset (by simp)
      exact ⟨u, scan_run_of_scanned (h (List.mem_map_of_mem hentry)), rfl⟩)
  rw [discover, bind_run (get_run t)]
  exact hrun

/-! Settling a round. -/

/-- What is stored, reported or dealt with stays so; a page that is known stays the page of its
declaration, and a path that is recorded the path. -/
structure Gains (s t : Run) : Prop where
  declarations : ∀ name d, s.repository.declarations.get? name = some d →
    ∃ d', t.repository.declarations.get? name = some d' ∧ d.uses = d'.uses
  pages : ∀ name kept, s.resolver.pages.get? name = some kept →
    t.resolver.pages.get? name = some kept
  circular : s.resolver.circular.keys ⊆ t.resolver.circular.keys
  types : s.resolver.context.visited.keys ⊆ t.resolver.context.visited.keys
  ancestry : ∀ name path, s.resolver.context.ancestry.get? name = some path →
    t.resolver.context.ancestry.get? name = some path

theorem Gains.trans (h : Gains s t) (h' : Gains t u) : Gains s u := by
  refine ⟨?_, fun name kept hkept => h'.pages name kept (h.pages name kept hkept),
    List.Subset.trans h.circular h'.circular, List.Subset.trans h.types h'.types,
    fun name path hpath => h'.ancestry name path (h.ancestry name path hpath)⟩
  intro name d hd
  obtain ⟨e, he, huses⟩ := h.declarations name d hd
  obtain ⟨f, hf, huses'⟩ := h'.declarations name e he
  exact ⟨f, hf, huses.trans huses'⟩

theorem Gains.keys (h : Gains s t) :
    s.repository.declarations.keys ⊆ t.repository.declarations.keys := by
  intro name hname
  obtain ⟨d, hd⟩ := Keyed.mem_keys_iff.mp hname
  obtain ⟨d', hd', _⟩ := h.declarations name d hd
  exact Keyed.mem_keys_iff.mpr ⟨d', hd'⟩

theorem Gains.of_same (hdeclarations : t.repository.declarations = s.repository.declarations)
    (hpages : t.resolver.pages = s.resolver.pages)
    (hcircular : s.resolver.circular.keys ⊆ t.resolver.circular.keys)
    (htypes : s.resolver.context.visited.keys ⊆ t.resolver.context.visited.keys)
    (hancestry : t.resolver.context.ancestry = s.resolver.context.ancestry) : Gains s t :=
  ⟨fun _ d h => ⟨d, hdeclarations ▸ h, rfl⟩, fun _ _ h => hpages ▸ h, hcircular, htypes,
    fun _ _ h => hancestry ▸ h⟩

theorem Looks.gains (h : Looks s t) : Gains s t :=
  .of_same h.declarations h.pages (h.circular ▸ List.Subset.refl _)
    (h.types ▸ List.Subset.refl _) h.ancestry

/-- A declaration whose page is known has no links but those it has had from then on. -/
theorem LinksTo.of_gains {name : Text} {x : Dependency} (h : LinksTo g t name x) (ht : Gains s t)
    (hstored : name ∈ s.repository.declarations.keys) (hpage : name ∈ s.resolver.pages.keys) :
    LinksTo g s name x := by
  obtain ⟨d, hd⟩ := Keyed.mem_keys_iff.mp hstored
  obtain ⟨kept, hkept⟩ := Keyed.mem_keys_iff.mp hpage
  obtain ⟨d', hd', huses⟩ := ht.declarations name d hd
  obtain ⟨e, he, hx, hlinked⟩ := h
  rw [hd'] at he
  cases he
  rw [ht.pages name kept hkept, ← Guide.uses_congr huses, ← hkept] at hx
  exact ⟨d, hd, hx, hlinked⟩

theorem gains_record (s : Run) (d : Declaration) (kept : Option PageLinks) (path : List Text) :
    Gains s ((s.store d).record d kept path) := by
  have hpages (name : Text) (links : PageLinks) (h : s.resolver.pages.get? name = some links) :
      ((s.store d).record d kept path).resolver.pages.get? name = some links :=
    pages_record (s := s.store d) h
  obtain ⟨pages, hrecord, _⟩ := (s.store d).record_eq d kept path
  refine ⟨?_, hpages, ?_, ?_, ?_⟩
  · rw [hrecord]
    exact fun _ _ he => uses_add he
  · rw [hrecord]
    exact List.Subset.refl _
  · rw [hrecord]
    exact fun _ hx => Names.mem_keys_add.mpr (.inr hx)
  · intro name way hway
    rw [hrecord]
    change (s.resolver.context.ancestry.setNew d.fullName path).get? name = some way
    rw [Keyed.get?_setNew]
    split
    · rename_i hname
      rw [← hname, hway]
      rfl
    · exact hway

theorem gains_recordCircular (s : Run) (name : Text) (path : List Text) :
    Gains s (s.recordCircular name path) := by
  have hcircular := circular_recordCircular s name path
  have hgrown : s.resolver.circular.keys ⊆ (s.recordCircular name path).resolver.circular.keys :=
    fun x hx => hcircular ▸ Names.mem_keys_add.mpr (.inr hx)
  refine .of_same ?_ ?_ hgrown ?_ ?_
  · unfold recordCircular
    split <;> rfl
  · unfold recordCircular
    split <;> rfl
  · unfold recordCircular
    split <;> exact List.Subset.refl _
  · unfold recordCircular
    split <;> rfl

theorem gains_settle (s : Run) (i : Item) (o : Outcome) : Gains s (s.settle i o) := by
  have hdrop : Gains s (s.onContext (·.dropPending i.name)) :=
    .of_same rfl rfl (List.Subset.refl _) (List.Subset.refl _) rfl
  cases o with
  | skipped | deferred | failed =>
    exact .of_same rfl rfl (List.Subset.refl _) (List.Subset.refl _) rfl
  | circular name path => exact hdrop.trans (gains_recordCircular _ name path)
  | page p =>
    cases hd : p.declaration with
    | none =>
      rw [settle_of_none hd]
      exact .of_same rfl rfl (List.Subset.refl _) (List.Subset.refl _) rfl
    | some d =>
      rw [settle_of_some hd]
      have hrecord := hdrop.trans (gains_record _ d p.kept i.path)
      exact hrecord.trans (.of_same rfl rfl (List.Subset.refl _)
        (fun _ hx => Names.mem_keys_add.mpr (.inr hx)) rfl)

theorem gains_round (g : Guide) (s : Run) : Gains s (round g s) := by
  have hopened : Gains s s.opened :=
    .of_same rfl rfl (List.Subset.refl _) (List.Subset.refl _) rfl
  have hsettled : Gains s (s.opened.settleAll (s.outcomes g)) :=
    settleAll_spec (fun _ t => Gains s t) hopened fun _ i o t _ ht => ht.trans (gains_settle t i o)
  exact hsettled.trans (.of_same rfl rfl (List.Subset.refl _) (List.Subset.refl _) rfl)

/-- What settling one item brings about, and settling others keeps, holds when all are settled. -/
theorem settleAll_of_mem {P : Run → Prop} {xs : List (Item × Outcome)} {i : Item} {o : Outcome}
    (h : (i, o) ∈ xs) (hsettle : ∀ t : Run, P (t.settle i o))
    (hkeep : ∀ (t : Run) j o', P t → P (t.settle j o')) :
    P (s.settleAll xs) := by
  apply settleAll_spec (fun done t => (i, o) ∈ done → P t) nofun _ h
  intro done j o' t _ ht hmem
  rcases List.mem_append.mp hmem with hmem | hmem
  · exact hkeep t j o' (ht hmem)
  · cases List.mem_singleton.mp hmem
    exact hsettle t

end Run

end TypeAtlas
