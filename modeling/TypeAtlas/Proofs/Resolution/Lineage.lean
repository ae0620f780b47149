import Mathlib.Data.List.Chain
import TypeAtlas.Proofs.Resolution.Linking
import TypeAtlas.Proofs.Resolution.Settling

/-!
Where declarations come from. An item carries the path that led to it: each declaration on it was
found on the page fetched for a link of the one before, and none occurs twice. An item whose name
lies on its own path therefore closes a cycle of such steps, and these are the only cycles that are
reported. Pages may declare other names than those that lead to them.
-/

namespace TypeAtlas

namespace Run

/-! Steps between declarations. -/

/-- The declaration stored under a name refers to something by a link. -/
def LinksTo (g : Guide) (s : Run) (name : Text) (x : Dependency) : Prop :=
  ∃ d, s.repository.declarations.get? name = some d ∧
    x ∈ g.uses name d (s.resolver.pages.get? name) ∧ x.isLinked = true

/-- The item was scheduled for a link of the last declaration on its path. -/
def Led (g : Guide) (s : Run) (parent : Text) (i : Item) : Prop :=
  i.path.getLast? = some parent ∧ LinksTo g s parent i.dependency ∧
    g.Leads i.dependency i.location

/-- The page fetched for an item led from `parent` declares `child`. -/
def Discovered (g : Guide) (s : Run) (parent child : Text) : Prop :=
  ∃ round ∈ s.resolver.rounds, ∃ i ∈ round.items, Led g s parent i ∧ i.location ∈ s.fetched ∧
    ∃ p d, g.fetcher.fetch i.location = .ok p ∧ p.declaration = some d ∧ d.fullName = child

/-- A path of stored declarations from the root, each discovered from the one before, and none of
them twice. -/
structure Trail (g : Guide) (root : Text) (s : Run) (path : List Text) : Prop where
  start : path.head? = some root
  nodup : path.Nodup
  stored : ∀ name ∈ path, name ∈ s.repository.declarations.keys
  chain : path.IsChain (Discovered g s)

/-- Declarations, each discovered from the one before, of which the last refers back to the first
by a link. -/
structure Cycle (g : Guide) (s : Run) (first : Text) (rest : List Text) : Prop where
  nodup : (first :: rest).Nodup
  chain : (first :: rest).IsChain (Discovered g s)
  back : ∃ last x, (first :: rest).getLast? = some last ∧ LinksTo g s last x ∧ x.fullName = first

/-! What has been found stays found. -/

/-- From `s` to `t` nothing was lost of what is stored, of the pages, and of the past rounds. -/
structure Builds (s t : Run) : Prop where
  declarations : ∀ name d, s.repository.declarations.get? name = some d →
    ∃ d', t.repository.declarations.get? name = some d' ∧ d.uses = d'.uses
  pages : ∀ name kept, s.resolver.pages.get? name = some kept →
    t.resolver.pages.get? name = some kept
  rounds : s.resolver.rounds ⊆ t.resolver.rounds
  fetched : s.fetched ⊆ t.fetched

variable {g : Guide} {root name : Text} {s t : Run} {path : List Text} {x : Dependency} {k : Nat}

/-- A page that is kept later cannot add links to a declaration that was found to have some. -/
theorem LinksTo.builds (h : LinksTo g s name x) (ht : Builds s t) : LinksTo g t name x := by
  obtain ⟨d, hd, hx, hlinked⟩ := h
  obtain ⟨d', hd', huses⟩ := ht.declarations name d hd
  refine ⟨d', hd', ?_, hlinked⟩
  cases hpage : s.resolver.pages.get? name with
  | none =>
    rw [hpage] at hx
    rw [Guide.unlinked_of_uses_none hx] at hlinked
    cases hlinked
  | some kept =>
    rw [ht.pages name kept hpage, ← Guide.uses_congr huses, ← hpage]
    exact hx

theorem Led.builds {parent : Text} {i : Item} (h : Led g s parent i) (ht : Builds s t) :
    Led g t parent i :=
  ⟨h.1, h.2.1.builds ht, h.2.2⟩

theorem Discovered.builds {parent child : Text} (h : Discovered g s parent child)
    (ht : Builds s t) : Discovered g t parent child := by
  obtain ⟨round, hround, i, hi, hled, hfetched, hpage⟩ := h
  exact ⟨round, ht.rounds hround, i, hi, hled.builds ht, ht.fetched hfetched, hpage⟩

theorem Builds.keys (h : Builds s t) (hname : name ∈ s.repository.declarations.keys) :
    name ∈ t.repository.declarations.keys := by
  obtain ⟨d, hd⟩ := Keyed.mem_keys_iff.mp hname
  obtain ⟨d', hd', _⟩ := h.declarations name d hd
  exact Keyed.mem_keys_iff.mpr ⟨d', hd'⟩

theorem Trail.builds (h : Trail g root s path) (ht : Builds s t) : Trail g root t path where
  start := h.start
  nodup := h.nodup
  stored name hname := ht.keys (h.stored name hname)
  chain := h.chain.imp fun _ _ hstep => hstep.builds ht

theorem Builds.of_same (hdeclarations : t.repository.declarations = s.repository.declarations)
    (hpages : t.resolver.pages = s.resolver.pages) (hrounds : t.resolver.rounds = s.resolver.rounds)
    (hfetched : t.fetched = s.fetched) : Builds s t where
  declarations name d hd := ⟨d, by rw [hdeclarations, hd], rfl⟩
  pages name kept hkept := by rw [hpages, hkept]
  rounds := hrounds ▸ List.Subset.refl _
  fetched := hfetched ▸ List.Subset.refl _

/-- A trail goes on to a declaration that was not stored when it was walked. -/
theorem Trail.extend {child parent : Text} (h : Trail g root s path)
    (hnew : child ∉ s.repository.declarations.keys) (ht : Builds s t)
    (hstored : child ∈ t.repository.declarations.keys) (hlast : path.getLast? = some parent)
    (hstep : Discovered g t parent child) : Trail g root t (path ++ [child]) := by
  have hkept := h.builds ht
  refine ⟨?_, ?_, ?_, ?_⟩
  · rw [List.head?_append, h.start]
    rfl
  · rw [List.nodup_append]
    refine ⟨h.nodup, List.nodup_cons.mpr ⟨List.not_mem_nil, List.nodup_nil⟩, ?_⟩
    rintro a ha b hb rfl
    exact hnew (List.mem_singleton.mp hb ▸ h.stored a ha)
  · intro name hname
    rcases List.mem_append.mp hname with hname | hname
    · exact hkept.stored name hname
    · exact List.mem_singleton.mp hname ▸ hstored
  · apply hkept.chain.append (List.isChain_singleton _)
    intro a ha b hb
    rw [hlast] at ha
    cases ha
    cases hb
    exact hstep

/-- A trail to a declaration that a later one refers to closes a cycle. -/
theorem Trail.cycle {i : Item} {parent : Text} (h : Trail g root s i.path) (hled : Led g s parent i)
    (hpath : i.name ∈ i.path) :
    ∃ before rest, i.path = before ++ i.name :: rest ∧ Cycle g s i.name rest := by
  obtain ⟨before, rest, hsplit⟩ := List.append_of_mem hpath
  obtain ⟨hlast, hlinks, _⟩ := hled
  have hnodup := h.nodup
  have hchain := h.chain
  rw [hsplit] at hlast hnodup hchain
  refine ⟨before, rest, hsplit, (List.nodup_append.mp hnodup).2.1,
    (List.isChain_append.mp hchain).2.1, parent, i.dependency, ?_, hlinks, rfl⟩
  rw [List.getLast?_append_cons] at hlast
  exact hlast

/-! The state of a run. -/

/-- An item with a trail of `n` declarations that led to it. -/
structure Sent (g : Guide) (root : Text) (s : Run) (n : Nat) (i : Item) : Prop where
  length : i.path.length = n
  trail : Trail g root s i.path
  led : ∃ parent, Led g s parent i

theorem Sent.builds {n : Nat} {i : Item} (h : Sent g root s n i) (ht : Builds s t) :
    Sent g root t n i :=
  ⟨h.length, h.trail.builds ht, h.led.imp fun _ hled => hled.builds ht⟩

/-- After `k` rounds, what is known about every declaration is the trail that led to it; the
declarations that wait to be looked through came in the last round. -/
structure Lineage (g : Guide) (root : Text) (k : Nat) (s : Run) : Prop where
  stored : ∀ name, name ∈ s.repository.declarations.keys ↔
    name ∈ s.resolver.context.ancestry.keys
  trails : ∀ name path, s.resolver.context.ancestry.get? name = some path →
    Trail g root s (path ++ [name])
  fresh : ∀ name path, s.resolver.context.ancestry.get? name = some path →
    name ∉ s.resolver.scanned.keys → path.length = k
  pending : ∀ i ∈ s.resolver.pending.values, Sent g root s (k + 1) i
  rounds : ∀ round ∈ s.resolver.rounds, ∀ i ∈ round.items, Sent g root s round.number i
  numbers : s.resolver.rounds.map (·.number) = List.range' 1 k
  circular : ∀ name ∈ s.resolver.circular.keys, ∃ round ∈ s.resolver.rounds,
    ∃ i ∈ round.items, i.name = name ∧ name ∈ i.path

/-! Looking through declarations. -/

theorem Looks.builds (h : Looks s t) : Builds s t :=
  .of_same h.declarations h.pages h.rounds h.fetched

/-- An offer adds at most the item for the dependency that was offered. -/
theorem Offered.mem_pending (h : Offered g name x s t) {i : Item}
    (hi : i ∈ t.resolver.pending.values) : i ∈ s.resolver.pending.values ∨
      s.isSettled name x = false ∧ ∃ location, g.Leads x location ∧
        i = ⟨x, location, s.trail name⟩ := by
  have hadded (location : Text) (hs : s.isSettled name x = false) (hl : g.Leads x location)
      (hi : i ∈ (s.resolver.pending.set x.fullName ⟨x, location, s.trail name⟩).values) :
      i ∈ s.resolver.pending.values ∨ s.isSettled name x = false ∧
        ∃ location, g.Leads x location ∧ i = ⟨x, location, s.trail name⟩ := by
    obtain ⟨_, _, _, hpending, _⟩ := unsettled hs
    rw [Keyed.values_set_of_not_mem hpending] at hi
    rcases List.mem_append.mp hi with hi | hi
    · exact .inl hi
    · exact .inr ⟨hs, location, hl, List.mem_singleton.mp hi⟩
  cases h with
  | settled | known | visited => exact .inl hi
  | closing location hs hl => exact hadded location hs hl hi
  | fresh location hs hl => exact hadded location hs hl hi

namespace Lineage

/-- What is known of the declarations does not change; an item may come to wait, and a name on the
path of its item may be reported. -/
theorem of_builds (h : Lineage g root k s) (ht : Builds s t)
    (hdeclarations : t.repository.declarations = s.repository.declarations)
    (hancestry : t.resolver.context.ancestry = s.resolver.context.ancestry)
    (hscanned : s.resolver.scanned.keys ⊆ t.resolver.scanned.keys)
    (hpending : ∀ i ∈ t.resolver.pending.values,
      i ∈ s.resolver.pending.values ∨ Sent g root s (k + 1) i)
    (hrounds : t.resolver.rounds = s.resolver.rounds)
    (hcircular : ∀ name ∈ t.resolver.circular.keys, name ∈ s.resolver.circular.keys ∨
      ∃ round ∈ s.resolver.rounds, ∃ i ∈ round.items, i.name = name ∧ name ∈ i.path) :
    Lineage g root k t := by
  constructor
  · rw [hdeclarations, hancestry]
    exact h.stored
  · rw [hancestry]
    exact fun name path hpath => (h.trails name path hpath).builds ht
  · rw [hancestry]
    exact fun name path hpath hnot => h.fresh name path hpath fun hmem => hnot (hscanned hmem)
  · intro i hi
    rcases hpending i hi with hi | hi
    · exact (h.pending i hi).builds ht
    · exact hi.builds ht
  · rw [hrounds]
    exact fun round hround i hi => (h.rounds round hround i hi).builds ht
  · rw [hrounds]
    exact h.numbers
  · rw [hrounds]
    exact fun name hname => (hcircular name hname).elim (h.circular name) id

theorem of_same (h : Lineage g root k s)
    (hdeclarations : t.repository.declarations = s.repository.declarations)
    (hpages : t.resolver.pages = s.resolver.pages) (hfetched : t.fetched = s.fetched)
    (hancestry : t.resolver.context.ancestry = s.resolver.context.ancestry)
    (hscanned : t.resolver.scanned = s.resolver.scanned)
    (hpending : t.resolver.pending = s.resolver.pending)
    (hrounds : t.resolver.rounds = s.resolver.rounds)
    (hcircular : t.resolver.circular = s.resolver.circular) : Lineage g root k t :=
  h.of_builds (.of_same hdeclarations hpages hrounds hfetched) hdeclarations hancestry
    (hscanned ▸ List.Subset.refl _) (fun _ hi => .inl (hpending ▸ hi)) hrounds
    fun _ hname => .inl (hcircular ▸ hname)

theorem looks (h : Lineage g root k s) (ht : Looks s t)
    (hscanned : s.resolver.scanned.keys ⊆ t.resolver.scanned.keys)
    (hpending : ∀ i ∈ t.resolver.pending.values,
      i ∈ s.resolver.pending.values ∨ Sent g root s (k + 1) i) : Lineage g root k t :=
  h.of_builds ht.builds ht.declarations ht.ancestry hscanned hpending ht.rounds
    fun _ hname => .inl (ht.circular ▸ hname)

theorem offered (h : Lineage g root k s) {d : Declaration}
    (hd : s.repository.declarations.get? name = some d)
    (hx : x ∈ g.uses name d (s.resolver.pages.get? name)) (hlength : (s.trail name).length = k + 1)
    (ht : Offered g name x s t) : Lineage g root k t := by
  apply h.looks ht.looks (ht.scanned ▸ List.Subset.refl _)
  intro i hi
  rcases ht.mem_pending hi with hi | ⟨hs, location, hl, rfl⟩
  · exact .inl hi
  · right
    have hstored := (h.stored name).mp (Keyed.mem_keys_iff.mpr ⟨d, hd⟩)
    obtain ⟨path, hpath⟩ := Keyed.mem_keys_iff.mp hstored
    have htrail : s.trail name = path ++ [name] := by
      rw [Run.trail, Context.pathTo, hpath]
      rfl
    refine ⟨hlength, htrail ▸ h.trails name path hpath, name, ?_, ⟨d, hd, hx, (unsettled hs).1⟩, hl⟩
    rw [htrail]
    exact List.getLast?_concat

/-- Looking through a declaration that came in the last round sends items one step further. -/
theorem scan (hroot : g.settings.documentRoot = none)
    (hresolve : ∀ d, ∃ location, g.Leads d location) (h : Lineage g root k s) {d : Declaration}
    (hd : s.repository.declarations.get? name = some d) :
    ∃ t, (Run.scan g name d).run s = (.ok (), t) ∧ Looks s t ∧ Lineage g root k t ∧
      name ∈ t.resolver.scanned.keys ∧ s.resolver.scanned.keys ⊆ t.resolver.scanned.keys := by
  by_cases hscanned : name ∈ s.resolver.scanned.keys
  · exact ⟨s, scan_run_of_scanned hscanned, .refl s, h, hscanned, List.Subset.refl _⟩
  have hstored := (h.stored name).mp (Keyed.mem_keys_iff.mpr ⟨d, hd⟩)
  obtain ⟨path, hpath⟩ := Keyed.mem_keys_iff.mp hstored
  have hlength : (s.trail name).length = k + 1 := by
    rw [Run.trail, Context.pathTo, hpath, Option.getD_some, List.length_append,
      h.fresh name path hpath hscanned]
    rfl
  let J (_ : List Dependency) (t : Run) : Prop :=
    Looks s t ∧ Lineage g root k t ∧ t.resolver.scanned = s.resolver.scanned.add name
  have hgrown : s.resolver.scanned.keys ⊆ (s.resolver.scanned.add name).keys :=
    fun y hy => Names.mem_keys_add.mpr (.inr hy)
  obtain ⟨t, hrun, hlooks, ht, hadd⟩ := scan_run hroot J hscanned
    (fun links => ⟨looks_begin s name links,
      h.looks (looks_begin s name links) hgrown fun i hi => .inl hi, rfl⟩)
    (fun x _ _ => hresolve x) (by
      rintro done x u v hpart ⟨hlooks, hu, hadd⟩ hv
      have hx : x ∈ g.uses name d (s.resolver.pages.get? name) := hpart.subset (by simp)
      have htrail : u.trail name = s.trail name := by
        rw [Run.trail, Context.pathTo, hlooks.ancestry]
        rfl
      refine ⟨hlooks.trans hv.looks, ?_, hv.scanned.trans hadd⟩
      apply hu.offered (hlooks.declarations ▸ hd) (hlooks.pages ▸ hx) _ hv
      rw [htrail, hlength])
  refine ⟨t, hrun, hlooks, ht, ?_, hadd ▸ hgrown⟩
  rw [hadd]
  exact Names.mem_keys_add.mpr (.inl rfl)

theorem discover (hroot : g.settings.documentRoot = none)
    (hresolve : ∀ d, ∃ location, g.Leads d location) (h : Lineage g root k s) :
    ∃ t, (Run.discover g).run s = (.ok (), t) ∧ Looks s t ∧ Lineage g root k t ∧
      t.repository.declarations.keys ⊆ t.resolver.scanned.keys := by
  let I (done : List (Text × Declaration)) (t : Run) : Prop :=
    Looks s t ∧ Lineage g root k t ∧ ∀ e ∈ done, e.1 ∈ t.resolver.scanned.keys
  obtain ⟨t, hrun, hlooks, ht, hdone⟩ := forM_run
    (f := fun e : Text × Declaration => Run.scan g e.1 e.2)
    (l := s.repository.declarations.entries) I ⟨.refl s, h, nofun⟩ (by
      rintro done ⟨name, d⟩ u hpart ⟨hlooks, hu, hdone⟩
      have hentry : (name, d) ∈ s.repository.declarations.entries := hpart.subset (by simp)
      have hstored : u.repository.declarations.get? name = some d := by
        rw [hlooks.declarations]
        exact Keyed.get?_eq_some_iff.mpr hentry
      obtain ⟨t, hrun, hlook, ht, hname, hsub⟩ := hu.scan hroot hresolve hstored
      refine ⟨t, hrun, hlooks.trans hlook, ht, ?_⟩
      intro e he
      rcases List.mem_append.mp he with he | he
      · exact hsub (hdone e he)
      · rw [List.mem_singleton.mp he]
        exact hname)
  refine ⟨t, ?_, hlooks, ht, ?_⟩
  · rw [Run.discover, bind_run (get_run s)]
    exact hrun
  · rw [hlooks.declarations]
    intro n hn
    obtain ⟨e, he, rfl⟩ := List.mem_map.mp hn
    exact hdone e he

end Lineage

/-! Settling a round. -/

theorem uses_add {r : Repository} {key : Text} {d e : Declaration}
    (h : r.declarations.get? name = some e) :
    ∃ e', (r.add key d).2.declarations.get? name = some e' ∧ e.uses = e'.uses := by
  unfold Repository.add
  cases hstored : r.declarations.get? key with
  | none =>
    refine ⟨e, ?_, rfl⟩
    rw [Keyed.get?_set, if_neg]
    · exact h
    · rintro rfl
      rw [hstored] at h
      cases h
  | some stored =>
    simp only [Keyed.get?_set]
    split
    · rename_i hname
      rw [hname, hstored] at h
      cases h
      exact ⟨_, rfl, rfl⟩
    · exact ⟨e, h, rfl⟩

theorem pages_record {d : Declaration} {kept : Option PageLinks} {links : PageLinks}
    (h : s.resolver.pages.get? name = some links) :
    (s.record d kept path).resolver.pages.get? name = some links := by
  cases kept with
  | none => exact h
  | some p =>
    change (s.resolver.pages.setNew d.fullName p).get? name = some links
    rw [Keyed.get?_setNew]
    split
    · rename_i hname
      rw [← hname, h]
      rfl
    · exact h

namespace Lineage

/-- The declaration on the page of an item is stored; if it is new, it has the path of the item. -/
theorem store (h : Lineage g root k s) {i : Item} (hi : Sent g root s k i) {round : Round}
    (hround : round ∈ s.resolver.rounds) (hitem : i ∈ round.items)
    (hlocation : i.location ∈ s.fetched) {p : ParsedPage}
    (hfetch : g.fetcher.fetch i.location = .ok p) {d : Declaration} (hd : p.declaration = some d) :
    Lineage g root k ((s.store d).record d p.kept i.path) := by
  obtain ⟨pages, hrecord, _⟩ := (s.store d).record_eq d p.kept i.path
  generalize ht : (s.store d).record d p.kept i.path = t at hrecord ⊢
  have hkept {name : Text} {links : PageLinks} (h : s.resolver.pages.get? name = some links) :
      t.resolver.pages.get? name = some links := by
    rw [← ht]
    exact pages_record (s := s.store d) h
  have hdeclarations : t.repository.declarations =
      (s.repository.add d.fullName d).2.declarations := by rw [hrecord]; rfl
  have hancestry : t.resolver.context.ancestry =
      s.resolver.context.ancestry.setNew d.fullName i.path := by rw [hrecord]; rfl
  have hrounds : t.resolver.rounds = s.resolver.rounds := by rw [hrecord]; rfl
  have hfetched : t.fetched = s.fetched := by rw [hrecord]; rfl
  have hscanned : t.resolver.scanned = s.resolver.scanned := by rw [hrecord]; rfl
  have hpending : t.resolver.pending = s.resolver.pending := by rw [hrecord]; rfl
  have hcircular : t.resolver.circular = s.resolver.circular := by rw [hrecord]; rfl
  have hbuilds : Builds s t := by
    refine ⟨?_, fun _ _ => hkept, hrounds ▸ List.Subset.refl _, hfetched ▸ List.Subset.refl _⟩
    intro name e he
    rw [hdeclarations]
    exact uses_add he
  -- the path to a declaration is the one it had, or else that of the item
  have hpaths {name : Text} {path : List Text}
      (hpath : t.resolver.context.ancestry.get? name = some path) :
      s.resolver.context.ancestry.get? name = some path ∨
        name = d.fullName ∧ path = i.path ∧ name ∉ s.resolver.context.ancestry.keys := by
    rw [hancestry] at hpath
    rcases Keyed.eq_of_get?_setNew hpath with hold | ⟨rfl, rfl, hnew⟩
    · exact .inl hold
    · exact .inr ⟨rfl, rfl, hnew⟩
  constructor
  · intro name
    rw [hdeclarations, hancestry, Repository.mem_keys_add, Keyed.mem_keys_setNew, h.stored]
  · intro name path hpath
    rcases hpaths hpath with hpath | ⟨rfl, rfl, hnew⟩
    · exact (h.trails name path hpath).builds hbuilds
    · obtain ⟨parent, hled⟩ := hi.led
      have hstored : d.fullName ∈ t.repository.declarations.keys := by
        rw [hdeclarations]
        exact Repository.mem_keys_add.mpr (.inl rfl)
      apply hi.trail.extend (fun hmem => hnew ((h.stored _).mp hmem)) hbuilds hstored hled.1
      exact ⟨round, hrounds ▸ hround, i, hitem, hled.builds hbuilds, hfetched ▸ hlocation, p, d,
        hfetch, hd, rfl⟩
  · intro name path hpath hnot
    rcases hpaths hpath with hpath | ⟨_, rfl, _⟩
    · exact h.fresh name path hpath (hscanned ▸ hnot)
    · exact hi.length
  · rw [hpending]
    exact fun j hj => (h.pending j hj).builds hbuilds
  · rw [hrounds]
    exact fun round hround j hj => (h.rounds round hround j hj).builds hbuilds
  · rw [hrounds]
    exact h.numbers
  · rw [hrounds, hcircular]
    exact h.circular

theorem recordCircular (h : Lineage g root k s) (way : List Text) {round : Round}
    (hround : round ∈ s.resolver.rounds) {i : Item} (hitem : i ∈ round.items)
    (hname : i.name = name) (hpath : name ∈ i.path) :
    Lineage g root k (s.recordCircular name way) := by
  have hcircular := circular_recordCircular s name way
  have hsettles := settles_recordCircular s name way
  have hsame : (s.recordCircular name way).repository = s.repository ∧
      (s.recordCircular name way).resolver.pages = s.resolver.pages ∧
      (s.recordCircular name way).resolver.context = s.resolver.context := by
    unfold Run.recordCircular
    split <;> exact ⟨rfl, rfl, rfl⟩
  obtain ⟨hrepository, hpages, hcontext⟩ := hsame
  have hdeclarations : (s.recordCircular name way).repository.declarations =
      s.repository.declarations := by rw [hrepository]
  apply h.of_builds (.of_same hdeclarations hpages hsettles.rounds hsettles.fetched) hdeclarations
    (by rw [hcontext]) (hsettles.scanned ▸ List.Subset.refl _)
    (fun j hj => .inl (hsettles.pending ▸ hj)) hsettles.rounds
  intro other hother
  rw [hcircular] at hother
  rcases Names.mem_keys_add.mp hother with rfl | hother
  · exact .inr ⟨round, hround, i, hitem, hname, hpath⟩
  · exact .inl hother

/-- Settling an item of the present round. -/
theorem settle (hreports : NoReports g) (h : Lineage g root k t) {i : Item} (hi : Sent g root t k i)
    {round : Round} (hround : round ∈ t.resolver.rounds) (hitem : i ∈ round.items)
    (hfetched : s.needsPage i = true → i.location ∈ t.fetched) :
    Lineage g root k (t.settle i (s.outcome g i)) := by
  have hdropped : Lineage g root k (t.onContext (·.dropPending i.name)) :=
    h.of_same rfl rfl rfl rfl rfl rfl rfl rfl
  have hcomes := comesTo g s i
  generalize s.outcome g i = o at hcomes ⊢
  cases hcomes with
  | skipped | deferred | failed =>
    exact h.of_same rfl rfl rfl rfl rfl rfl rfl rfl
  | told _ _ hfetch => exact absurd hfetch (hreports _ _ _)
  | closing hpath => exact hdropped.recordCircular i.path hround hitem rfl hpath
  | page p hneeds hfetch =>
    have hlocation := hfetched hneeds
    cases hd : p.declaration with
    | none =>
      rw [settle_of_none hd]
      exact h.of_same rfl rfl rfl rfl rfl rfl rfl rfl
    | some d =>
      have hsent := hi.builds (t := t.onContext (·.dropPending i.name)) (.of_same rfl rfl rfl rfl)
      have hstored := hdropped.store hsent hround hitem hlocation hfetch hd
      rw [settle_of_some hd]
      exact hstored.of_same rfl rfl rfl rfl rfl rfl rfl rfl

/-- The items that waited make up the next round. -/
theorem opened (h : Lineage g root k s) (hcount : s.resolver.stats.rounds = k)
    (hscanned : s.repository.declarations.keys ⊆ s.resolver.scanned.keys) :
    Lineage g root (k + 1) s.opened := by
  have hbuilds : Builds s s.opened :=
    ⟨fun _ d hd => ⟨d, hd, rfl⟩, fun _ _ hkept => hkept, List.subset_append_left _ _,
      List.subset_append_left _ _⟩
  constructor
  · exact h.stored
  · exact fun name path hpath => (h.trails name path hpath).builds hbuilds
  · intro name path hpath hnot
    exact absurd (hscanned ((h.stored name).mpr (Keyed.mem_keys_iff.mpr ⟨path, hpath⟩))) hnot
  · exact fun i hi => absurd hi List.not_mem_nil
  · intro round hround i hi
    rw [rounds_opened] at hround
    rcases List.mem_append.mp hround with hround | hround
    · exact (h.rounds round hround i hi).builds hbuilds
    · rw [List.mem_singleton.mp hround] at hi ⊢
      exact hcount ▸ (h.pending i hi).builds hbuilds
  · rw [rounds_opened, List.map_append, h.numbers, hcount, List.range'_concat]
    simp [Nat.add_comm]
  · intro name hname
    obtain ⟨round, hround, hitem⟩ := h.circular name hname
    exact ⟨round, List.mem_append_left _ hround, hitem⟩

theorem round (hreports : NoReports g) (h : Lineage g root k s)
    (hcount : s.resolver.stats.rounds = k)
    (hscanned : s.repository.declarations.keys ⊆ s.resolver.scanned.keys) :
    Lineage g root (k + 1) (Run.round g s) := by
  have hopened := h.opened hcount hscanned
  have hsettled : Lineage g root (k + 1) (s.opened.settleAll (s.outcomes g)) ∧
      Settles s.opened (s.opened.settleAll (s.outcomes g)) := by
    apply settleAll_spec (fun _ t => Lineage g root (k + 1) t ∧ Settles s.opened t)
      ⟨hopened, rfl, rfl, rfl, rfl, rfl⟩
    rintro done i o t hpart ⟨ht, hsettles⟩
    have hmem : (i, o) ∈ s.outcomes g := hpart.subset (by simp)
    obtain ⟨i, hi, hio⟩ := List.mem_map.mp hmem
    cases hio
    have hround : (⟨s.resolver.stats.rounds + 1, s.resolver.pending.values⟩ : Round) ∈
        t.resolver.rounds := by
      rw [hsettles.rounds, rounds_opened]
      exact List.mem_append_right _ List.mem_cons_self
    have hsent := ht.rounds _ hround i hi
    rw [hcount] at hsent
    refine ⟨ht.settle hreports hsent hround hi ?_, hsettles.trans (settles_settle t i _)⟩
    intro hneeds
    rw [hsettles.fetched]
    exact List.mem_append_right _ (List.mem_map_of_mem (List.mem_filter.mpr ⟨hi, hneeds⟩))
  exact hsettled.1.of_same rfl rfl rfl rfl rfl rfl rfl rfl

theorem of_seed {p : ParsedPage} {d : Declaration} (hd : p.declaration = some d) :
    Lineage g d.fullName 0 (seeded g p) := by
  rw [seeded_of_some hd]
  obtain ⟨pages, hrecord, _⟩ :=
    (((start g.settings.roundLimit).visit p.source).store d).record_eq d p.kept []
  rw [hrecord]
  have hpaths {name : Text} {path : List Text}
      (hpath : ((Keyed.empty : Keyed Text (List Text)).setNew d.fullName []).get? name =
        some path) : name = d.fullName ∧ path = [] := by
    rcases Keyed.eq_of_get?_setNew hpath with hold | ⟨rfl, rfl, _⟩
    · cases hold
    · exact ⟨rfl, rfl⟩
  constructor
  · intro name
    change name ∈ (Keyed.empty.set _ _).keys ↔ name ∈ (Keyed.empty.setNew _ _).keys
    rw [Keyed.mem_keys_set, Keyed.mem_keys_setNew]
    rfl
  · intro name path hpath
    obtain ⟨rfl, rfl⟩ := hpaths hpath
    refine ⟨rfl, List.nodup_cons.mpr ⟨List.not_mem_nil, List.nodup_nil⟩, ?_,
      List.isChain_singleton _⟩
    intro name hname
    exact Keyed.mem_keys_set.mpr (.inl (List.mem_singleton.mp hname))
  · intro name path hpath _
    obtain ⟨rfl, rfl⟩ := hpaths hpath
    rfl
  · exact fun i hi => absurd hi List.not_mem_nil
  · exact fun round hround => absurd hround List.not_mem_nil
  · rfl
  · exact fun name hname => absurd hname List.not_mem_nil

/-- Between the rounds, every declaration has been looked through. -/
def Settled (g : Guide) (root : Text) (k : Nat) (s : Run) : Prop :=
  Lineage g root k s ∧ s.repository.declarations.keys ⊆ s.resolver.scanned.keys ∧
    s.resolver.stats.rounds = k

theorem settled (hroot : g.settings.documentRoot = none)
    (hresolve : ∀ d, ∃ location, g.Leads d location) (h : Lineage g root k s)
    (hcount : s.resolver.stats.rounds = k) :
    ∃ t, (Run.discover g).run s = (.ok (), t) ∧ Settled g root k t := by
  obtain ⟨t, hrun, hlooks, ht, hscanned⟩ := h.discover hroot hresolve
  exact ⟨t, hrun, ht, hscanned, hlooks.stats ▸ hcount⟩

theorem finish (h : Lineage g root k s) : Lineage g root k (finish g s) := by
  obtain ⟨isCapped, hresolver⟩ := finish_resolver g s
  apply h.of_same
  · rw [finish_repository]
  · rw [hresolver]
  · rw [finish_fetched]
  · rw [hresolver]
  · rw [hresolver]
  · rw [hresolver]
  · rw [hresolver]
  · rw [hresolver]

theorem number_of_getElem? (h : Lineage g root k s) {j : Nat} {round : Round}
    (hround : s.resolver.rounds[j]? = some round) : round.number = j + 1 := by
  have hnumber : (s.resolver.rounds.map (·.number))[j]? = some round.number := by
    rw [List.getElem?_map, hround]
    rfl
  rw [h.numbers] at hnumber
  obtain ⟨hj, hnumber⟩ := List.getElem?_eq_some_iff.mp hnumber
  rw [List.getElem_range'] at hnumber
  omega

end Lineage

/-- Resolution from one declaration: an item of the `j`-th round has a path of `j` declarations
from the first one on, none of them twice, each found on the page fetched for a link of the one
before. A name that is reported lies on the path of an item of this name, and the path from it on
is a cycle. No declaration is among its own ancestors. -/
theorem cycles_real (g : Guide) (hroot : g.settings.documentRoot = none)
    (hresolve : ∀ link source, ∃ location, g.fetcher.resolve link source = .ok location)
    (hreports : NoReports g) (p : ParsedPage) (d : Declaration) (hd : p.declaration = some d) :
    ∃ stats t, (resolveAll g).run (seeded g p) = (.ok stats, t) ∧
      (∀ j round, t.resolver.rounds[j]? = some round → round.number = j + 1 ∧
        ∀ i ∈ round.items, i.path.length = j + 1 ∧ Trail g d.fullName t i.path ∧
          ∃ parent, Led g t parent i) ∧
      (∀ name ∈ t.resolver.circular.keys, ∃ round ∈ t.resolver.rounds, ∃ i ∈ round.items,
        ∃ before rest, i.name = name ∧ i.path = before ++ name :: rest ∧ Cycle g t name rest) ∧
      ∀ name path, t.resolver.context.ancestry.get? name = some path → name ∉ path := by
  have hlinks (d : Dependency) : ∃ location, g.Leads d location := hresolve _ _
  obtain ⟨_, _, hstats⟩ := resolver_seeded g p
  obtain ⟨n, hcourse, hsettled⟩ := resolveAll_run (I := Lineage.Settled g d.fullName)
    ((Lineage.of_seed hd).settled hroot hlinks (by rw [hstats]; rfl))
    fun k ⟨h, hscanned, hcount⟩ _ =>
      (h.round hreports hcount hscanned).settled hroot hlinks (by rw [stats_round, hcount])
  have h := (hsettled n (Nat.le_refl n)).1.finish
  refine ⟨_, _, hcourse.run, ?_, ?_, ?_⟩
  · intro j round hround
    have hnumber := h.number_of_getElem? hround
    refine ⟨hnumber, fun i hi => ?_⟩
    have hsent := h.rounds round (List.mem_of_getElem? hround) i hi
    exact ⟨hnumber ▸ hsent.length, hsent.trail, hsent.led⟩
  · intro name hname
    obtain ⟨round, hround, i, hi, rfl, hpath⟩ := h.circular name hname
    have hsent := h.rounds round hround i hi
    obtain ⟨parent, hled⟩ := hsent.led
    obtain ⟨before, rest, hsplit, hcycle⟩ := hsent.trail.cycle hled hpath
    exact ⟨round, hround, i, hi, before, rest, rfl, hsplit, hcycle⟩
  · intro name path hpath hmem
    have hnodup := (h.trails name path hpath).nodup
    rw [List.nodup_append] at hnodup
    exact hnodup.2.2 name hmem name List.mem_cons_self rfl

/-- The page of "B" refers back to "A". -/
theorem cycles_real_sample :
    ∃ stats t, (resolveAll Sample.guide).run (seeded Sample.guide Sample.seed) = (.ok stats, t) ∧
      (∀ j round, t.resolver.rounds[j]? = some round → round.number = j + 1 ∧
        ∀ i ∈ round.items, i.path.length = j + 1 ∧ Trail Sample.guide "A" t i.path ∧
          ∃ parent, Led Sample.guide t parent i) ∧
      ∃ rest, Cycle Sample.guide t "A" rest := by
  obtain ⟨stats, t, hrun, hrounds, hcircular, _⟩ :=
    cycles_real Sample.guide rfl Sample.leads Sample.reports Sample.seed _ rfl
  have hreported : "A".toList ∈ ((resolveAll Sample.guide).run
      (seeded Sample.guide Sample.seed)).2.resolver.circular.keys := by decide +kernel
  rw [hrun] at hreported
  obtain ⟨_, _, _, _, _, rest, _, _, hcycle⟩ := hcircular "A" hreported
  exact ⟨stats, t, hrun, hrounds, rest, hcycle⟩

end Run

end TypeAtlas
