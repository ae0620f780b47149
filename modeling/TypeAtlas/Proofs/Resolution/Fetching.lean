import TypeAtlas.Proofs.Resolution.Course

/-!
No page is fetched twice, over any seeds and resolutions of one resolver on one repository. An item
that closes no cycle is scheduled together with the first visit of its location; one that closes a
cycle may have a location that was visited, but is never fetched.
-/

namespace TypeAtlas

namespace Run

/-- All items that have been scheduled so far, in order. -/
def scheduled (s : Run) : List Item :=
  s.resolver.rounds.flatMap (·.items) ++ s.resolver.pending.values

/-- The locations of the items that close no cycle. -/
def marks (items : List Item) : List Text := (items.filter (!·.isOnPath)).map (·.location)

/-- From `s` to `t` the items `new` were scheduled, and the locations of those that close no cycle
were visited, and no others. -/
structure Grows (new : List Item) (s t : Run) : Prop where
  scheduled : t.scheduled = s.scheduled ++ new
  visited : t.repository.visited.inOrder = s.repository.visited.inOrder ++ marks new

theorem Grows.refl (s : Run) : Grows [] s s := ⟨(List.append_nil _).symm, (List.append_nil _).symm⟩

theorem marks_append (xs ys : List Item) : marks (xs ++ ys) = marks xs ++ marks ys := by
  rw [marks, List.filter_append, List.map_append]
  rfl

theorem Grows.trans {new more : List Item} {s t u : Run} (h : Grows new s t) (h' : Grows more t u) :
    Grows (new ++ more) s u := by
  constructor
  · rw [h'.scheduled, h.scheduled, List.append_assoc]
  · rw [h'.visited, h.visited, marks_append, List.append_assoc]

theorem scheduled_enqueue {s : Run} {i : Item} (h : i.name ∉ s.resolver.pending.keys) :
    (s.enqueue i).scheduled = s.scheduled ++ [i] := by
  have hvalues : (s.enqueue i).resolver.pending.values = s.resolver.pending.values ++ [i] :=
    Keyed.values_set_of_not_mem h
  rw [scheduled, hvalues, ← List.append_assoc]
  rfl

theorem visited_visit {s : Run} {location : Text}
    (h : location ∉ s.repository.visited.keys) :
    (s.visit location).repository.visited.inOrder = s.repository.visited.inOrder ++ [location] := by
  have hadd : (s.visit location).repository.visited = s.repository.visited.set location () :=
    Keyed.setNew_of_not_mem h
  rw [hadd]
  exact Keyed.keys_set_of_not_mem h

theorem Offered.grows {g : Guide} {parent : Text} {d : Dependency} {s t : Run}
    (h : Offered g parent d s t) : ∃ new, Grows new s t := by
  cases h with
  | settled | known | visited => exact ⟨[], .refl s⟩
  | closing location hs _ hp =>
    obtain ⟨_, _, _, hpending, _⟩ := unsettled hs
    have hmarks : marks [⟨d, location, s.trail parent⟩] = [] := by
      have honpath : (⟨d, location, s.trail parent⟩ : Item).isOnPath = true :=
        Item.isOnPath_iff.mpr hp
      simp [marks, honpath]
    refine ⟨_, scheduled_enqueue hpending, ?_⟩
    rw [hmarks, List.append_nil]
    rfl
  | fresh location hs _ hp _ hv =>
    obtain ⟨_, _, _, hpending, _⟩ := unsettled hs
    have hmarks : marks [⟨d, location, s.trail parent⟩] = [location] := by
      have honpath : (⟨d, location, s.trail parent⟩ : Item).isOnPath = false :=
        Item.isOnPath_eq_false_iff.mpr hp
      simp [marks, honpath]
    refine ⟨_, scheduled_enqueue (s := s.visit location) hpending, ?_⟩
    rw [hmarks]
    exact visited_visit hv

/-- A round takes what was scheduled before. -/
theorem grows_round (g : Guide) (s : Run) : Grows [] s (round g s) := by
  have hsettles := settles_round g s
  have hpending : s.opened.resolver.pending.values = [] := rfl
  constructor
  · rw [scheduled, hsettles.rounds, hsettles.pending, hpending, rounds_opened,
      List.flatMap_append, List.flatMap_singleton, scheduled]
  · rw [hsettles.visited]
    exact (List.append_nil _).symm

/-- The source of pages is asked for the locations that a round notes as fetched, and for no
others: a source that answers alike for these makes the same round. -/
theorem round_congr {g g' : Guide} {s : Run}
    (h : ∀ location ∈ (s.resolver.pending.values.filter s.needsPage).map (·.location),
      g.fetcher.fetch location = g'.fetcher.fetch location) : round g s = round g' s := by
  have houtcomes : s.outcomes g = s.outcomes g' := by
    apply List.map_congr_left
    intro i hi
    rw [Prod.mk.injEq]
    refine ⟨rfl, ?_⟩
    unfold outcome
    cases hneeds : s.needsPage i with
    | true =>
      have hitem : i ∈ s.resolver.pending.values.filter s.needsPage :=
        List.mem_filter.mpr ⟨hi, hneeds⟩
      rw [h i.location (List.mem_map_of_mem hitem)]
    | false =>
      simp only [needsPage, Bool.and_eq_false_iff, Bool.not_eq_false'] at hneeds
      rcases hneeds with (hcircular | hpath) | hnamespace
      · rw [if_pos hcircular, if_pos hcircular]
      · rw [if_pos hpath, if_pos hpath]
      · rw [if_pos hnamespace, if_pos hnamespace]
  rw [round_eq, round_eq, houtcomes]

/-- The locations of the items whose pages are fetched at all. -/
def pageLocations (items : List Item) : List Text :=
  (items.filter fun i => !i.isOnPath && !Location.isNamespacePage i.location).map (·.location)

/-- Each item that closes no cycle has visited a location of its own, and only such items of past
rounds have been fetched. -/
structure Sparing (s : Run) : Prop where
  visited : (marks s.scheduled).Sublist s.repository.visited.inOrder
  fetched : s.fetched.Sublist (pageLocations (s.resolver.rounds.flatMap (·.items)))

theorem pageLocations_sublist (items : List Item) : (pageLocations items).Sublist (marks items) := by
  apply List.Sublist.map
  apply List.monotone_filter_right
  intro i hi
  exact (Bool.and_eq_true_iff.mp hi).1

theorem Sparing.grows {new : List Item} {s t : Run} (h : s.Sparing) (ht : Grows new s t)
    (hfetched : t.fetched.Sublist (pageLocations (t.resolver.rounds.flatMap (·.items)))) :
    t.Sparing := by
  refine ⟨?_, hfetched⟩
  rw [ht.scheduled, ht.visited, marks_append]
  exact h.visited.append (List.Sublist.refl _)

theorem Sparing.offered {g : Guide} {parent : Text} {d : Dependency} {s t : Run} (h : s.Sparing)
    (ht : Offered g parent d s t) : t.Sparing := by
  obtain ⟨new, hgrows⟩ := ht.grows
  apply h.grows hgrows
  rw [ht.looks.fetched, ht.looks.rounds]
  exact h.fetched

theorem Sparing.round (g : Guide) {s : Run} (h : s.Sparing) : (round g s).Sparing := by
  have hsettles := settles_round g s
  apply h.grows (grows_round g s)
  rw [hsettles.fetched, hsettles.rounds, rounds_opened, List.flatMap_append, List.flatMap_singleton]
  rw [pageLocations, List.filter_append, List.map_append]
  apply h.fetched.append
  apply List.Sublist.map
  apply List.monotone_filter_right
  intro i hi
  have hneeds := Bool.and_eq_true_iff.mp hi
  rw [Bool.and_eq_true_iff]
  exact ⟨(Bool.and_eq_true_iff.mp hneeds.1).2, hneeds.2⟩

theorem Sparing.fetched_sublist {s : Run} (h : s.Sparing) :
    s.fetched.Sublist (marks s.scheduled) := by
  apply h.fetched.trans
  apply (pageLocations_sublist _).trans
  rw [scheduled, marks_append]
  exact List.sublist_append_left _ _

theorem Sparing.nodup {s : Run} (h : s.Sparing) : s.fetched.Nodup :=
  s.repository.visited.nodup.sublist (h.fetched_sublist.trans h.visited)

theorem Sparing.not_namespace {s : Run} (h : s.Sparing) {location : Text}
    (hl : location ∈ s.fetched) : Location.isNamespacePage location = false := by
  obtain ⟨i, hi, rfl⟩ := List.mem_map.mp (h.fetched.subset hl)
  obtain ⟨_, hi⟩ := List.mem_filter.mp hi
  exact Bool.not_eq_true' _ ▸ (Bool.and_eq_true_iff.mp hi).2

theorem Sparing.finish {g : Guide} {s : Run} (h : s.Sparing) : (finish g s).Sparing := by
  obtain ⟨isCapped, hresolver⟩ := finish_resolver g s
  refine ⟨?_, ?_⟩
  · rw [scheduled, hresolver, finish_repository]
    exact h.visited
  · rw [hresolver, finish_fetched]
    exact h.fetched

theorem Grows.finish {g : Guide} {new : List Item} {s t : Run} (h : Grows new s t) :
    Grows new s (finish g t) := by
  obtain ⟨isCapped, hresolver⟩ := finish_resolver g t
  refine ⟨?_, ?_⟩
  · rw [Run.scheduled, hresolver]
    exact h.scheduled
  · rw [finish_repository]
    exact h.visited

theorem grows_discover {g : Guide} (hroot : g.settings.documentRoot = none)
    (hresolve : ∀ d, ∃ location, g.Leads d location) {s u : Run} (hu : u.Sparing)
    (hgrows : ∃ new, Grows new s u) :
    ∃ t, (discover g).run u = (.ok (), t) ∧ t.Sparing ∧ ∃ new, Grows new s t := by
  have hkeep := discover_run hroot hresolve
    (I := fun t => t.Sparing ∧ ∃ new, Grows new s t) ⟨hu, hgrows⟩
    (fun v name links hv => ⟨⟨hv.1.visited, hv.1.fetched⟩, hv.2.imp fun _ h => ⟨h.1, h.2⟩⟩)
    (fun parent d v t hv ht => by
      obtain ⟨new, hnew⟩ := hv.2
      obtain ⟨more, hmore⟩ := ht.grows
      exact ⟨hv.1.offered ht, new ++ more, hnew.trans hmore⟩)
  obtain ⟨t, hrun, ht, _⟩ := hkeep
  exact ⟨t, hrun, ht⟩

theorem grows_resolveAll {g : Guide} (hroot : g.settings.documentRoot = none)
    (hresolve : ∀ d, ∃ location, g.Leads d location) {s : Run} (h : s.Sparing) :
    ∃ stats t, (resolveAll g).run s = (.ok stats, t) ∧ t.Sparing ∧ ∃ new, Grows new s t := by
  obtain ⟨n, hcourse, hI⟩ := resolveAll_run (g := g) (s := s)
    (I := fun _ t => t.Sparing ∧ ∃ new, Grows new s t)
    (grows_discover hroot hresolve h ⟨[], .refl s⟩)
    (by
      rintro k ⟨hstage, new, hgrows⟩ _
      apply grows_discover hroot hresolve (hstage.round g)
      exact ⟨new ++ [], hgrows.trans (grows_round g _)⟩)
  obtain ⟨hstage, new, hgrows⟩ := hI n (Nat.le_refl n)
  exact ⟨_, _, hcourse.run, hstage.finish, new, hgrows.finish⟩

end Run

/-- What may be asked of a resolver. -/
inductive Call
  | seed (page : ParsedPage)
  | resolveAll

def Call.perform (g : Guide) : Call → Work Unit
  | .seed page => modify fun s => (s.seed page).2
  | .resolveAll => do let _ ← Run.resolveAll g

def performAll (g : Guide) (calls : List Call) : Work Unit := calls.forM (Call.perform g)

namespace Run

/-- What lies between two states of a session: nothing that `s` had visited was scheduled to be
visited again, and no visit was forgotten. -/
structure Follows (s t : Run) : Prop where
  scheduled : ∃ new, t.scheduled = s.scheduled ++ new ∧
    ∀ location ∈ marks new, location ∉ s.repository.visited.inOrder
  visited : s.repository.visited.inOrder ⊆ t.repository.visited.inOrder

theorem Follows.trans {s t u : Run} (h : Follows s t) (h' : Follows t u) : Follows s u := by
  obtain ⟨new, hnew, hfresh⟩ := h.scheduled
  obtain ⟨more, hmore, hfresher⟩ := h'.scheduled
  refine ⟨⟨new ++ more, ?_, ?_⟩, List.Subset.trans h.visited h'.visited⟩
  · rw [hmore, hnew, List.append_assoc]
  · intro location hl
    rw [marks_append, List.mem_append] at hl
    rcases hl with hl | hl
    · exact hfresh location hl
    · exact fun hs => hfresher location hl (h.visited hs)

theorem Grows.not_mem_visited {new pre post : List Item} {s t : Run} (h : Grows new s t)
    {i : Item} (hnew : new = pre ++ i :: post) (hi : i.isOnPath = false) :
    i.location ∉ s.repository.visited.inOrder ++ marks pre := by
  have hnodup : t.repository.visited.inOrder.Nodup := t.repository.visited.nodup
  have hmarks : marks (i :: post) = i.location :: marks post := by
    simp [marks, hi]
  rw [h.visited, hnew, marks_append, hmarks, ← List.append_assoc, List.nodup_append] at hnodup
  intro hmem
  exact hnodup.2.2 i.location hmem i.location List.mem_cons_self rfl

theorem Grows.follows {new : List Item} {s t : Run} (h : Grows new s t) : Follows s t := by
  refine ⟨⟨new, h.scheduled, ?_⟩, ?_⟩
  · intro location hl
    obtain ⟨i, hi, rfl⟩ := List.mem_map.mp hl
    obtain ⟨hi, honpath⟩ := List.mem_filter.mp hi
    obtain ⟨pre, post, hnew⟩ := List.append_of_mem hi
    have hfresh := h.not_mem_visited hnew (by simpa using honpath)
    exact fun hs => hfresh (List.mem_append_left _ hs)
  · rw [h.visited]
    exact List.subset_append_left _ _

/-- A seed schedules nothing; it visits its own location. -/
theorem seed_keeps (s : Run) (p : ParsedPage) :
    (s.seed p).2.resolver.rounds = s.resolver.rounds ∧
      (s.seed p).2.resolver.pending = s.resolver.pending ∧ (s.seed p).2.fetched = s.fetched ∧
      (s.seed p).2.repository.visited = s.repository.visited.add p.source := by
  unfold seed
  cases p.declaration with
  | none => cases p.isNamespace <;> exact ⟨rfl, rfl, rfl, rfl⟩
  | some d =>
    have hrecord := settles_record (s.visit p.source) d p.kept []
    have hstore := hrecord.trans (settles_store _ d)
    exact ⟨hstore.rounds, hstore.pending, hstore.fetched, hstore.visited⟩

theorem Sparing.seed {s : Run} (h : s.Sparing) (p : ParsedPage) :
    (s.seed p).2.Sparing ∧ Follows s (s.seed p).2 := by
  obtain ⟨hrounds, hpending, hfetched, hvisited⟩ := seed_keeps s p
  have hscheduled : (s.seed p).2.scheduled = s.scheduled := by
    rw [scheduled, hrounds, hpending]
    rfl
  have hgrown := Names.inOrder_sublist_add s.repository.visited p.source
  rw [← hvisited] at hgrown
  refine ⟨⟨?_, ?_⟩, ⟨[], ?_, ?_⟩, hgrown.subset⟩
  · rw [hscheduled]
    exact h.visited.trans hgrown
  · rw [hfetched, hrounds]
    exact h.fetched
  · rw [hscheduled, List.append_nil]
  · nofun

end Run

open Run

theorem performAll_run {g : Guide} (hroot : g.settings.documentRoot = none)
    (hresolve : ∀ d, ∃ location, g.Leads d location) {s : Run} (h : s.Sparing) (calls : List Call) :
    ∃ t, (performAll g calls).run s = (.ok (), t) ∧ t.Sparing ∧ Follows s t := by
  apply forM_run (fun _ t => t.Sparing ∧ Follows s t)
  · exact ⟨h, ⟨[], (List.append_nil _).symm, nofun⟩, List.Subset.refl _⟩
  · rintro _ call u _ ⟨hu, hfollows⟩
    cases call with
    | seed page => exact ⟨_, rfl, (hu.seed page).1, hfollows.trans (hu.seed page).2⟩
    | resolveAll =>
      obtain ⟨stats, t, hrun, ht, new, hgrows⟩ := grows_resolveAll hroot hresolve hu
      refine ⟨t, ?_, ht, hfollows.trans hgrows.follows⟩
      rw [Call.perform, bind_run hrun]
      rfl

/-- A new resolver on a repository. -/
def Run.fresh (g : Guide) (r : Repository) : Run := ⟨.start g.settings.roundLimit, r, [], []⟩

theorem performAll_append (g : Guide) (before after : List Call) :
    performAll g (before ++ after) = (do performAll g before; performAll g after) :=
  List.forM_append

/-- A session on any repository fetches each location once and no page of a namespace. What it
fetches was scheduled, and had not been visited before. Every resolution in it visits just the
locations of the items that it schedules and that close no cycle. -/
theorem fetched_once (g : Guide) (hroot : g.settings.documentRoot = none)
    (hresolve : ∀ link source, ∃ location, g.fetcher.resolve link source = .ok location)
    (r : Repository) (calls : List Call) :
    ∃ t, (performAll g calls).run (fresh g r) = (.ok (), t) ∧ t.fetched.Nodup ∧
      (∀ location ∈ t.fetched,
        location ∈ marks t.scheduled ∧ Location.isNamespacePage location = false) ∧
      ∀ before after, calls = before ++ after → ∃ u,
        (performAll g before).run (fresh g r) = (.ok (), u) ∧ (∀ location ∈ t.fetched,
          location ∈ u.repository.visited.inOrder → location ∈ marks u.scheduled) ∧
        ∃ stats v new, (resolveAll g).run u = (.ok stats, v) ∧ Grows new u v ∧
          ∀ pre i post, new = pre ++ i :: post → i.isOnPath = false →
            i.location ∉ u.repository.visited.inOrder ++ marks pre := by
  have hlinks (d : Dependency) : ∃ location, g.Leads d location := hresolve _ _
  have hstart : (fresh g r).Sparing := ⟨List.nil_sublist _, List.nil_sublist _⟩
  obtain ⟨t, hrun, ht, _⟩ := performAll_run hroot hlinks hstart calls
  refine ⟨t, hrun, ht.nodup, ?_, ?_⟩
  · intro location hl
    exact ⟨ht.fetched_sublist.subset hl, ht.not_namespace hl⟩
  · intro before after hcalls
    obtain ⟨u, hbefore, hu, _⟩ := performAll_run hroot hlinks hstart before
    obtain ⟨t', hafter, _, hfollows⟩ := performAll_run hroot hlinks hu after
    have hsame : t' = t := by
      rw [hcalls, performAll_append, bind_run hbefore, hafter] at hrun
      exact (Prod.mk.inj hrun).2
    rw [hsame] at hfollows
    obtain ⟨stats, v, hresolveAll, _, new, hgrows⟩ := grows_resolveAll hroot hlinks hu
    refine ⟨u, hbefore, ?_, stats, v, new, hresolveAll, hgrows, ?_⟩
    · intro location hl hvisited
      obtain ⟨later, hlater, hfresh⟩ := hfollows.scheduled
      have hmarked := ht.fetched_sublist.subset hl
      rw [hlater, marks_append, List.mem_append] at hmarked
      exact hmarked.resolve_right fun hl => hfresh location hl hvisited
    · intro pre i post hnew hi
      exact hgrows.not_mem_visited hnew hi

/-- A second seed whose page has been fetched already. -/
theorem fetched_once_sample :
    ∃ t, (performAll Sample.guide [.seed Sample.seed, .resolveAll,
        .seed (Sample.page "B" ["A", "D", "E"]), .resolveAll]).run (fresh Sample.guide .empty) =
      (.ok (), t) ∧ t.fetched.Nodup ∧ ∀ location ∈ t.fetched,
        location ∈ marks t.scheduled ∧ Location.isNamespacePage location = false := by
  obtain ⟨t, hrun, hnodup, hfetched, _⟩ := fetched_once Sample.guide rfl Sample.leads .empty
    [.seed Sample.seed, .resolveAll, .seed (Sample.page "B" ["A", "D", "E"]), .resolveAll]
  exact ⟨t, hrun, hnodup, hfetched⟩

end TypeAtlas
