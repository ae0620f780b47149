import Mathlib.Data.List.Basic
import TypeAtlas.Resolution.Resolver

/-!
The course of a run: what it takes to offer one dependency, to look through the declarations, to
settle a round, and how the rounds follow one another. Pages that are not known are not looked for
here: there is no root to guess their locations from.
-/

namespace TypeAtlas

/-- The link of a dependency leads to a location. -/
def Guide.Leads (g : Guide) (d : Dependency) (location : Text) : Prop :=
  g.fetcher.resolve (d.link.getD []) d.source = .ok location

/-- What a declaration refers to, with the links of its page. -/
def Guide.uses (g : Guide) (name : Text) (d : Declaration) : Option PageLinks → List Dependency
  | none => Dependency.ofDeclaration g.registry name d
  | some p => (Dependency.ofDeclaration g.registry p.source d).map
      (·.attach g.settings.primaryNamespace (.ofLinks p.links))

namespace Context

theorem attach_eq (primary : Option Text) (t : LinkTable) (c : Context) (ds : List Dependency) :
    ∃ links, attach primary t c ds = ({ c with links }, ds.map (·.attach primary t)) := by
  induction ds generalizing c with
  | nil => exact ⟨c.links, rfl⟩
  | cons d ds ih =>
    cases htarget : d.linkTo? primary t with
    | none =>
      obtain ⟨links, h⟩ := ih c
      exact ⟨links, by simp only [attach, htarget, h, List.map_cons]⟩
    | some target =>
      obtain ⟨links, h⟩ := ih (c.recordLink d target)
      refine ⟨links, ?_⟩
      simp only [attach, htarget, h, List.map_cons]
      rfl

theorem extract_eq (c : Context) (g : Guide) (name : Text) (d : Declaration)
    (kept : Option PageLinks) :
    ∃ links, c.extract g.registry g.settings.primaryNamespace d (kept.map (·.links))
      ((kept.map (·.source)).getD name) = ({ c with links }, g.uses name d kept) := by
  cases kept with
  | none => exact ⟨c.links, rfl⟩
  | some p => exact attach_eq _ _ c _

end Context

namespace Run

/-! Work that succeeds. -/

theorem bind_run {α β : Type} {w : Work α} {f : α → Work β} {s t : Run} {a : α}
    (h : w.run s = (.ok a, t)) : (w >>= f).run s = (f a).run t := by
  simp only [ExceptT.run] at h
  simp only [ExceptT.run, bind, ExceptT.bind, ExceptT.mk, StateT.bind, h]
  rfl

theorem get_run (s : Run) : (get : Work Run).run s = (.ok s, s) := rfl

/-- An invariant of the work on each part of a list holds of the work on the list. -/
theorem forM_run {α : Type} {f : α → Work Unit} {l : List α} (I : List α → Run → Prop) {s : Run}
    (h : I [] s)
    (hstep : ∀ done x s, done ++ [x] <+: l → I done s →
      ∃ t, (f x).run s = (.ok (), t) ∧ I (done ++ [x]) t) :
    ∃ t, (l.forM f).run s = (.ok (), t) ∧ I l t := by
  suffices hrest : ∀ done rest s, done ++ rest = l → I done s →
      ∃ t, (rest.forM f).run s = (.ok (), t) ∧ I l t from hrest [] l s rfl h
  intro done rest
  induction rest generalizing done with
  | nil =>
    intro s hl hs
    rw [List.append_nil] at hl
    exact ⟨s, rfl, hl ▸ hs⟩
  | cons x rest ih =>
    intro s hl hs
    rw [List.append_cons] at hl
    obtain ⟨t, hrun, ht⟩ := hstep done x s ⟨rest, hl⟩ hs
    obtain ⟨u, hrest, hu⟩ := ih (done ++ [x]) t hl ht
    exact ⟨u, (bind_run hrun).trans hrest, hu⟩

/-! Offering a dependency. -/

/-- The path to what `parent` refers to. -/
def trail (s : Run) (parent : Text) : List Text := s.resolver.context.pathTo parent ++ [parent]

def visit (s : Run) (location : Text) : Run :=
  { s with repository := s.repository.visit location }

/-- What may become of a run when a dependency of `parent` is offered: it is passed over, scheduled
for the report of a cycle, or scheduled with its location, which is then visited. -/
inductive Offered (g : Guide) (parent : Text) (d : Dependency) (s : Run) : Run → Prop
  | settled (hs : s.isSettled parent d = true) : Offered g parent d s s
  | known (hp : d.fullName ∉ s.trail parent) (hk : s.isKnown d = true) : Offered g parent d s s
  | visited (location : Text) (hl : g.Leads d location) (hp : d.fullName ∉ s.trail parent)
      (hv : location ∈ s.repository.visited.keys) : Offered g parent d s s
  | closing (location : Text) (hs : s.isSettled parent d = false) (hl : g.Leads d location)
      (hp : d.fullName ∈ s.trail parent) :
      Offered g parent d s (s.enqueue ⟨d, location, s.trail parent⟩)
  | fresh (location : Text) (hs : s.isSettled parent d = false) (hl : g.Leads d location)
      (hp : d.fullName ∉ s.trail parent) (hk : s.isKnown d = false)
      (hv : location ∉ s.repository.visited.keys) :
      Offered g parent d s ((s.visit location).enqueue ⟨d, location, s.trail parent⟩)

theorem unsettled {s : Run} {parent : Text} {d : Dependency} (h : s.isSettled parent d = false) :
    d.isLinked = true ∧ d.fullName ≠ parent ∧ d.fullName ∉ s.resolver.circular.keys ∧
      d.fullName ∉ s.resolver.pending.keys ∧ d.fullName ∉ s.resolver.context.pending.keys := by
  unfold isSettled at h
  simp only [Bool.or_eq_false_iff, Bool.not_eq_false', decide_eq_false_iff_not,
    Names.has_eq_false_iff, Keyed.contains_eq_false_iff, Context.isPending] at h
  exact ⟨h.1.1.1.1, h.1.1.1.2, h.1.1.2, h.1.2, h.2⟩

theorem schedule_run (g : Guide) (parent : Text) (d : Dependency) (s : Run)
    (hlink : d.isLinked = true → ∃ location, g.Leads d location) :
    ∃ t, (schedule g parent d).run s = (.ok (), t) ∧ Offered g parent d s t := by
  rw [schedule, bind_run (get_run s)]
  cases hs : s.isSettled parent d with
  | true => exact ⟨s, rfl, .settled hs⟩
  | false =>
    obtain ⟨location, hl⟩ := hlink (unsettled hs).1
    have hlift (s : Run) : (liftM (g.fetcher.resolve (d.link.getD []) d.source) : Work Text).run s =
        (.ok location, s) := by
      rw [show g.fetcher.resolve (d.link.getD []) d.source = .ok location from hl]
      rfl
    by_cases hp : d.fullName ∈ s.trail parent
    · have hcontains : (s.resolver.context.pathTo parent ++ [parent]).contains d.fullName = true :=
        List.contains_iff_mem.mpr hp
      refine ⟨_, ?_, .closing location hs hl hp⟩
      simp only [hcontains, ↓reduceIte, Bool.false_eq_true]
      rw [bind_run (hlift s)]
      rfl
    · have hcontains : (s.resolver.context.pathTo parent ++ [parent]).contains d.fullName = false :=
        Bool.eq_false_iff.mpr fun h => hp (List.contains_iff_mem.mp h)
      simp only [hcontains, ↓reduceIte, Bool.false_eq_true]
      cases hk : s.isKnown d with
      | true => exact ⟨s, rfl, .known hp hk⟩
      | false =>
        simp only [Bool.not_false, ↓reduceIte]
        rw [bind_run (hlift s)]
        cases hv : s.repository.visited.has location with
        | true =>
          exact ⟨s, rfl, .visited location hl hp (Names.has_iff.mp hv)⟩
        | false =>
          exact ⟨_, rfl, .fresh location hs hl hp hk (Names.has_eq_false_iff.mp hv)⟩

/-! Looking through a declaration, and through all of them. -/

/-- The run as it begins to look through a declaration. -/
def begin (s : Run) (name : Text) (links : LinkTable) : Run :=
  { s with resolver := { s.resolver with
      scanned := s.resolver.scanned.add name
      context := { s.resolver.context with links } } }

theorem scan_run_of_scanned {g : Guide} {name : Text} {d : Declaration} {s : Run}
    (h : name ∈ s.resolver.scanned.keys) : (scan g name d).run s = (.ok (), s) := by
  rw [scan, bind_run (get_run s), if_pos (Names.has_iff.mpr h)]
  rfl

theorem pageOf_run {g : Guide} (hroot : g.settings.documentRoot = none) (name : Text) (s : Run) :
    (pageOf g name).run s = (.ok (s.resolver.pages.get? name), s) := by
  rw [pageOf, bind_run (get_run s)]
  cases s.resolver.pages.get? name with
  | none =>
    rw [recover, hroot]
    rfl
  | some p => rfl

theorem dependencies_run (g : Guide) (name : Text) (d : Declaration) (kept : Option PageLinks)
    (s : Run) : ∃ links, (dependencies g name d kept).run s = (.ok (g.uses name d kept),
      { s with resolver := { s.resolver with context := { s.resolver.context with links } } }) := by
  obtain ⟨links, hextract⟩ := s.resolver.context.extract_eq g name d kept
  refine ⟨links, ?_⟩
  rw [dependencies, bind_run (get_run s), hextract]
  rfl

/-- Looking through a declaration begins with its page and offers what it refers to. -/
theorem scan_run_of_page {g : Guide} {name : Text} (d : Declaration) {kept : Option PageLinks}
    {s : Run} (h : name ∉ s.resolver.scanned.keys)
    (hpage : ∀ t : Run, t.resolver.pages = s.resolver.pages →
      (pageOf g name).run t = (.ok kept, t)) :
    ∃ links, (scan g name d).run s =
      ((g.uses name d kept).forM (schedule g name)).run (s.begin name links) := by
  let opened : Run :=
    { s with resolver := { s.resolver with scanned := s.resolver.scanned.add name } }
  have hmodify : (modify fun s => { s with resolver := { s.resolver with
      scanned := s.resolver.scanned.add name } } : Work Unit).run s = (.ok (), opened) := rfl
  have hopened : (pageOf g name).run opened = (.ok kept, opened) := hpage opened rfl
  obtain ⟨links, huses⟩ := dependencies_run g name d kept opened
  refine ⟨links, ?_⟩
  rw [scan, bind_run (get_run s), if_neg (by rw [Names.has_iff]; exact h)]
  rw [bind_run hmodify, bind_run hopened, bind_run huses]
  rfl

theorem scan_run {g : Guide} (hroot : g.settings.documentRoot = none) {name : Text}
    {d : Declaration} {s : Run} (I : List Dependency → Run → Prop)
    (h : name ∉ s.resolver.scanned.keys) (hbegin : ∀ links, I [] (s.begin name links))
    (hlink : ∀ x ∈ g.uses name d (s.resolver.pages.get? name), x.isLinked = true →
      ∃ location, g.Leads x location)
    (hstep : ∀ done x s' t, done ++ [x] <+: g.uses name d (s.resolver.pages.get? name) →
      I done s' → Offered g name x s' t → I (done ++ [x]) t) :
    ∃ t, (scan g name d).run s = (.ok (), t) ∧
      I (g.uses name d (s.resolver.pages.get? name)) t := by
  obtain ⟨links, hscan⟩ := scan_run_of_page d h fun t ht => ht ▸ pageOf_run hroot name t
  obtain ⟨t, hrun, ht⟩ := forM_run (f := schedule g name) I (hbegin links) (by
    intro done x s' hpart hs'
    obtain ⟨t, hrun, ht⟩ := schedule_run g name x s' (hlink x (hpart.subset (by simp)))
    exact ⟨t, hrun, hstep done x s' t hpart hs' ht⟩)
  exact ⟨t, hscan.trans hrun, ht⟩

/-- Looking through declarations changes neither what is stored nor what has been counted. -/
structure Looks (s t : Run) : Prop where
  rounds : t.resolver.rounds = s.resolver.rounds
  circular : t.resolver.circular = s.resolver.circular
  pages : t.resolver.pages = s.resolver.pages
  stats : t.resolver.stats = s.resolver.stats
  types : t.resolver.context.visited = s.resolver.context.visited
  ancestry : t.resolver.context.ancestry = s.resolver.context.ancestry
  declarations : t.repository.declarations = s.repository.declarations
  merged : t.repository.merged = s.repository.merged
  fetched : t.fetched = s.fetched

theorem Looks.refl (s : Run) : Looks s s := ⟨rfl, rfl, rfl, rfl, rfl, rfl, rfl, rfl, rfl⟩

theorem Looks.trans {s t u : Run} (h : Looks s t) (h' : Looks t u) : Looks s u :=
  ⟨h'.rounds.trans h.rounds, h'.circular.trans h.circular, h'.pages.trans h.pages,
    h'.stats.trans h.stats, h'.types.trans h.types, h'.ancestry.trans h.ancestry,
    h'.declarations.trans h.declarations, h'.merged.trans h.merged, h'.fetched.trans h.fetched⟩

theorem looks_begin (s : Run) (name : Text) (links : LinkTable) : Looks s (s.begin name links) :=
  ⟨rfl, rfl, rfl, rfl, rfl, rfl, rfl, rfl, rfl⟩

theorem Offered.looks {g : Guide} {parent : Text} {d : Dependency} {s t : Run}
    (h : Offered g parent d s t) : Looks s t := by
  cases h with
  | settled | known | visited => exact .refl s
  | closing | fresh => exact ⟨rfl, rfl, rfl, rfl, rfl, rfl, rfl, rfl, rfl⟩

theorem Offered.scanned {g : Guide} {parent : Text} {d : Dependency} {s t : Run}
    (h : Offered g parent d s t) : t.resolver.scanned = s.resolver.scanned := by
  cases h <;> rfl

/-- What holds when a declaration is begun and after each offer holds when all declarations have
been looked through. -/
theorem discover_run {g : Guide} (hroot : g.settings.documentRoot = none)
    (hresolve : ∀ d, ∃ location, g.Leads d location) {I : Run → Prop} {s : Run} (h : I s)
    (hbegin : ∀ s name links, I s → I (s.begin name links))
    (hoffer : ∀ parent d s t, I s → Offered g parent d s t → I t) :
    ∃ t, (discover g).run s = (.ok (), t) ∧ I t ∧ Looks s t := by
  rw [discover, bind_run (get_run s)]
  apply forM_run (fun _ t => I t ∧ Looks s t) ⟨h, .refl s⟩
  intro _ entry u _ hu
  obtain ⟨name, d⟩ := entry
  by_cases hscanned : name ∈ u.resolver.scanned.keys
  · exact ⟨u, scan_run_of_scanned hscanned, hu⟩
  · apply scan_run hroot (fun _ t => I t ∧ Looks s t) hscanned
    · intro links
      exact ⟨hbegin u name links hu.1, hu.2.trans (looks_begin u name links)⟩
    · intro x _ _
      exact hresolve x
    · intro _ x v t _ hv ht
      exact ⟨hoffer name x v t hv.1 ht, hv.2.trans ht.looks⟩

/-! Waiting items. -/

/-- Items wait under their own names, and under none that has been reported. -/
structure Waits (s : Run) : Prop where
  named : s.resolver.pending.values.map Item.name = s.resolver.pending.keys
  apart : ∀ name ∈ s.resolver.pending.keys, name ∉ s.resolver.circular.keys

theorem Waits.nodup {s : Run} (h : s.Waits) :
    (s.resolver.pending.values.map Item.name).Nodup := by
  rw [h.named]
  exact s.resolver.pending.nodup

theorem Waits.apart_of_mem {s : Run} (h : s.Waits) {i : Item}
    (hi : i ∈ s.resolver.pending.values) : i.name ∉ s.resolver.circular.keys := by
  apply h.apart
  rw [← h.named]
  exact List.mem_map_of_mem hi

theorem Waits.enqueue {s : Run} (h : s.Waits) {i : Item}
    (hpending : i.name ∉ s.resolver.pending.keys) (hcircular : i.name ∉ s.resolver.circular.keys) :
    (s.enqueue i).Waits := by
  have hnamed := h.named
  constructor
  · simp only [Run.enqueue, onContext, Keyed.values_set_of_not_mem hpending,
      Keyed.keys_set_of_not_mem hpending, List.map_append, hnamed, List.map_cons, List.map_nil]
  · intro name hname
    rcases Keyed.mem_keys_set.mp hname with rfl | hname
    · exact hcircular
    · exact h.apart name hname

theorem Waits.offered {g : Guide} {parent : Text} {d : Dependency} {s t : Run} (h : s.Waits)
    (ht : Offered g parent d s t) : t.Waits := by
  cases ht with
  | settled | known | visited => exact h
  | closing location hs =>
    obtain ⟨_, _, hcircular, hpending, _⟩ := unsettled hs
    exact h.enqueue hpending hcircular
  | fresh location hs =>
    obtain ⟨_, _, hcircular, hpending, _⟩ := unsettled hs
    have hvisit : (s.visit location).Waits := ⟨h.named, h.apart⟩
    exact hvisit.enqueue hpending hcircular

theorem waits_of_pending_empty {s : Run} (h : s.resolver.pending = .empty) : s.Waits := by
  constructor
  · rw [h]
    rfl
  · rw [h]
    nofun

/-! Settling a round. -/

/-- Settling items changes neither what is scheduled nor what has been visited. -/
structure Settles (s t : Run) : Prop where
  rounds : t.resolver.rounds = s.resolver.rounds
  pending : t.resolver.pending = s.resolver.pending
  scanned : t.resolver.scanned = s.resolver.scanned
  visited : t.repository.visited = s.repository.visited
  fetched : t.fetched = s.fetched

theorem Settles.trans {s t u : Run} (h : Settles s t) (h' : Settles t u) : Settles s u :=
  ⟨h'.rounds.trans h.rounds, h'.pending.trans h.pending, h'.scanned.trans h.scanned,
    h'.visited.trans h.visited, h'.fetched.trans h.fetched⟩

/-- A declaration that is new is recorded with its page and its path, and nothing else changes. -/
theorem record_eq (s : Run) (d : Declaration) (kept : Option PageLinks) (path : List Text) :
    ∃ pages, s.record d kept path = { s with resolver := { s.resolver with
        pages
        context := (s.resolver.context.resolve d.fullName d).recordPath d.fullName path } } ∧
      (d.fullName ∉ s.resolver.pages.keys → ∀ x,
        pages.get? x = if x = d.fullName then kept else s.resolver.pages.get? x) := by
  cases kept with
  | none =>
    refine ⟨s.resolver.pages, rfl, ?_⟩
    intro hnew x
    by_cases hx : x = d.fullName
    · rw [if_pos hx, hx]
      exact Keyed.get?_eq_none_iff.mpr hnew
    · rw [if_neg hx]
  | some p =>
    refine ⟨s.resolver.pages.setNew d.fullName p, rfl, ?_⟩
    intro hnew x
    rw [Keyed.get?_setNew, Keyed.get?_eq_none_iff.mpr hnew]
    rfl

theorem settles_record (s : Run) (d : Declaration) (kept : Option PageLinks) (path : List Text) :
    Settles s (s.record d kept path) := by
  obtain ⟨pages, hrecord, _⟩ := s.record_eq d kept path
  rw [hrecord]
  exact ⟨rfl, rfl, rfl, rfl, rfl⟩

theorem settles_store (s : Run) (d : Declaration) : Settles s (s.store d) := by
  have hvisited : (s.repository.add d.fullName d).2.visited = s.repository.visited := by
    unfold Repository.add
    split <;> rfl
  exact ⟨rfl, rfl, rfl, hvisited, rfl⟩

theorem settles_recordCircular (s : Run) (name : Text) (path : List Text) :
    Settles s (s.recordCircular name path) := by
  unfold recordCircular
  split <;> exact ⟨rfl, rfl, rfl, rfl, rfl⟩

theorem settles_mergePage (s : Run) (i : Item) (p : ParsedPage) : Settles s (s.mergePage i p) := by
  unfold mergePage
  cases p.declaration with
  | none => exact ⟨rfl, rfl, rfl, rfl, rfl⟩
  | some d =>
    have hstored := (settles_store s d).trans (settles_record (s.store d) d p.kept i.path)
    exact hstored.trans ⟨rfl, rfl, rfl, rfl, rfl⟩

theorem settles_settle (s : Run) (i : Item) (o : Outcome) : Settles s (s.settle i o) := by
  have hdrop : Settles s (s.onContext (·.dropPending i.name)) := ⟨rfl, rfl, rfl, rfl, rfl⟩
  apply hdrop.trans
  cases o with
  | skipped => exact ⟨rfl, rfl, rfl, rfl, rfl⟩
  | circular name path => exact settles_recordCircular _ name path
  | deferred => exact ⟨rfl, rfl, rfl, rfl, rfl⟩
  | page p => exact settles_mergePage _ i p
  | failed fault => exact ⟨rfl, rfl, rfl, rfl, rfl⟩

/-- An item that has been settled waits no longer. -/
theorem mem_pending_settle {s : Run} {i : Item} {o : Outcome} {x : Text}
    (h : x ∈ (s.settle i o).resolver.context.pending.keys) :
    x ∈ s.resolver.context.pending.keys ∧ x ≠ i.name := by
  suffices hdrop : (s.settle i o).resolver.context.pending =
      s.resolver.context.pending.remove i.name by
    rw [hdrop] at h
    exact Keyed.mem_keys_erase.mp h
  cases o with
  | skipped | deferred | failed => rfl
  | circular name path =>
    simp only [settle, recordCircular]
    split <;> rfl
  | page p =>
    simp only [settle, mergePage, record]
    cases p.declaration with
    | none => rfl
    | some d => cases p.kept <;> rfl

theorem settle_of_none {s : Run} {i : Item} {p : ParsedPage} (h : p.declaration = none) :
    s.settle i (.page p) = ((s.onContext (·.dropPending i.name)).countUnresolved).warn
      (.noDeclaration i.location i.name) := by
  simp only [settle, mergePage, h]

theorem settle_of_some {s : Run} {i : Item} {p : ParsedPage} {d : Declaration}
    (h : p.declaration = some d) : s.settle i (.page p) =
      ((((s.onContext (·.dropPending i.name)).store d).record d p.kept i.path).onContext
        (·.visit i.name)).onStats fun t => { t with resolved := t.resolved + 1 } := by
  simp only [settle, mergePage, h]

theorem settleAll_spec {xs : List (Item × Outcome)} (I : List (Item × Outcome) → Run → Prop)
    {s : Run} (h : I [] s)
    (hstep : ∀ done i o s, done ++ [(i, o)] <+: xs → I done s →
      I (done ++ [(i, o)]) (s.settle i o)) : I xs (s.settleAll xs) := by
  suffices hrest : ∀ done rest s, done ++ rest = xs → I done s → I xs (s.settleAll rest) from
    hrest [] xs s rfl h
  intro done rest
  induction rest generalizing done with
  | nil =>
    intro s hxs hs
    rw [List.append_nil] at hxs
    exact hxs ▸ hs
  | cons p rest ih =>
    intro s hxs hs
    rw [List.append_cons] at hxs
    exact ih (done ++ [p]) (s.settle p.1 p.2) hxs (hstep done p.1 p.2 s ⟨rest, hxs⟩ hs)

/-- Why an item comes to what it comes to. -/
inductive ComesTo (g : Guide) (s : Run) (i : Item) : Outcome → Prop
  | skipped (h : i.name ∈ s.resolver.circular.keys) : ComesTo g s i .skipped
  | closing (h : i.name ∈ i.path) : ComesTo g s i (.circular i.name i.path)
  | deferred (h : Location.isNamespacePage i.location = true) : ComesTo g s i .deferred
  | page (p : ParsedPage) (hneeds : s.needsPage i = true)
      (hfetch : g.fetcher.fetch i.location = .ok p) : ComesTo g s i (.page p)
  | told (name : Text) (path : List Text)
      (hfetch : g.fetcher.fetch i.location = .error (.unexplained (.cycle name path))) :
      ComesTo g s i (.circular name path)
  | failed (fault : PageFault) (hfetch : g.fetcher.fetch i.location = .error fault) :
      ComesTo g s i (.failed fault)

theorem comesTo (g : Guide) (s : Run) (i : Item) : ComesTo g s i (s.outcome g i) := by
  cases hcircular : s.resolver.circular.has i.name with
  | true =>
    rw [outcome, hcircular]
    exact .skipped (Names.has_iff.mp hcircular)
  | false =>
    cases hpath : i.isOnPath with
    | true =>
      rw [outcome, hcircular, hpath]
      exact .closing (Item.isOnPath_iff.mp hpath)
    | false =>
      cases hnamespace : Location.isNamespacePage i.location with
      | true =>
        rw [outcome, hcircular, hpath, hnamespace]
        exact .deferred hnamespace
      | false =>
        have hneeds : s.needsPage i = true := by
          rw [needsPage, hcircular, hpath, hnamespace]
          rfl
        rw [outcome, hcircular, hpath, hnamespace]
        simp only [Bool.false_eq_true, ↓reduceIte]
        split
        · exact .page _ hneeds ‹_›
        · exact .told _ _ ‹_›
        · exact .failed _ ‹_›

/-- The items of a round with what they come to. -/
def outcomes (g : Guide) (s : Run) : List (Item × Outcome) :=
  s.resolver.pending.values.map fun i => (i, s.outcome g i)

/-- The run once the pages of its next round have been fetched. -/
def opened (s : Run) : Run :=
  { s.openRound (s.resolver.stats.rounds + 1) with
    fetched := s.fetched ++ (s.resolver.pending.values.filter s.needsPage).map (·.location) }

theorem round_eq (g : Guide) (s : Run) : round g s =
    (s.opened.settleAll (s.outcomes g)).closeRound (s.resolver.stats.rounds + 1) := rfl

/-- An item of the round has a name that no item before it has. -/
theorem Waits.name_not_mem {g : Guide} {s : Run} (h : s.Waits) {done : List (Item × Outcome)}
    {i : Item} {o : Outcome} (hpart : done ++ [(i, o)] <+: s.outcomes g) :
    i.name ∉ done.map (·.1.name) := by
  obtain ⟨rest, hrest⟩ := hpart
  have hnames : (s.outcomes g).map (·.1.name) = s.resolver.pending.values.map Item.name := by
    rw [outcomes, List.map_map]
    rfl
  have hnodup := h.nodup
  rw [← hnames, ← hrest, List.append_assoc, List.map_append, List.nodup_append] at hnodup
  intro hmem
  exact hnodup.2.2 i.name hmem i.name (by simp) rfl

/-- What holds as a round begins, and is kept where an item is settled whose name was neither
reported nor settled before, holds of the round. -/
theorem Waits.settleAll {g : Guide} {s : Run} (h : s.Waits)
    (I : List (Item × Outcome) → Run → Prop) (hbegin : I [] s.opened)
    (hstep : ∀ done i t, i ∈ s.resolver.pending.values → i.name ∉ s.resolver.circular.keys →
      i.name ∉ done.map (·.1.name) → I done t →
        I (done ++ [(i, s.outcome g i)]) (t.settle i (s.outcome g i))) :
    I (s.outcomes g) (s.opened.settleAll (s.outcomes g)) := by
  apply settleAll_spec I hbegin
  intro done i o t hpart ht
  have hmem : (i, o) ∈ s.outcomes g := hpart.subset (by simp)
  have hnew := h.name_not_mem hpart
  obtain ⟨i, hi, hio⟩ := List.mem_map.mp hmem
  cases hio
  exact hstep done i t hi (h.apart_of_mem hi) hnew ht

theorem rounds_opened (s : Run) : s.opened.resolver.rounds =
    s.resolver.rounds ++ [⟨s.resolver.stats.rounds + 1, s.resolver.pending.values⟩] := rfl

theorem settles_settleAll (s : Run) (xs : List (Item × Outcome)) : Settles s (s.settleAll xs) := by
  apply settleAll_spec (fun _ t => Settles s t) ⟨rfl, rfl, rfl, rfl, rfl⟩
  intro _ i o t _ ht
  exact ht.trans (settles_settle t i o)

theorem stats_round (g : Guide) (s : Run) :
    (round g s).resolver.stats.rounds = s.resolver.stats.rounds + 1 := rfl

theorem settles_round (g : Guide) (s : Run) : Settles s.opened (round g s) :=
  (settles_settleAll s.opened (s.outcomes g)).trans ⟨rfl, rfl, rfl, rfl, rfl⟩

/-- No item of the round waits on. -/
theorem Waits.pending_round {g : Guide} {s : Run} (h : s.Waits)
    (hwaiting : s.resolver.context.pending.keys ⊆ s.resolver.pending.keys) :
    (round g s).resolver.context.pending.keys = [] := by
  have hsettled : ∀ x ∈ (s.opened.settleAll (s.outcomes g)).resolver.context.pending.keys,
      x ∈ s.resolver.pending.keys ∧ x ∉ (s.outcomes g).map (·.1.name) := by
    apply h.settleAll fun done t => ∀ x ∈ t.resolver.context.pending.keys,
      x ∈ s.resolver.pending.keys ∧ x ∉ done.map (·.1.name)
    · exact fun x hx => ⟨hwaiting hx, List.not_mem_nil⟩
    · intro done i t _ _ _ ht x hx
      obtain ⟨hx, hne⟩ := mem_pending_settle hx
      obtain ⟨hwaits, hdone⟩ := ht x hx
      refine ⟨hwaits, ?_⟩
      rw [List.map_append, List.mem_append]
      exact not_or.mpr ⟨hdone, fun hmem => hne (List.mem_singleton.mp hmem)⟩
  apply List.eq_nil_iff_forall_not_mem.mpr
  intro x hx
  obtain ⟨hwaits, hdone⟩ := hsettled x hx
  rw [← h.named] at hwaits
  obtain ⟨i, hi, rfl⟩ := List.mem_map.mp hwaits
  exact hdone (List.mem_map.mpr ⟨_, List.mem_map_of_mem hi, rfl⟩)

/-! One round after another. -/

/-- A fresh run that has been given its first page. -/
def seeded (g : Guide) (p : ParsedPage) : Run := ((start g.settings.roundLimit).seed p).2

theorem seed_of_some {s : Run} {p : ParsedPage} {d : Declaration} (h : p.declaration = some d) :
    (s.seed p).2 = ((s.visit p.source).store d).record d p.kept [] := by
  unfold seed
  rw [h]
  cases p.kept <;> rfl

theorem seeded_of_some {g : Guide} {p : ParsedPage} {d : Declaration}
    (h : p.declaration = some d) : seeded g p =
      (((start g.settings.roundLimit).visit p.source).store d).record d p.kept [] :=
  seed_of_some h

/-- A fresh seed leaves nothing to do, and no round behind it. -/
theorem resolver_seeded (g : Guide) (p : ParsedPage) :
    (seeded g p).resolver.pending = .empty ∧ (seeded g p).resolver.rounds = [] ∧
      (seeded g p).resolver.stats = .zero := by
  unfold seeded seed
  cases p.declaration with
  | none => cases p.isNamespace <;> exact ⟨rfl, rfl, rfl⟩
  | some d => cases p.kept <;> exact ⟨rfl, rfl, rfl⟩

/-- The run after `k` rounds, all declarations looked through. -/
def stage (g : Guide) (s : Run) : Nat → Run
  | 0 => ((discover g).run s).2
  | k + 1 => ((discover g).run (round g (stage g s k))).2

/-- The rounds up to the `k`-th, each with the items that waited when it began. -/
def history (g : Guide) (s : Run) (k : Nat) : List Round :=
  (List.range k).map fun j => ⟨j + 1, (stage g s j).resolver.pending.values⟩

/-- The run with a note on the work that is left. -/
def closed (g : Guide) (s : Run) : Run :=
  if s.resolver.pending.entries.isEmpty then s else cap g s

/-- The run as it is handed back, with a note on the cycles that were found. -/
def finish (g : Guide) (s : Run) : Run :=
  if (s.closed g).resolver.circular.entries.isEmpty then s.closed g
  else (s.closed g).warn (.circularNames (s.closed g).resolver.circular.sorted)

theorem closed_eq_or (g : Guide) (s : Run) : s.closed g = s ∨ s.closed g = cap g s := by
  unfold closed
  split
  · exact .inl rfl
  · exact .inr rfl

theorem finish_repository (g : Guide) (s : Run) : (finish g s).repository = s.repository := by
  unfold finish
  rcases closed_eq_or g s with h | h <;> rw [h] <;> split <;> rfl

theorem finish_fetched (g : Guide) (s : Run) : (finish g s).fetched = s.fetched := by
  unfold finish
  rcases closed_eq_or g s with h | h <;> rw [h] <;> split <;> rfl

/-- The final notes concern the warnings and the counters only. -/
theorem finish_resolver (g : Guide) (s : Run) :
    ∃ isCapped, (finish g s).resolver =
      { s.resolver with stats := { s.resolver.stats with isCapped } } := by
  unfold finish
  rcases closed_eq_or g s with h | h <;> rw [h] <;> split <;> exact ⟨_, rfl⟩

/-- The resolution that starts from `s` succeeds after `n` rounds: each had work to do, and the
last one left none or used up the limit. -/
structure Course (g : Guide) (s : Run) (n : Nat) : Prop where
  run : (resolveAll g).run s =
    (.ok (finish g (stage g s n)).resolver.stats, finish g (stage g s n))
  busy : ∀ k < n, (stage g s k).resolver.pending.entries ≠ []
  bound : n ≤ g.settings.roundLimit - (stage g s 0).resolver.stats.rounds
  ended : (stage g s n).resolver.pending.entries = [] ∨
    n = g.settings.roundLimit - (stage g s 0).resolver.stats.rounds

theorem roundsFrom_run {g : Guide} {s : Run} {I : Nat → Run → Prop}
    (hstep : ∀ k, I k (stage g s k) → (stage g s k).resolver.pending.entries ≠ [] →
      ∃ t, (discover g).run (round g (stage g s k)) = (.ok (), t) ∧ I (k + 1) t)
    (left k : Nat) (h : I k (stage g s k)) :
    ∃ n, k ≤ n ∧ (roundsFrom g left).run (stage g s k) = (.ok (), closed g (stage g s n)) ∧
      (∀ j, k ≤ j → j < n → (stage g s j).resolver.pending.entries ≠ []) ∧ n ≤ k + left ∧
      ((stage g s n).resolver.pending.entries = [] ∨ n = k + left) ∧
      ∀ j, k ≤ j → j ≤ n → I j (stage g s j) := by
  have hstay (k : Nat) (h : I k (stage g s k)) (j : Nat) (hkj : k ≤ j) (hjk : j ≤ k) :
      I j (stage g s j) := by
    rw [Nat.le_antisymm hjk hkj]
    exact h
  induction left generalizing k with
  | zero =>
    refine ⟨k, Nat.le_refl k, ?_, by omega, by omega, .inr rfl, hstay k h⟩
    rw [roundsFrom, bind_run (get_run _), closed]
    cases (stage g s k).resolver.pending.entries.isEmpty <;> rfl
  | succ left ih =>
    by_cases hempty : (stage g s k).resolver.pending.entries = []
    · refine ⟨k, Nat.le_refl k, ?_, by omega, by omega, .inl hempty, hstay k h⟩
      rw [roundsFrom, bind_run (get_run _), closed, hempty]
      rfl
    · obtain ⟨t, hrun, ht⟩ := hstep k h hempty
      have hstage : stage g s (k + 1) = t := by rw [stage, hrun]
      rw [← hstage] at ht
      obtain ⟨n, hn, hrest, hbusy, hle, hended, hI⟩ := ih (k + 1) ht
      refine ⟨n, by omega, ?_, ?_, by omega, hended.imp id (by omega), ?_⟩
      · have hround : (modify (round g) : Work Unit).run (stage g s k) =
            (.ok (), round g (stage g s k)) := rfl
        have hdiscover : (discover g).run (round g (stage g s k)) =
            (.ok (), stage g s (k + 1)) := by
          rw [hrun, hstage]
        rw [roundsFrom, bind_run (get_run _), ← hrest]
        cases hentries : (stage g s k).resolver.pending.entries with
        | nil => exact absurd hentries hempty
        | cons e es =>
          simp only [List.isEmpty_cons, Bool.false_eq_true, ↓reduceIte]
          rw [bind_run hround, bind_run hdiscover]
      · intro j hkj hjn
        rcases Nat.eq_or_lt_of_le hkj with rfl | hlt
        · exact hempty
        · exact hbusy j hlt hjn
      · intro j hkj hjn
        rcases Nat.eq_or_lt_of_le hkj with rfl | hlt
        · exact h
        · exact hI j hlt hjn

/-- What holds after the first look and is kept by every round with work to do holds at every
stage, and no stage fails. -/
theorem resolveAll_run {g : Guide} {s : Run} {I : Nat → Run → Prop}
    (h : ∃ t, (discover g).run s = (.ok (), t) ∧ I 0 t)
    (hstep : ∀ k, I k (stage g s k) → (stage g s k).resolver.pending.entries ≠ [] →
      ∃ t, (discover g).run (round g (stage g s k)) = (.ok (), t) ∧ I (k + 1) t) :
    ∃ n, Course g s n ∧ ∀ k ≤ n, I k (stage g s k) := by
  obtain ⟨t, hdiscover, ht⟩ := h
  have hstage : stage g s 0 = t := by rw [stage, hdiscover]
  rw [← hstage] at ht hdiscover
  obtain ⟨n, _, hrounds, hbusy, hle, hended, hI⟩ := roundsFrom_run hstep
    (g.settings.roundLimit - (stage g s 0).resolver.stats.rounds) 0 ht
  rw [Nat.zero_add] at hle hended
  refine ⟨n, ⟨?_, fun k hk => hbusy k (Nat.zero_le k) hk, hle, hended⟩,
    fun k hk => hI k (Nat.zero_le k) hk⟩
  rw [resolveAll, bind_run hdiscover, bind_run (get_run _), bind_run hrounds, bind_run (get_run _)]
  rw [finish]
  cases ((stage g s n).closed g).resolver.circular.entries.isEmpty <;> rfl

end Run

/-! A few pages, for the cases at hand: "A" refers to "B" and "C", "B" refers back to "A" and on to
"D"; the page of "C" is missing, and that of "D" declares nothing. -/

namespace Sample

/-- A class at a location of its own name, with links to its parents. -/
def page (name : Text) (parents : List Text) : ParsedPage where
  source := name
  isNamespace := false
  declaration := some ⟨name, [], name, parents, [], [], [], [], [], none, false⟩
  namespaceInfo := none
  kept := some ⟨name, parents.map fun parent => (parent, parent)⟩

def seed : ParsedPage := page "A" ["B", "C"]

def fetch (location : Text) : Except PageFault ParsedPage :=
  if location = "B" then .ok (page "B" ["A", "D"])
  else if location = "D" then .ok ⟨"D", false, none, none, none⟩
  else .error (.unexplained "gone")

def guide : Guide := ⟨.empty, .default, fetch, fun link _ => .ok link, fun name _ => .ok name⟩

theorem leads (link source : Text) : ∃ location, guide.fetcher.resolve link source = .ok location :=
  ⟨link, rfl⟩

theorem reports (location name : Text) (path : List Text) :
    guide.fetcher.fetch location ≠ .error (.unexplained (.cycle name path)) := by
  change fetch location ≠ _
  unfold fetch
  split
  · nofun
  · split <;> nofun

end Sample

end TypeAtlas
