import Mathlib.Data.List.Forall2
import TypeAtlas.Proofs.Outcome
import TypeAtlas.Proofs.Resolution.Course
import TypeAtlas.Proofs.Resolution.Linking

/-!
Runs of two guides that lead through the same pages at different locations. Which locations are
counterparts is a relation. Runs are alike if the same work is done and left in them, at
counterparts of the locations; only the table of links that a context keeps and the warnings are
left out.
-/

namespace TypeAtlas

/-! Stores whose entries are counterparts, one by one. -/

namespace Keyed

variable {κ ν : Type} {P : ν → ν → Prop}

/-- The same keys in the same order, with values that `P` relates. -/
def Alike (P : ν → ν → Prop) (s t : Keyed κ ν) : Prop :=
  List.Forall₂ (fun e e' => e'.1 = e.1 ∧ P e.2 e'.2) s.entries t.entries

theorem Alike.keys {s t : Keyed κ ν} (h : Alike P s t) : t.keys = s.keys := by
  unfold Alike at h
  unfold Keyed.keys
  generalize s.entries = es, t.entries = es' at h ⊢
  induction h with
  | nil => rfl
  | cons he _ ih => rw [List.map_cons, List.map_cons, he.1, ih]

theorem Alike.values {s t : Keyed κ ν} (h : Alike P s t) : List.Forall₂ P s.values t.values := by
  unfold Alike at h
  unfold Keyed.values
  generalize s.entries = es, t.entries = es' at h ⊢
  induction h with
  | nil => exact .nil
  | cons he _ ih => exact .cons he.2 ih

theorem Alike.isEmpty {s t : Keyed κ ν} (h : Alike P s t) :
    t.entries.isEmpty = s.entries.isEmpty := by
  unfold Alike at h
  generalize s.entries = es, t.entries = es' at h ⊢
  cases h <;> rfl

variable [DecidableEq κ]

theorem Alike.get? {s t : Keyed κ ν} (h : Alike P s t) (k : κ) :
    Option.Rel P (s.get? k) (t.get? k) := by
  unfold Alike at h
  unfold Keyed.get?
  generalize s.entries = es, t.entries = es' at h ⊢
  induction h with
  | nil => exact .none
  | @cons e e' _ _ he _ ih =>
    obtain ⟨x, v⟩ := e
    obtain ⟨x', v'⟩ := e'
    obtain ⟨rfl, hv⟩ := he
    by_cases hk : k = x'
    · rw [hk, List.lookup_cons_self, List.lookup_cons_self]
      exact .some hv
    · rw [lookup_cons_ne hk, lookup_cons_ne hk]
      exact ih

theorem Alike.set {s t : Keyed κ ν} (h : Alike P s t) (k : κ) {v w : ν} (hv : P v w) :
    Alike P (s.set k v) (t.set k w) := by
  unfold Alike at h
  change List.Forall₂ _ (put k v s.entries) (put k w t.entries)
  generalize s.entries = es, t.entries = es' at h ⊢
  induction h with
  | nil => exact .cons ⟨rfl, hv⟩ .nil
  | @cons e e' _ _ he hrest ih =>
    obtain ⟨x, _⟩ := e
    obtain ⟨x', _⟩ := e'
    obtain ⟨rfl, hold⟩ := he
    simp only [put]
    split
    · exact .cons ⟨rfl, hv⟩ hrest
    · exact .cons ⟨rfl, hold⟩ ih

theorem Alike.setNew {s t : Keyed κ ν} (h : Alike P s t) (k : κ) {v w : ν} (hv : P v w) :
    Alike P (s.setNew k v) (t.setNew k w) := by
  by_cases hk : k ∈ s.keys
  · rw [setNew_of_mem hk, setNew_of_mem (h.keys ▸ hk)]
    exact h
  · rw [setNew_of_not_mem hk, setNew_of_not_mem (h.keys ▸ hk)]
    exact h.set k hv

end Keyed

/-- `R` pairs each location with one location at most. -/
def IsPairing (R : Text → Text → Prop) : Prop :=
  ∀ a b a' b', R a b → R a' b' → (a = a' ↔ b = b')

namespace Names

variable {R : Text → Text → Prop} {s t : Names} {a b : Text}

def Alike (R : Text → Text → Prop) (s t : Names) : Prop := List.Forall₂ R s.keys t.keys

theorem Alike.mem_iff (hR : IsPairing R) (h : Alike R s t) (hab : R a b) :
    a ∈ s.keys ↔ b ∈ t.keys := by
  unfold Alike at h
  generalize s.keys = as, t.keys = bs at h ⊢
  induction h with
  | nil => simp
  | cons hxy _ ih => rw [List.mem_cons, List.mem_cons, ih, hR _ _ _ _ hab hxy]

theorem Alike.has (hR : IsPairing R) (h : Alike R s t) (hab : R a b) : t.has b = s.has a := by
  rw [Bool.eq_iff_iff, Names.has_iff, Names.has_iff]
  exact (h.mem_iff hR hab).symm

theorem Alike.add (hR : IsPairing R) (h : Alike R s t) (hab : R a b) :
    Alike R (s.add a) (t.add b) := by
  by_cases ha : a ∈ s.keys
  · rw [Names.add, Keyed.setNew_of_mem ha, Names.add,
      Keyed.setNew_of_mem ((h.mem_iff hR hab).mp ha)]
    exact h
  · have hb : b ∉ t.keys := fun hb => ha ((h.mem_iff hR hab).mpr hb)
    rw [Alike, Names.add, Keyed.setNew_of_not_mem ha, Names.add, Keyed.setNew_of_not_mem hb,
      Keyed.keys_set_of_not_mem ha, Keyed.keys_set_of_not_mem hb]
    exact List.rel_append h (.cons hab .nil)

end Names

/-! Pages and guides. -/

section Guides

variable (R : Text → Text → Prop) (F : PageFault → PageFault → Prop) (g g' : Guide)

/-- Links that lead to counterparts from where they were found. -/
structure PageLinks.Alike (p p' : PageLinks) : Prop where
  links : p'.links = p.links
  resolve : ∀ target ∈ p.links.map Prod.snd, EndAlike F R
    (g.fetcher.resolve target p.source) (g'.fetcher.resolve target p'.source)

structure ParsedPage.Alike (p p' : ParsedPage) : Prop where
  source : R p.source p'.source
  isNamespace : p'.isNamespace = p.isNamespace
  declaration : p'.declaration = p.declaration
  namespaceInfo : p'.namespaceInfo = p.namespaceInfo
  kept : Option.Rel (PageLinks.Alike R F g g') p.kept p'.kept

/-- One guide leads to the counterparts of what the other one leads to. No page is looked for by
name, and faults that differ are those of fetching and reading. -/
structure Guide.Mirrors : Prop where
  registry : g'.registry = g.registry
  settings : g'.settings = g.settings
  root : g.settings.documentRoot = none
  pairing : IsPairing R
  isNamespacePage : ∀ a b, R a b → Location.isNamespacePage b = Location.isNamespacePage a
  fetch : ∀ a b, R a b →
    EndAlike F (ParsedPage.Alike R F g g') (g.fetcher.fetch a) (g'.fetcher.fetch b)
  faults : ∀ e e', F e e' → e' = e ∨ e.isExpected = true ∧ e'.isExpected = true

end Guides

theorem Guide.Mirrors.isExpected {R : Text → Text → Prop} {F : PageFault → PageFault → Prop}
    {g g' : Guide} (hg : g.Mirrors R F g') {e e' : PageFault} (h : F e e') :
    e'.isExpected = e.isExpected := by
  rcases hg.faults e e' h with rfl | ⟨he, he'⟩
  · rfl
  · rw [he, he']

/-! What a declaration refers to. -/

namespace Dependency

/-- The same dependency, found elsewhere. -/
def foundAt (source : Text) (d : Dependency) : Dependency := { d with source }

theorem distinctFrom_foundAt (source : Text) (seen : List Text) (ds : List Dependency) :
    distinctFrom seen (ds.map (foundAt source)) = (distinctFrom seen ds).map (foundAt source) := by
  induction ds generalizing seen with
  | nil => rfl
  | cons d ds ih =>
    rw [List.map_cons, distinctFrom_cons, distinctFrom_cons]
    by_cases h : d.fullName ∈ seen
    · rw [if_pos h, if_pos (by exact h), ih]
    · rw [if_neg h, if_neg (by exact h), ih]
      rfl

theorem ofDeclaration_foundAt (r : Registry) (source source' : Text) (d : Declaration) :
    ofDeclaration r source' d = (ofDeclaration r source d).map (foundAt source') := by
  rw [ofDeclaration, ofDeclaration, ← distinctFrom_foundAt, List.map_flatMap]
  simp only [List.map_map]
  rfl

end Dependency

/-- Page links that are counterparts lead from the same references. -/
theorem Guide.Mirrors.uses {R : Text → Text → Prop} {F : PageFault → PageFault → Prop}
    {g g' : Guide} (hg : g.Mirrors R F g') (name : Text) (d : Declaration) {p p' : PageLinks}
    (h : p.Alike R F g g' p') : g'.uses name d (some p') =
      (g.uses name d (some p)).map (Dependency.foundAt p'.source) := by
  rw [Guide.uses, Guide.uses, hg.registry, hg.settings, h.links,
    Dependency.ofDeclaration_foundAt g.registry p.source p'.source, List.map_map, List.map_map]
  rfl

/-! Runs. -/

structure Item.Alike (R : Text → Text → Prop) (i i' : Item) : Prop where
  name : i'.name = i.name
  location : R i.location i'.location
  path : i'.path = i.path

inductive Outcome.Alike (R : Text → Text → Prop) (F : PageFault → PageFault → Prop)
    (g g' : Guide) : Outcome → Outcome → Prop
  | skipped : Alike R F g g' .skipped .skipped
  | circular (name : Text) (path : List Text) :
    Alike R F g g' (.circular name path) (.circular name path)
  | deferred : Alike R F g g' .deferred .deferred
  | page {p p' : ParsedPage} (h : p.Alike R F g g' p') : Alike R F g g' (.page p) (.page p')
  | failed (fault fault' : PageFault) : Alike R F g g' (.failed fault) (.failed fault')

/-- What the answer to a request for its page makes of an item. -/
def Outcome.ofFetch : Except PageFault ParsedPage → Outcome
  | .ok p => .page p
  | .error (.unexplained (.cycle name path)) => .circular name path
  | .error fault => .failed fault

theorem Outcome.ofFetch_expected {fault : PageFault} (h : fault.isExpected = true) :
    ofFetch (.error fault) = .failed fault := by
  cases fault <;> first | rfl | cases h

theorem Outcome.Alike.ofFetch {R : Text → Text → Prop} {F : PageFault → PageFault → Prop}
    {g g' : Guide} (hg : g.Mirrors R F g') {x y : Except PageFault ParsedPage}
    (h : EndAlike F (ParsedPage.Alike R F g g') x y) :
    (Outcome.ofFetch x).Alike R F g g' (Outcome.ofFetch y) := by
  cases h with
  | ok h => exact .page h
  | @error e e' h =>
    -- Faults that differ are both expected, and an expected fault never tells of a cycle.
    rcases hg.faults e e' h with rfl | ⟨he, he'⟩
    · unfold Outcome.ofFetch
      split
      · cases ‹_›
      · exact .circular _ _
      · exact .failed _ _
    · rw [Outcome.ofFetch_expected he, Outcome.ofFetch_expected he']
      exact .failed _ _

namespace Run

theorem outcome_eq (g : Guide) (s : Run) (i : Item) : s.outcome g i =
    if s.resolver.circular.has i.name then .skipped
    else if i.isOnPath then .circular i.name i.path
    else if Location.isNamespacePage i.location then .deferred
    else .ofFetch (g.fetcher.fetch i.location) := rfl

theorem addEnums_cons (s : Run) (count : Nat) (e : EnumType) (es : List EnumType) :
    s.addEnums count (e :: es) =
      (s.addEnum e).2.addEnums (if (s.addEnum e).1 = .added then count + 1 else count) es := rfl

/-- The same work done and the same work left, at counterparts of the locations. -/
structure Alike (R : Text → Text → Prop) (F : PageFault → PageFault → Prop) (g g' : Guide)
    (s t : Run) : Prop where
  context : ∃ links, t.resolver.context = { s.resolver.context with links }
  pending : Keyed.Alike (Item.Alike R) s.resolver.pending t.resolver.pending
  scanned : t.resolver.scanned = s.resolver.scanned
  circular : t.resolver.circular = s.resolver.circular
  pages : Keyed.Alike (PageLinks.Alike R F g g') s.resolver.pages t.resolver.pages
  stats : t.resolver.stats = s.resolver.stats
  declarations : t.repository.declarations = s.repository.declarations
  merged : t.repository.merged = s.repository.merged
  enums : t.repository.enums = s.repository.enums
  visited : Names.Alike R s.repository.visited t.repository.visited
  discovered : Names.Alike R s.repository.discovered t.repository.discovered

variable {R : Text → Text → Prop} {F : PageFault → PageFault → Prop} {g g' : Guide} {s t : Run}

theorem alike_start (roundLimit : Nat) : (start roundLimit).Alike R F g g' (start roundLimit) :=
  ⟨⟨_, rfl⟩, .nil, rfl, rfl, .nil, rfl, rfl, rfl, rfl, .nil, .nil⟩

namespace Alike

theorem onStats (h : s.Alike R F g g' t) (f : Stats → Stats) :
    (s.onStats f).Alike R F g g' (t.onStats f) :=
  { h with stats := congrArg f h.stats }

theorem onContext (h : s.Alike R F g g' t) {f : Context → Context}
    (hf : ∀ c links, f { c with links } = { f c with links }) :
    (s.onContext f).Alike R F g g' (t.onContext f) := by
  obtain ⟨links, hcontext⟩ := h.context
  exact { h with context := ⟨links, (congrArg f hcontext).trans (hf _ links)⟩ }

theorem warn (h : s.Alike R F g g' t) (w w' : Warning) :
    (s.warn w).Alike R F g g' (t.warn w') := { h with }

theorem visit (h : s.Alike R F g g' t) (hR : IsPairing R) {a b : Text} (hab : R a b) :
    (s.visit a).Alike R F g g' (t.visit b) :=
  { h with visited := h.visited.add hR hab }

theorem discover (h : s.Alike R F g g' t) (hR : IsPairing R) {a b : Text} (hab : R a b) :
    Run.Alike R F g g' { s with repository := s.repository.discover a }
      { t with repository := t.repository.discover b } :=
  { h with discovered := h.discovered.add hR hab }

theorem enqueue (h : s.Alike R F g g' t) {i i' : Item} (hi : i.Alike R i') :
    (s.enqueue i).Alike R F g g' (t.enqueue i') := by
  unfold Run.enqueue
  rw [hi.name]
  exact { h.onContext (f := (·.addPending i.name)) fun _ _ => rfl with
    pending := h.pending.set i.name hi }

theorem store (h : s.Alike R F g g' t) (d : Declaration) :
    (s.store d).Alike R F g g' (t.store d) := by
  unfold Run.store Repository.add
  rw [h.declarations, h.merged]
  cases s.repository.declarations.get? d.fullName with
  | none => exact { h with declarations := rfl, merged := rfl }
  | some stored => exact { h with declarations := rfl, merged := rfl }

theorem record (h : s.Alike R F g g' t) (d : Declaration) {kept kept' : Option PageLinks}
    (hkept : Option.Rel (PageLinks.Alike R F g g') kept kept') (path : List Text) :
    (s.record d kept path).Alike R F g g' (t.record d kept' path) := by
  have hcontext := h.onContext
    (f := fun c => (c.resolve d.fullName d).recordPath d.fullName path) fun _ _ => rfl
  cases hkept with
  | none => exact hcontext
  | some hp => exact { hcontext with pages := h.pages.setNew d.fullName hp }

/-! Settling. -/

theorem recordCircular (h : s.Alike R F g g' t) (name : Text) (path : List Text) :
    (s.recordCircular name path).Alike R F g g' (t.recordCircular name path) := by
  unfold Run.recordCircular
  rw [h.circular]
  cases s.resolver.circular.has name with
  | true => exact h.warn _ _
  | false =>
    simp only [Bool.false_eq_true, ↓reduceIte]
    have hcounted := h.onStats fun t => { t with circular := t.circular + 1 }
    refine Alike.warn ?_ _ _
    exact { hcounted with circular := congrArg (·.add name) h.circular }

theorem mergePage (h : s.Alike R F g g' t) {i i' : Item} (hi : i.Alike R i') {p p' : ParsedPage}
    (hp : p.Alike R F g g' p') : (s.mergePage i p).Alike R F g g' (t.mergePage i' p') := by
  unfold Run.mergePage
  rw [hp.declaration]
  cases p.declaration with
  | none => exact (h.onStats _).warn _ _
  | some d =>
    rw [hi.name, hi.path]
    exact (((h.store d).record d hp.kept i.path).onContext fun _ _ => rfl).onStats _

theorem defer (h : s.Alike R F g g' t) (hR : IsPairing R) {i i' : Item} (hi : i.Alike R i') :
    (s.defer i).Alike R F g g' (t.defer i') :=
  (h.discover hR hi.location).onStats fun t => { t with deferred := t.deferred + 1 }

theorem settle (h : s.Alike R F g g' t) (hR : IsPairing R) {i i' : Item} (hi : i.Alike R i')
    {o o' : Outcome} (ho : o.Alike R F g g' o') :
    (s.settle i o).Alike R F g g' (t.settle i' o') := by
  have hdrop := h.onContext (f := (·.dropPending i.name)) fun _ _ => rfl
  unfold Run.settle
  rw [hi.name]
  cases ho with
  | skipped => exact hdrop
  | circular name path => exact hdrop.recordCircular name path
  | deferred => exact hdrop.defer hR hi
  | page hp => exact hdrop.mergePage hi hp
  | failed fault fault' => exact (hdrop.onStats _).warn _ _

theorem settleAll (h : s.Alike R F g g' t) (hR : IsPairing R) {xs ys : List (Item × Outcome)}
    (hxs : List.Forall₂ (fun x y => x.1.Alike R y.1 ∧ x.2.Alike R F g g' y.2) xs ys) :
    (s.settleAll xs).Alike R F g g' (t.settleAll ys) := by
  induction hxs generalizing s t with
  | nil => exact h
  | cons hx _ ih => exact ih (h.settle hR hx.1 hx.2)

theorem outcome (h : s.Alike R F g g' t) (hg : g.Mirrors R F g') {i i' : Item}
    (hi : i.Alike R i') : (s.outcome g i).Alike R F g g' (t.outcome g' i') := by
  have hpath : i'.isOnPath = i.isOnPath := by rw [Item.isOnPath, hi.name, hi.path, Item.isOnPath]
  rw [outcome_eq, outcome_eq, h.circular, hi.name, hi.path, hpath,
    hg.isNamespacePage _ _ hi.location]
  split
  · exact .skipped
  split
  · exact .circular _ _
  split
  · exact .deferred
  exact .ofFetch hg (hg.fetch _ _ hi.location)

theorem closeRound (h : s.Alike R F g g' t) (number : Nat) :
    (s.closeRound number).Alike R F g g' (t.closeRound number) :=
  (h.onStats _).onContext (f := fun c => { c with depth := number }) fun _ _ => rfl

theorem round (h : s.Alike R F g g' t) (hg : g.Mirrors R F g') :
    (Run.round g s).Alike R F g g' (Run.round g' t) := by
  have hopened : s.opened.Alike R F g g' t.opened := { h with pending := .nil }
  have houtcomes : List.Forall₂ (fun x y => x.1.Alike R y.1 ∧ x.2.Alike R F g g' y.2)
      (s.outcomes g) (t.outcomes g') := by
    rw [outcomes, outcomes, List.forall₂_map_left_iff, List.forall₂_map_right_iff]
    exact h.pending.values.imp fun i i' hi => ⟨hi, h.outcome hg hi⟩
  rw [round_eq, round_eq, h.stats]
  exact (hopened.settleAll hg.pairing houtcomes).closeRound _

/-! Scheduling. -/

theorem isSettled (h : s.Alike R F g g' t) (parent : Text) {d d' : Dependency}
    (hname : d'.fullName = d.fullName) (hlink : d'.link = d.link) :
    t.isSettled parent d' = s.isSettled parent d := by
  obtain ⟨links, hcontext⟩ := h.context
  unfold Run.isSettled
  rw [Dependency.isLinked, hlink, hname, h.circular, hcontext, Keyed.contains, h.pending.keys]
  rfl

theorem trail (h : s.Alike R F g g' t) (parent : Text) : t.trail parent = s.trail parent := by
  obtain ⟨links, hcontext⟩ := h.context
  rw [Run.trail, Run.trail, hcontext]
  rfl

theorem isKnown (h : s.Alike R F g g' t) {d d' : Dependency}
    (hname : d'.fullName = d.fullName) : t.isKnown d' = s.isKnown d := by
  obtain ⟨links, hcontext⟩ := h.context
  rw [Run.isKnown, Run.isKnown, hcontext, hname, Repository.has, Repository.has, h.declarations]

theorem begin (h : s.Alike R F g g' t) (name : Text) (links links' : LinkTable) :
    (s.begin name links).Alike R F g g' (t.begin name links') := by
  obtain ⟨old, hcontext⟩ := h.context
  refine { h with scanned := congrArg (·.add name) h.scanned, context := ⟨links', ?_⟩ }
  change { t.resolver.context with links := links' } = { s.resolver.context with links := links' }
  rw [hcontext]

theorem addEnum (h : s.Alike R F g g' t) (e : EnumType) :
    (t.addEnum e).1 = (s.addEnum e).1 ∧ (s.addEnum e).2.Alike R F g g' (t.addEnum e).2 := by
  unfold Run.addEnum Repository.addEnum
  rw [h.enums]
  cases s.repository.enums.get? e.name with
  | none => exact ⟨rfl, { h with enums := rfl }⟩
  | some stored =>
    refine ⟨rfl, ?_⟩
    simp only
    by_cases hsame : stored.signature = e.signature
    · rw [if_pos hsame]
      exact { h with }
    · rw [if_neg hsame]
      exact h.warn _ _

theorem addEnums (h : s.Alike R F g g' t) (count : Nat) (es : List EnumType) :
    (t.addEnums count es).1 = (s.addEnums count es).1 ∧
      (s.addEnums count es).2.Alike R F g g' (t.addEnums count es).2 := by
  induction es generalizing count s t with
  | nil => exact ⟨rfl, h⟩
  | cons e es ih =>
    obtain ⟨houtcome, hadded⟩ := h.addEnum e
    rw [addEnums_cons, addEnums_cons, houtcome]
    exact ih hadded _

end Alike

end Run

end TypeAtlas
