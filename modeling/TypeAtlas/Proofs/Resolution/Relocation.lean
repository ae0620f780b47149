import TypeAtlas.Proofs.Location.Below
import TypeAtlas.Proofs.Resolution.Completion
import TypeAtlas.Proofs.Resolution.Mirroring

/-!
Where a tree of documents is stored. Local documents that link to each other by relative links may
be put below one directory or another one; a session then comes to the same, at the locations below
that directory, if every document it can come to is taken for the page of a namespace in both places
or in neither.
-/

namespace TypeAtlas

namespace Location

/-- The location of a document, relative to the directory of its tree. -/
structure IsRelative (location : Text) : Prop where
  root : (Path.ofText location).root = []
  parts : (Path.ofText location).parts ≠ []

theorem IsRelative.ne_nil {location : Text} (h : IsRelative location) : location ≠ [] := by
  rintro rfl
  exact h.parts rfl

instance {location : Text} : Decidable (IsRelative location) :=
  decidable_of_iff ((Path.ofText location).root = [] ∧ (Path.ofText location).parts ≠ [])
    ⟨fun h => ⟨h.1, h.2⟩, fun h => ⟨h.root, h.parts⟩⟩

/-- A link that does not leave for the network or for the root of all files. Double dots do no harm,
since paths keep them. -/
structure IsRelativeLink (target : Text) : Prop where
  root : (Path.ofText (withoutFragment target)).root = []
  network : isNetwork (withoutFragment target) ≠ .ok true

instance {target : Text} : Decidable (IsRelativeLink target) :=
  decidable_of_iff ((Path.ofText (withoutFragment target)).root = [] ∧
      isNetwork (withoutFragment target) ≠ .ok true)
    ⟨fun h => ⟨h.1, h.2⟩, fun h => ⟨h.root, h.network⟩⟩

def IsLocal (location : Text) : Prop := isNetwork location = .ok false

instance {location : Text} : Decidable (IsLocal location) := inferInstanceAs (Decidable (_ = _))

/-- One location of a tree that is stored in two places. -/
def Moved (here there a b : Text) : Prop :=
  ∃ location, a = below here location ∧ b = below there location

/-- A tree that is not inside a directory is moved by putting the directory in front. -/
theorem moved_dot_iff {there a b : Text} : Moved "." there a b ↔ b = below there a := by
  unfold Moved
  simp only [below_dot]
  exact ⟨fun ⟨_, ha, hb⟩ => ha ▸ hb, fun hb => ⟨a, rfl, hb⟩⟩

theorem forall₂_moved_dot {there : Text} {as bs : List Text} :
    List.Forall₂ (Moved "." there) as bs ↔ bs = as.map (below there) := by
  have hmoved : Moved "." there = fun a b => below there a = b := by
    funext a b
    exact propext (moved_dot_iff.trans eq_comm)
  rw [hmoved, ← List.forall₂_map_left_iff, List.forall₂_eq_eq_eq, eq_comm]

theorem resolve_of_local {target source : Text} (htarget : IsLocal (withoutFragment target))
    (hsource : IsLocal source) : resolve target source = .ok (linked target source) := by
  rw [resolve, htarget, hsource]
  rfl

end Location

/-- Faults that differ in the locations they name, if at all. -/
inductive PageFault.Alike (R : Text → Text → Prop) : PageFault → PageFault → Prop
  | missing {a b path path' : Text} (h : R a b) (hpath : R path path') :
    Alike R (.unreadable a (.missing path)) (.unreadable b (.missing path'))
  | notText {a b : Text} (h : R a b) (e : Utf8Error) :
    Alike R (.unreadable a (.notText e)) (.unreadable b (.notText e))
  | empty {a b : Text} (h : R a b) : Alike R (.empty a) (.empty b)
  | malformed {a b : Text} (h : R a b) (fault : MarkupFault) :
    Alike R (.malformed a fault) (.malformed b fault)
  | same (fault : PageFault) : Alike R fault fault

theorem PageFault.Alike.faults {R : Text → Text → Prop} {e e' : PageFault} (h : e.Alike R e') :
    e' = e ∨ e.isExpected = true ∧ e'.isExpected = true := by
  cases h with
  | same => exact .inl rfl
  | _ => exact .inr ⟨rfl, rfl⟩

/-! Pages with the same outline. -/

namespace Page

theorem ofText_alike {R : Text → Text → Prop} (content : Text) {a b : Text} (h : R a b) :
    EndAlike (PageFault.Alike R)
      (fun p p' => p.source = a ∧ p'.source = b ∧ p'.outline = p.outline)
      (ofText content a) (ofText content b) := by
  unfold ofText
  split
  · exact .error (.empty h)
  split
  · exact .error (.malformed h _)
  simp only
  split
  · exact .error (.malformed h _)
  · exact .ok ⟨rfl, rfl, rfl⟩

/-- Whether a document can be read as a page does not depend on where it was found. -/
theorem ofText_at {content source : Text} {p : Page} (h : ofText content source = .ok p)
    (source' : Text) : ofText content source' = .ok ⟨source', p.outline⟩ := by
  have halike := ofText_alike (R := fun _ _ => True) content (a := source) (b := source') trivial
  rw [h] at halike
  generalize ofText content source' = y at halike ⊢
  cases halike with
  | @ok _ p' hp =>
    obtain ⟨_, hsource, houtline⟩ := hp
    rw [← hsource, ← houtline]

variable {p p' : Page}

theorem links_of_outline (h : p'.outline = p.outline) : p'.links = p.links := by
  rw [links, spots, h]
  rfl

theorem namespace?_of_outline (h : p'.outline = p.outline) : p'.namespace? = p.namespace? := by
  obtain ⟨_, _⟩ := p
  obtain ⟨_, _⟩ := p'
  cases h
  rfl

theorem declaration?_of_outline (h : p'.outline = p.outline) (onlyScripted : Bool) :
    p'.declaration? onlyScripted = p.declaration? onlyScripted := by
  obtain ⟨_, _⟩ := p
  obtain ⟨_, _⟩ := p'
  cases h
  rfl

/-- What is read off a page depends on its place only through the kind of the page. -/
theorem parse_alike {R : Text → Text → Prop} (houtline : p'.outline = p.outline)
    (hkind : Location.isNamespacePage p'.source = Location.isNamespacePage p.source)
    (onlyScripted : Bool) :
    EndAlike (PageFault.Alike R)
      (fun q q' => (q.source = p.source ∧ q.kept = some p.pageLinks) ∧
        (q'.source = p'.source ∧ q'.kept = some p'.pageLinks) ∧ q'.isNamespace = q.isNamespace ∧
        q'.declaration = q.declaration ∧ q'.namespaceInfo = q.namespaceInfo)
      (p.parse onlyScripted) (p'.parse onlyScripted) := by
  unfold parse
  rw [hkind, namespace?_of_outline houtline, declaration?_of_outline houtline]
  cases Location.isNamespacePage p.source with
  | true =>
    cases p.namespace? with
    | error fault => exact .error (.same fault)
    | ok info => exact .ok ⟨⟨rfl, rfl⟩, ⟨rfl, rfl⟩, rfl, rfl, rfl⟩
  | false =>
    cases p.declaration? onlyScripted with
    | error fault => exact .error (.same fault)
    | ok declaration => exact .ok ⟨⟨rfl, rfl⟩, ⟨rfl, rfl⟩, rfl, rfl, rfl⟩

end Page

namespace Shelf

/-- The same documents inside a directory. -/
def below (s : Shelf) (dir : Text) : Shelf :=
  ⟨s.entries.map fun e => (Location.below dir e.1, e.2)⟩

theorem below_dot (s : Shelf) : s.below "." = s := by
  unfold below
  simp only [Location.below_dot]
  exact congrArg Shelf.mk (List.map_id s.entries)

/-- Where the links of a document lead, if it can be read. -/
def targets (s : Shelf) (location : Text) : List Text :=
  match s.readText location with
  | .error _ => []
  | .ok content =>
    match Page.ofText content location with
    | .error _ => []
    | .ok p => p.links.map Prod.snd

/-- The locations that links lead to, one after the other. -/
inductive Reaches (s : Shelf) (seed : Text) : Text → Prop
  | seed : Reaches s seed seed
  | link {location target : Text} (h : Reaches s seed location) (ht : target ∈ s.targets location) :
    Reaches s seed (Location.linked target location)

/-- Documents at relative locations that link to each other by relative links. -/
structure IsTree (s : Shelf) (seed : Text) : Prop where
  first : Location.IsRelative seed
  documents : ∀ e ∈ s.entries, Location.IsRelative e.1
  links : ∀ location, s.Reaches seed location →
    ∀ target ∈ s.targets location, Location.IsRelativeLink target

variable {s : Shelf} {seed location : Text}

theorem IsTree.rootless (h : s.IsTree seed) (hreaches : s.Reaches seed location) :
    (Path.ofText location).root = [] ∧ location ≠ [] := by
  induction hreaches with
  | seed => exact ⟨h.first.root, h.first.ne_nil⟩
  | @link location target hlocation htarget ih =>
    have hjoin := (Path.isRead_ofText location).parent.join
      (Path.isRead_ofText (Location.withoutFragment target))
    refine ⟨?_, Path.render_ne_nil hjoin⟩
    rw [Location.linked, Path.ofText_render hjoin]
    exact Location.linked_rootless ih.1 (h.links location hlocation target htarget).root

theorem find?_below (dir : Text) {key : Text} (hdocuments : ∀ e ∈ s.entries, e.1 ≠ [])
    (hkey : key ≠ []) : (s.below dir).find? (Location.below dir key) = s.find? key := by
  obtain ⟨entries⟩ := s
  unfold find? below
  simp only at hdocuments ⊢
  induction entries with
  | nil => rfl
  | cons e entries ih =>
    rw [List.forall_mem_cons] at hdocuments
    obtain ⟨found, stored⟩ := e
    rw [List.map_cons]
    by_cases hk : key = found
    · rw [hk, List.lookup_cons_self, List.lookup_cons_self]
    · have hne : Location.below dir key ≠ Location.below dir found :=
        mt (Location.below_inj hkey hdocuments.1).mp hk
      rw [Keyed.lookup_cons_ne hne, Keyed.lookup_cons_ne hk, ih hdocuments.2]

/-- The fault of a file that is stored inside a directory. -/
def faultBelow (dir : Text) : FileFault → FileFault
  | .missing path => .missing (Location.below dir path)
  | .notText e => .notText e

theorem IsTree.readText_below (h : s.IsTree seed) (hreaches : s.Reaches seed location)
    (dir : Text) : (s.below dir).readText (Location.below dir location) =
      (s.readText location).mapError (faultBelow dir) := by
  obtain ⟨hroot, _⟩ := h.rootless hreaches
  have hdocuments : ∀ e ∈ s.entries, e.1 ≠ [] := fun e he => (h.documents e he).ne_nil
  have hfind := find?_below dir hdocuments (Path.render_ne_nil (Path.isRead_ofText location))
  unfold readText
  rw [Location.normalize_below dir hroot]
  simp only
  rw [Path.normalize, hfind]
  cases s.find? (Path.ofText location).render with
  | none => rfl
  | some stored =>
    cases stored with
    | text t => rfl
    | octets bytes =>
      simp only
      cases Text.ofUtf8 bytes <;> rfl
    | response | unreachable => rfl

/-- A document that can be read is stored, so that it stands in a directory. -/
theorem IsTree.parts_of_read (h : s.IsTree seed) {content : Text}
    (hread : s.readText location = .ok content) : (Path.ofText location).parts ≠ [] := by
  have hstored : ∃ stored, s.find? (Path.normalize location) = some stored := by
    unfold readText at hread
    cases hfind : s.find? (Path.normalize location) with
    | none =>
      simp only [hfind] at hread
      cases hread
    | some stored => exact ⟨stored, rfl⟩
  obtain ⟨stored, hstored⟩ := hstored
  obtain ⟨before, after, hentries, _⟩ := List.lookup_eq_some_iff.mp hstored
  have hmem : (Path.normalize location, stored) ∈ s.entries := by
    rw [hentries]
    simp
  have hparts := (h.documents _ hmem).parts
  rwa [Path.normalize, Path.ofText_render (Path.isRead_ofText location)] at hparts

theorem fetchPage_of_local (h : Location.IsLocal location) : s.fetchPage location =
    (s.readText location).mapError (.unreadable location) >>= fun content =>
      Page.ofText content location := by
  rw [fetchPage, h]
  rfl

theorem targets_of_read {content : Text} {p : Page} (hread : s.readText location = .ok content)
    (hpage : Page.ofText content location = .ok p) : s.targets location = p.links.map Prod.snd := by
  rw [targets, hread]
  simp only [hpage]

variable {here there : Text} {settings : Settings}

/-- Locations that a session can come to, in the one place and in the other. -/
def Counterparts (s : Shelf) (seed here there a b : Text) : Prop :=
  ∃ location, s.Reaches seed location ∧
    a = Location.below here location ∧ b = Location.below there location

theorem Counterparts.moved {a b : Text} (h : s.Counterparts seed here there a b) :
    Location.Moved here there a b := by
  obtain ⟨location, _, ha, hb⟩ := h
  exact ⟨location, ha, hb⟩

theorem IsTree.pairing (h : s.IsTree seed) : IsPairing (s.Counterparts seed here there) := by
  rintro a b a' b' ⟨x, hx, rfl, rfl⟩ ⟨y, hy, rfl, rfl⟩
  have hxne := (h.rootless hx).2
  have hyne := (h.rootless hy).2
  rw [Location.below_inj hxne hyne, Location.below_inj hxne hyne]

/-- Everything that a session can come to is a local file where the tree is stored. -/
def IsLocalIn (s : Shelf) (seed dir : Text) : Prop :=
  ∀ location, s.Reaches seed location → Location.IsLocal (Location.below dir location)

theorem IsTree.fetchPage_alike (h : s.IsTree seed) (hhere : s.IsLocalIn seed here)
    (hthere : s.IsLocalIn seed there) (hreaches : s.Reaches seed location) :
    EndAlike (PageFault.Alike (Location.Moved here there))
      (fun p p' => p.source = Location.below here location ∧
        p'.source = Location.below there location ∧ p'.outline = p.outline ∧
        p.links.map Prod.snd = s.targets location ∧ (Path.ofText location).parts ≠ [])
      ((s.below here).fetchPage (Location.below here location))
      ((s.below there).fetchPage (Location.below there location)) := by
  have hmoved : Location.Moved here there (Location.below here location)
      (Location.below there location) := ⟨location, rfl, rfl⟩
  rw [fetchPage_of_local (hhere location hreaches), fetchPage_of_local (hthere location hreaches),
    h.readText_below hreaches, h.readText_below hreaches]
  cases hread : s.readText location with
  | error fault =>
    cases fault with
    | missing path => exact .error (.missing hmoved ⟨path, rfl, rfl⟩)
    | notText e => exact .error (.notText hmoved e)
  | ok content =>
    refine (Page.ofText_alike content hmoved).with_results.imp (fun _ _ he => he) ?_
    rintro p p' ⟨⟨hsource, hsource', houtline⟩, hpage, _⟩
    have htargets := targets_of_read hread (Page.ofText_at hpage location)
    exact ⟨hsource, hsource', houtline, htargets.symm, h.parts_of_read hread⟩

/-- A relative link leads to one document of the tree, wherever the tree is stored. -/
theorem IsTree.resolve_alike (h : s.IsTree seed) (hhere : s.IsLocalIn seed here)
    (hthere : s.IsLocalIn seed there) (hreaches : s.Reaches seed location)
    (hparts : (Path.ofText location).parts ≠ []) {target : Text}
    (htarget : target ∈ s.targets location) :
    EndAlike (PageFault.Alike (Location.Moved here there)) (s.Counterparts seed here there)
      ((Location.resolve target (Location.below here location)).mapError .badLocation)
      ((Location.resolve target (Location.below there location)).mapError .badLocation) := by
  obtain ⟨hrootless, hnetwork⟩ := h.links location hreaches target htarget
  obtain ⟨hroot, _⟩ := h.rootless hreaches
  cases hlocal : Location.isNetwork (Location.withoutFragment target) with
  | error fault =>
    rw [Location.resolve, hlocal, Location.resolve, hlocal]
    exact .error (.same _)
  | ok isNetwork =>
    cases isNetwork with
    | true => exact absurd hlocal hnetwork
    | false =>
      rw [Location.resolve_of_local hlocal (hhere location hreaches),
        Location.resolve_of_local hlocal (hthere location hreaches),
        Location.linked_below here hroot hparts hrootless,
        Location.linked_below there hroot hparts hrootless]
      exact .ok ⟨_, .link hreaches htarget, rfl, rfl⟩

theorem IsTree.mirrors (h : s.IsTree seed) (registry : Registry)
    (hroot : settings.documentRoot = none) (hhere : s.IsLocalIn seed here)
    (hthere : s.IsLocalIn seed there)
    (hpages : ∀ location, s.Reaches seed location →
      Location.isNamespacePage (Location.below there location) =
        Location.isNamespacePage (Location.below here location)) :
    ((s.below here).guide settings registry).Mirrors (s.Counterparts seed here there)
      (PageFault.Alike (Location.Moved here there)) ((s.below there).guide settings registry) := by
  refine ⟨rfl, rfl, hroot, h.pairing, ?_, ?_, fun _ _ he => he.faults⟩
  · rintro _ _ ⟨location, hreaches, rfl, rfl⟩
    exact hpages location hreaches
  · rintro _ _ ⟨location, hreaches, rfl, rfl⟩
    apply (h.fetchPage_alike hhere hthere hreaches).bind
    rintro p p' ⟨hsource, hsource', houtline, htargets, hparts⟩
    have hkind : Location.isNamespacePage p'.source = Location.isNamespacePage p.source := by
      rw [hsource, hsource', hpages location hreaches]
    refine (Page.parse_alike houtline hkind false).imp (fun _ _ he => he) ?_
    rintro q q' ⟨⟨hq, hkept⟩, ⟨hq', hkept'⟩, hisNamespace, hdeclaration, hinfo⟩
    refine ⟨⟨location, hreaches, hq.trans hsource, hq'.trans hsource'⟩, hisNamespace,
      hdeclaration, hinfo, ?_⟩
    rw [hkept, hkept']
    refine .some ⟨Page.links_of_outline houtline, fun target htarget => ?_⟩
    rw [Page.pageLinks, Page.pageLinks, hsource, hsource']
    exact h.resolve_alike hhere hthere hreaches hparts (htargets ▸ htarget)

end Shelf

/-- Local documents that link to each other by relative links may be stored in any directory: where
no page is looked for by name, a session comes to the same statistics, declarations, cycles and
enumerations, and visits and puts off the same documents, provided no document is taken for the page
of a namespace in one place only. If the session fails, it fails alike. -/
theorem session_moved (s : Shelf) (settings : Settings) (registry : Registry)
    (seed here there : Text) (collects : Bool) (hroot : settings.documentRoot = none)
    (htree : s.IsTree seed) (hhere : s.IsLocalIn seed here) (hthere : s.IsLocalIn seed there)
    (hpages : ∀ location, s.Reaches seed location →
      Location.isNamespacePage (Location.below there location) =
        Location.isNamespacePage (Location.below here location)) :
    EndAlike (PageFault.Alike (Location.Moved here there))
      (SessionResult.Alike (Location.Moved here there))
      (resolveDocument ((s.below here).guide settings registry) (Location.below here seed) collects)
      (resolveDocument ((s.below there).guide settings registry) (Location.below there seed)
        collects) := by
  have hseed : s.Counterparts seed here there (Location.below here seed)
      (Location.below there seed) := ⟨seed, .seed, rfl, rfl⟩
  have hmirrors := htree.mirrors registry hroot hhere hthere hpages
  have halike := hmirrors.resolveDocument hseed collects
  exact halike.imp (fun _ _ he => he) fun _ _ h => h.imp fun _ _ hab => hab.moved

namespace Sample

/-- The page that the class page links to is missing. -/
def tree : Shelf := ⟨[("class_a.html", .text classPage)]⟩

def places : List Text := ["class_a.html", "namespace_n.html"]

/-- In its place, the class is stored and the page of the namespace is put off; in a directory named
after a namespace, nothing is stored. -/
theorem tree_sessions :
    tree.targets "class_a.html" = ["namespace_n.html".toList] ∧
    (resolveDocument (tree.guide .default .empty) "class_a.html" false).toOption.map
      (fun r => (r.stats, r.repository.visited.inOrder)) =
        some (⟨0, 0, 0, 1, 1, 1, false⟩, places) ∧
    (resolveDocument ((tree.below "namespace_docs").guide .default .empty)
      (Location.below "namespace_docs" "class_a.html") false).toOption.map (·.stats) =
        some .zero := by
  -- one evaluation for the three, since each of them takes the page apart
  decide +kernel

theorem targets_namespace : tree.targets "namespace_n.html" = [] := by decide

theorem only_link {location target : Text} (h : location ∈ places)
    (htarget : target ∈ tree.targets location) :
    location = "class_a.html" ∧ target = "namespace_n.html" := by
  rcases List.mem_cons.mp h with rfl | h
  · rw [tree_sessions.1, List.mem_singleton] at htarget
    exact ⟨rfl, htarget⟩
  · rw [List.mem_singleton.mp h, targets_namespace] at htarget
    cases htarget

theorem mem_of_reaches {location : Text} (h : tree.Reaches "class_a.html" location) :
    location ∈ places := by
  induction h with
  | seed => exact List.mem_cons_self
  | link _ htarget ih =>
    obtain ⟨rfl, rfl⟩ := only_link ih htarget
    decide

theorem isTree : tree.IsTree "class_a.html" := by
  refine ⟨by decide, by decide, fun location hreaches target htarget => ?_⟩
  obtain ⟨rfl, rfl⟩ := only_link (mem_of_reaches hreaches) htarget
  decide

/-- The directories that the pages are stored in. -/
def directories : List Text := [".", "docs/api", "namespace_docs"]

theorem isLocal_below : ∀ dir ∈ directories, ∀ location ∈ places,
    Location.IsLocal (Location.below dir location) := by decide +kernel

theorem isLocalIn {dir : Text} (h : dir ∈ directories) : tree.IsLocalIn "class_a.html" dir :=
  fun location hreaches => isLocal_below dir h location (mem_of_reaches hreaches)

end Sample

theorem session_moved_sample : Settings.default.documentRoot = none ∧
    Sample.tree.IsTree "class_a.html" ∧ Sample.tree.IsLocalIn "class_a.html" "." ∧
    Sample.tree.IsLocalIn "class_a.html" "docs/api" ∧
    (∀ location, Sample.tree.Reaches "class_a.html" location →
      Location.isNamespacePage (Location.below "docs/api" location) =
        Location.isNamespacePage (Location.below "." location)) ∧
    ∃ r r', resolveDocument ((Sample.tree.below ".").guide .default .empty)
        (Location.below "." "class_a.html") false = .ok r ∧
      resolveDocument ((Sample.tree.below "docs/api").guide .default .empty)
        (Location.below "docs/api" "class_a.html") false = .ok r' ∧
      r.Alike (Location.Moved "." "docs/api") r' ∧
      r'.repository.visited.inOrder = Sample.places.map (Location.below "docs/api") := by
  have hhere : Sample.tree.IsLocalIn "class_a.html" "." := Sample.isLocalIn (by decide)
  have hthere : Sample.tree.IsLocalIn "class_a.html" "docs/api" := Sample.isLocalIn (by decide)
  have hkinds : ∀ location ∈ Sample.places,
      Location.isNamespacePage (Location.below "docs/api" location) =
        Location.isNamespacePage (Location.below "." location) := by decide
  have hpages := fun location hreaches => hkinds location (Sample.mem_of_reaches hreaches)
  have hmoved := session_moved Sample.tree .default .empty "class_a.html" "." "docs/api" false rfl
    Sample.isTree hhere hthere hpages
  refine ⟨rfl, Sample.isTree, hhere, hthere, hpages, ?_⟩
  obtain ⟨-, hsession, -⟩ := Sample.tree_sessions
  rw [Shelf.below_dot, Location.below_dot] at hmoved ⊢
  obtain ⟨r, hr, hfound⟩ := Option.map_eq_some_iff.mp hsession
  rw [ok_of_toOption hr] at hmoved ⊢
  generalize resolveDocument ((Sample.tree.below "docs/api").guide .default .empty)
    (Location.below "docs/api" "class_a.html") false = y at hmoved ⊢
  cases hmoved with
  | ok h =>
    have hvisited := Location.forall₂_moved_dot.mp h.visited
    rw [show r.repository.visited.inOrder = _ from congrArg Prod.snd hfound] at hvisited
    exact ⟨r, _, rfl, rfl, h, hvisited⟩

/-- A session may come to something else in another directory: in a directory named after a
namespace, every page is taken for the page of a namespace. -/
theorem session_not_moved : ¬ ∀ (s : Shelf) (settings : Settings) (registry : Registry)
    (seed here there : Text) (collects : Bool), settings.documentRoot = none →
    s.IsTree seed → s.IsLocalIn seed here → s.IsLocalIn seed there →
    EndAlike (PageFault.Alike (Location.Moved here there))
      (SessionResult.Alike (Location.Moved here there))
      (resolveDocument ((s.below here).guide settings registry) (Location.below here seed) collects)
      (resolveDocument ((s.below there).guide settings registry) (Location.below there seed)
        collects) := by
  intro hall
  have halike := hall Sample.tree .default .empty "class_a.html" "." "namespace_docs" false rfl
    Sample.isTree (Sample.isLocalIn (by decide)) (Sample.isLocalIn (by decide))
  obtain ⟨-, hhere, hthere⟩ := Sample.tree_sessions
  obtain ⟨r, hr, hfound⟩ := Option.map_eq_some_iff.mp hhere
  obtain ⟨r', hr', hzero⟩ := Option.map_eq_some_iff.mp hthere
  rw [Shelf.below_dot, Location.below_dot, ok_of_toOption hr, ok_of_toOption hr'] at halike
  cases halike with
  | ok h =>
    have hstats : Stats.zero = ⟨0, 0, 0, 1, 1, 1, false⟩ :=
      hzero.symm.trans (h.stats.trans (congrArg Prod.fst hfound))
    cases hstats

end TypeAtlas
