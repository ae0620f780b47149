import TypeAtlas.Proofs.Outcome
import TypeAtlas.Proofs.Resolution.Linking
import TypeAtlas.Resolution.Session

/-!
What can end a session. Pages that cannot be had are counted while links are followed. What is not
caught is a link that cannot be resolved, and, where enumerations are gathered, a fault of a
namespace page that nobody expects. No page is ever looked for a second time: every declaration
comes with the page it was found on.
-/

namespace TypeAtlas

namespace Run

/-! Work that may fail. -/

/-- From `s`, work gives a result as described by `P`, or fails with a fault in `F`. -/
def Ends {α : Type} (w : Work α) (s : Run) (P : α → Run → Prop) (F : PageFault → Prop) : Prop :=
  match w.run s with
  | (.ok a, t) => P a t
  | (.error fault, _) => F fault

namespace Ends

variable {α β : Type} {w : Work α} {f : α → Work β} {s t : Run} {P P' : α → Run → Prop}
  {Q : β → Run → Prop} {F G : PageFault → Prop}

theorem of_ok {a : α} (h : w.run s = (.ok a, t)) (ha : P a t) : Ends w s P F := by
  rw [Ends, h]
  exact ha

theorem of_error {fault : PageFault} (h : w.run s = (.error fault, t)) (hf : F fault) :
    Ends w s P F := by
  rw [Ends, h]
  exact hf

theorem of_run_eq {w' : Work α} {s' : Run} (h : w.run s = w'.run s') (h' : Ends w' s' P F) :
    Ends w s P F := by
  rw [Ends, h]
  exact h'

theorem imp (h : Ends w s P F) (hP : ∀ a t, P a t → P' a t) (hF : ∀ fault, F fault → G fault) :
    Ends w s P' G := by
  unfold Ends at h ⊢
  rcases hrun : w.run s with ⟨result, t⟩
  rw [hrun] at h
  cases result with
  | ok a => exact hP a t h
  | error fault => exact hF fault h

theorem bind (h : Ends w s P F) (h' : ∀ a t, P a t → Ends (f a) t Q F) :
    Ends (w >>= f) s Q F := by
  unfold Ends at h
  rcases hrun : w.run s with ⟨result, t⟩
  rw [hrun] at h
  cases result with
  | ok a => exact of_run_eq (bind_run hrun) (h' a t h)
  | error fault =>
    refine of_error (t := t) ?_ h
    simp only [ExceptT.run] at hrun
    simp only [ExceptT.run, Bind.bind, ExceptT.bind, ExceptT.mk, StateT.bind, hrun]
    rfl

theorem forM {γ : Type} {f : γ → Work Unit} {l : List γ} {I : Run → Prop} (h : I s)
    (hstep : ∀ x ∈ l, ∀ s, I s → Ends (f x) s (fun _ t => I t) F) :
    Ends (l.forM f) s (fun _ t => I t) F := by
  induction l generalizing s with
  | nil => exact of_ok rfl h
  | cons x l ih =>
    exact (hstep x List.mem_cons_self s h).bind fun _ t ht =>
      ih ht fun y hy => hstep y (List.mem_cons_of_mem x hy)

end Ends

end Run

/-- A link of a page that was read cannot be resolved against the place of the page. -/
def Guide.HasBadLink (g : Guide) (fault : PageFault) : Prop :=
  ∃ location page kept, g.fetcher.fetch location = .ok page ∧ page.kept = some kept ∧
    ∃ target ∈ kept.links.map Prod.snd, g.fetcher.resolve target kept.source = .error fault

/-- A namespace page has a fault that is not one of fetching or reading. -/
def Guide.HasBadNamespace (g : Guide) (fault : PageFault) : Prop :=
  ∃ location, Location.isNamespacePage location = true ∧
    g.fetcher.fetch location = .error fault ∧ fault.isExpected = false

/-- What can end a session whose first page was read. -/
def Guide.Breaks (g : Guide) (collects : Bool) (fault : PageFault) : Prop :=
  g.HasBadLink fault ∨ collects = true ∧ g.HasBadNamespace fault

namespace Run

variable {g : Guide} {s t : Run}

/-- Every declaration is stored with a page that was read, and what is put off is a namespace page
or can be read. -/
structure Followable (g : Guide) (s : Run) : Prop where
  kept : ∀ name ∈ s.repository.declarations.keys, name ∈ s.resolver.pages.keys
  pages : ∀ name kept, s.resolver.pages.get? name = some kept →
    ∃ location page, g.fetcher.fetch location = .ok page ∧ page.kept = some kept
  discovered : ∀ location ∈ s.repository.discovered.inOrder,
    Location.isNamespacePage location = true ∨ ∃ page, g.fetcher.fetch location = .ok page

/-- Looking through declarations puts nothing off. -/
def Leaves (s t : Run) : Prop := Looks s t ∧ t.repository.discovered = s.repository.discovered

theorem Followable.leaves (h : Followable g s) (ht : Leaves s t) : Followable g t := by
  obtain ⟨hlooks, hdiscovered⟩ := ht
  constructor
  · rw [hlooks.declarations, hlooks.pages]
    exact h.kept
  · rw [hlooks.pages]
    exact h.pages
  · rw [hdiscovered]
    exact h.discovered

theorem Leaves.trans {u : Run} (h : Leaves s t) (h' : Leaves t u) : Leaves s u :=
  ⟨h.1.trans h'.1, h'.2.trans h.2⟩

/-! Scheduling. -/

theorem Offered.leaves {parent : Text} {d : Dependency} (h : Offered g parent d s t) :
    Leaves s t := by
  refine ⟨h.looks, ?_⟩
  cases h <;> rfl

theorem ends_schedule (parent : Text) {d : Dependency} {F : PageFault → Prop}
    (hlink : d.isLinked = true → ∀ fault,
      g.fetcher.resolve (d.link.getD []) d.source = .error fault → F fault) :
    Ends (schedule g parent d) s (fun _ t => Leaves s t) F := by
  cases hresolve : g.fetcher.resolve (d.link.getD []) d.source with
  | ok location =>
    obtain ⟨t, hrun, hoffered⟩ := schedule_run g parent d s fun _ => ⟨location, hresolve⟩
    exact .of_ok hrun hoffered.leaves
  | error fault =>
    have hstays : Leaves s s := ⟨.refl s, rfl⟩
    apply Ends.of_run_eq (bind_run (get_run s))
    cases hs : s.isSettled parent d with
    | true => exact .of_ok rfl hstays
    | false =>
      have hfault : F fault := hlink (unsettled hs).1 fault hresolve
      simp only [Bool.false_eq_true, ↓reduceIte, hresolve]
      split
      · exact .of_error rfl hfault
      · split
        · exact .of_error rfl hfault
        · exact .of_ok rfl hstays

/-! Looking through declarations. -/

/-- The page of a declaration is not looked for where it is known. -/
theorem scan_run_of_kept {name : Text} (d : Declaration) {kept : PageLinks}
    (hpage : s.resolver.pages.get? name = some kept) (h : name ∉ s.resolver.scanned.keys) :
    ∃ links, (scan g name d).run s =
      ((g.uses name d (some kept)).forM (schedule g name)).run (s.begin name links) := by
  apply scan_run_of_page d h
  intro t ht
  rw [pageOf, bind_run (get_run t), ht, hpage]
  rfl

theorem Followable.ends_scan (h : Followable g s) {name : Text} (d : Declaration)
    (hname : name ∈ s.repository.declarations.keys) :
    Ends (scan g name d) s (fun _ t => Leaves s t) g.HasBadLink := by
  obtain ⟨kept, hkept⟩ := Keyed.mem_keys_iff.mp (h.kept name hname)
  obtain ⟨location, page, hfetch, hpage⟩ := h.pages name kept hkept
  by_cases hscanned : name ∈ s.resolver.scanned.keys
  · exact .of_ok (scan_run_of_scanned hscanned) ⟨.refl s, rfl⟩
  · obtain ⟨links, hrun⟩ := scan_run_of_kept (g := g) d hkept hscanned
    apply Ends.of_run_eq hrun
    apply Ends.forM ⟨looks_begin s name links, rfl⟩
    intro x hx u hu
    refine (ends_schedule name ?_).imp (fun _ t ht => hu.trans ht) fun _ hfault => hfault
    intro hlinked fault hfault
    obtain ⟨hsource, target, htarget, hlink⟩ := Guide.link_of_uses_some hx hlinked
    rw [hlink, hsource] at hfault
    exact ⟨location, page, kept, hfetch, hpage, target, htarget, hfault⟩

theorem Followable.ends_discover (h : Followable g s) :
    Ends (discover g) s (fun _ t => Followable g t) g.HasBadLink := by
  apply Ends.of_run_eq (bind_run (get_run s))
  have hforM : Ends (s.repository.declarations.entries.forM fun e => scan g e.1 e.2) s
      (fun _ t => Leaves s t) g.HasBadLink := by
    apply Ends.forM ⟨.refl s, rfl⟩
    rintro ⟨name, d⟩ hentry u hu
    have hname : name ∈ u.repository.declarations.keys := by
      rw [hu.1.declarations]
      exact List.mem_map_of_mem hentry
    exact ((h.leaves hu).ends_scan d hname).imp (fun _ t ht => hu.trans ht) fun _ hfault => hfault
  exact hforM.imp (fun _ t ht => h.leaves ht) fun _ hfault => hfault

/-! Settling a round. -/

/-- All pages are kept that can be read. -/
def Keeps (g : Guide) : Prop :=
  ∀ location page, g.fetcher.fetch location = .ok page → ∃ kept, page.kept = some kept

theorem Followable.store (h : Followable g s) {d : Declaration} {kept : PageLinks}
    (hkept : ∃ location page, g.fetcher.fetch location = .ok page ∧ page.kept = some kept)
    (hpages : t.resolver.pages = s.resolver.pages.setNew d.fullName kept)
    (hdeclarations : t.repository.declarations = (s.repository.add d.fullName d).2.declarations)
    (hdiscovered : t.repository.discovered = s.repository.discovered) : Followable g t := by
  constructor
  · intro name hname
    rw [hdeclarations, Repository.mem_keys_add] at hname
    rw [hpages, Keyed.mem_keys_setNew]
    exact hname.imp id (h.kept name)
  · intro name links hlinks
    rw [hpages, Keyed.get?_setNew] at hlinks
    split at hlinks
    · cases hold : s.resolver.pages.get? d.fullName with
      | none =>
        rw [hold] at hlinks
        cases hlinks
        exact hkept
      | some old =>
        rw [hold] at hlinks
        cases hlinks
        exact h.pages d.fullName old hold
    · exact h.pages name links hlinks
  · rw [hdiscovered]
    exact h.discovered

theorem discovered_add (r : Repository) (key : Text) (d : Declaration) :
    (r.add key d).2.discovered = r.discovered := by
  unfold Repository.add
  split <;> rfl

theorem Followable.settle (hkeeps : Keeps g) (h : Followable g t) (i : Item) :
    Followable g (t.settle i (s.outcome g i)) := by
  have hcomes := comesTo g s i
  generalize s.outcome g i = o at hcomes ⊢
  cases hcomes with
  | skipped | failed => exact ⟨h.kept, h.pages, h.discovered⟩
  | closing | told =>
    simp only [Run.settle, recordCircular]
    split <;> exact ⟨h.kept, h.pages, h.discovered⟩
  | deferred hnamespace =>
    refine ⟨h.kept, h.pages, ?_⟩
    intro location hl
    rcases Names.mem_keys_add.mp hl with rfl | hl
    · exact .inl hnamespace
    · exact h.discovered location hl
  | page p _ hfetch =>
    obtain ⟨kept, hkept⟩ := hkeeps i.location p hfetch
    cases hd : p.declaration with
    | none =>
      rw [settle_of_none hd]
      exact ⟨h.kept, h.pages, h.discovered⟩
    | some d =>
      rw [settle_of_some hd, hkept]
      exact h.store ⟨i.location, p, hfetch, hkept⟩ rfl rfl (discovered_add _ _ _)

theorem Followable.round (hkeeps : Keeps g) (h : Followable g s) : Followable g (round g s) := by
  have hopened : Followable g s.opened := ⟨h.kept, h.pages, h.discovered⟩
  have hsettled : Followable g (s.opened.settleAll (s.outcomes g)) := by
    apply settleAll_spec (fun _ t => Followable g t) hopened
    intro done i o t hpart ht
    have hmem : (i, o) ∈ s.outcomes g := hpart.subset (by simp)
    obtain ⟨i, _, hio⟩ := List.mem_map.mp hmem
    cases hio
    exact ht.settle hkeeps i
  exact ⟨hsettled.kept, hsettled.pages, hsettled.discovered⟩

/-! All rounds. -/

theorem Followable.ends_roundsFrom (hkeeps : Keeps g) (left : Nat) (h : Followable g s) :
    Ends (roundsFrom g left) s (fun _ t => Followable g t) g.HasBadLink := by
  induction left generalizing s with
  | zero =>
    apply Ends.of_run_eq (bind_run (get_run s))
    split
    · exact .of_ok rfl h
    · exact .of_ok (t := cap g s) rfl ⟨h.kept, h.pages, h.discovered⟩
  | succ left ih =>
    apply Ends.of_run_eq (bind_run (get_run s))
    split
    · exact .of_ok rfl h
    · have hround : Ends (modify (Run.round g) : Work Unit) s (fun _ t => Followable g t)
          g.HasBadLink := .of_ok rfl (h.round hkeeps)
      exact hround.bind fun _ t ht => ht.ends_discover.bind fun _ u hu => ih hu

theorem Followable.ends_resolveAll (hkeeps : Keeps g) (h : Followable g s) :
    Ends (resolveAll g) s (fun _ t => Followable g t) g.HasBadLink := by
  apply h.ends_discover.bind
  intro _ t ht
  apply Ends.of_run_eq (bind_run (get_run t))
  apply (ht.ends_roundsFrom hkeeps _).bind
  intro _ u hu
  apply Ends.of_run_eq (bind_run (get_run u))
  split
  · exact .of_ok rfl hu
  · exact .of_ok (t := u.warn _) rfl ⟨hu.kept, hu.pages, hu.discovered⟩

/-! Enumerations. -/

theorem ends_collectFrom (g : Guide) (count : Nat) (location : Text) (s : Run) :
    Ends (collectFrom g count location) s (fun _ _ => True)
      fun fault => g.fetcher.fetch location = .error fault ∧ fault.isExpected = false := by
  have hnote : (modify (·.noteFetch location) : Work Unit).run s =
      (.ok (), s.noteFetch location) := rfl
  apply Ends.of_run_eq (bind_run hnote)
  cases hfetch : g.fetcher.fetch location with
  | error fault =>
    cases hexpected : fault.isExpected with
    | true => exact .of_ok (by simp only [hexpected]; rfl) trivial
    | false => exact .of_error (by simp only [hexpected]; rfl) ⟨rfl, hexpected⟩
  | ok p =>
    cases hinfo : p.namespaceInfo with
    | none => exact .of_ok (by simp only [hinfo]; rfl) trivial
    | some info => exact .of_ok (by simp only [hinfo]; rfl) trivial

theorem Followable.ends_collectEnums (h : Followable g s) :
    Ends (collectEnums g) s (fun _ _ => True) g.HasBadNamespace := by
  apply Ends.of_run_eq (bind_run (get_run s))
  suffices hall : ∀ (locations : List Text) (count : Nat) (t : Run),
      (∀ location ∈ locations, Location.isNamespacePage location = true ∨
        ∃ page, g.fetcher.fetch location = .ok page) →
      Ends (locations.foldlM (collectFrom g) count) t (fun _ _ => True) g.HasBadNamespace from
    hall _ 0 s h.discovered
  intro locations
  induction locations with
  | nil => exact fun count t _ => .of_ok rfl trivial
  | cons location locations ih =>
    intro count t hlocations
    rw [List.foldlM_cons]
    have hfirst := (ends_collectFrom g count location t).imp (G := g.HasBadNamespace)
      (fun _ _ h => h) fun fault hfault => by
        rcases hlocations location List.mem_cons_self with hnamespace | ⟨page, hpage⟩
        · exact ⟨location, hnamespace, hfault⟩
        · rw [hpage] at hfault
          cases hfault.1
    exact hfirst.bind fun count t _ =>
      ih count t fun l hl => hlocations l (List.mem_cons_of_mem location hl)

/-! The session. -/

theorem followable_seeded (hkeeps : Keeps g) {page : ParsedPage}
    (hpage : g.fetcher.fetch page.source = .ok page) : Followable g (seeded g page) := by
  have hstart : Followable g ((start g.settings.roundLimit).visit page.source) :=
    ⟨nofun, nofun, nofun⟩
  obtain ⟨kept, hkept⟩ := hkeeps page.source page hpage
  cases hd : page.declaration with
  | none =>
    rw [seeded, seed, hd]
    cases page.isNamespace with
    | false => exact ⟨hstart.kept, hstart.pages, hstart.discovered⟩
    | true =>
      refine ⟨hstart.kept, hstart.pages, ?_⟩
      intro location hl
      rcases Names.mem_keys_add.mp hl with rfl | hl
      · exact .inr ⟨page, hpage⟩
      · exact hstart.discovered location hl
  | some d =>
    rw [seeded, seed, hd, hkept]
    exact hstart.store ⟨page.source, page, hpage, hkept⟩ rfl rfl (discovered_add _ _ _)

theorem ends_sessionFrom (hkeeps : Keeps g) {page : ParsedPage}
    (hpage : g.fetcher.fetch page.source = .ok page) (collects : Bool) :
    Ends (sessionFrom g page collects) (start g.settings.roundLimit) (fun _ _ => True)
      (g.Breaks collects) := by
  have hseed : (modify fun s => (s.seed page).2 : Work Unit).run (start g.settings.roundLimit) =
      (.ok (), seeded g page) := rfl
  apply Ends.of_run_eq (bind_run hseed)
  have hresolve := ((followable_seeded hkeeps hpage).ends_resolveAll hkeeps).imp
    (G := g.Breaks collects) (fun _ _ ht => ht) fun _ => .inl
  apply hresolve.bind
  intro stats t ht
  cases collects with
  | false => exact .of_ok rfl trivial
  | true =>
    have hcollect := ht.ends_collectEnums.imp (G := g.Breaks true) (fun _ _ h => h)
      fun _ hfault => .inr ⟨rfl, hfault⟩
    exact hcollect.bind fun _ _ _ => .of_ok rfl trivial

end Run

theorem breaks_of_resolveDocument {g : Guide} (hkeeps : Run.Keeps g) {location : Text}
    {page : ParsedPage} (hpage : g.fetcher.fetch location = .ok page)
    (hsource : page.source = location) {collects : Bool} {fault : PageFault}
    (h : resolveDocument g location collects = .error fault) : g.Breaks collects fault := by
  have hends := Run.ends_sessionFrom hkeeps (hsource ▸ hpage) collects
  rw [resolveDocument, hpage] at h
  unfold Run.Ends at hends
  simp only [bind, Except.bind] at h
  split at h
  · cases h
  · rename_i hrun
    cases h
    rw [hrun] at hends
    exact hends

/-! Documents on a shelf. -/

namespace Shelf

theorem source_of_ofText {content source : Text} {p : Page}
    (h : Page.ofText content source = .ok p) : p.source = source := by
  unfold Page.ofText at h
  split at h
  · cases h
  · split at h
    · cases h
    · simp only at h
      split at h
      · cases h
      · cases h
        rfl

theorem source_of_fetchPage {s : Shelf} {location : Text} {p : Page}
    (h : s.fetchPage location = .ok p) : p.source = location := by
  obtain ⟨isNetwork, _, h⟩ := ok_of_bind h
  cases isNetwork with
  | true =>
    obtain ⟨content, _, h⟩ := ok_of_bind h
    exact source_of_ofText h
  | false =>
    obtain ⟨content, _, h⟩ := ok_of_bind h
    exact source_of_ofText h

/-- A page that was read is kept as it was found. -/
theorem page_of_fetch {s : Shelf} {onlyScripted : Bool} {location : Text} {page : ParsedPage}
    (h : s.fetch onlyScripted location = .ok page) :
    ∃ p, s.fetchPage location = .ok p ∧ page.source = location ∧
      page.kept = some ⟨location, p.links⟩ := by
  obtain ⟨p, hp, hparse⟩ := ok_of_bind h
  have hsource := source_of_fetchPage hp
  refine ⟨p, hp, ?_⟩
  unfold Page.parse at hparse
  split at hparse
  · obtain ⟨info, _, hparsed⟩ := ok_of_bind hparse
    cases hparsed
    exact ⟨hsource, by rw [Page.pageLinks, hsource]⟩
  · obtain ⟨declaration, _, hparsed⟩ := ok_of_bind hparse
    cases hparsed
    exact ⟨hsource, by rw [Page.pageLinks, hsource]⟩

theorem keeps_guide (s : Shelf) (settings : Settings) (registry : Registry) :
    Run.Keeps (s.guide settings registry) := by
  intro location page hfetch
  obtain ⟨p, _, _, hkept⟩ := page_of_fetch hfetch
  exact ⟨_, hkept⟩

end Shelf

/-- A session whose first page was read completes, whatever the other documents hold, unless a link
of some page cannot be resolved, or enumerations are gathered and some namespace page has a fault
other than those of fetching and reading. -/
theorem session_fault (s : Shelf) (settings : Settings) (registry : Registry) (location : Text)
    (collects : Bool) (page : ParsedPage) (hpage : s.fetch false location = .ok page)
    (fault : PageFault)
    (h : resolveDocument (s.guide settings registry) location collects = .error fault) :
    (∃ place found target e, s.fetchPage place = .ok found ∧ target ∈ found.links.map Prod.snd ∧
      Location.resolve target place = .error e ∧ fault = .badLocation e) ∨
    collects = true ∧ ∃ place, Location.isNamespacePage place = true ∧
      s.fetch false place = .error fault ∧ fault.isExpected = false := by
  obtain ⟨_, _, hsource, _⟩ := Shelf.page_of_fetch hpage
  rcases breaks_of_resolveDocument (s.keeps_guide settings registry) hpage hsource h with
    ⟨place, read, kept, hfetch, hkept, target, htarget, hresolve⟩ | hnamespace
  · left
    obtain ⟨found, hfound, _, hlinks⟩ := Shelf.page_of_fetch hfetch
    rw [hlinks] at hkept
    cases hkept
    change (Location.resolve target place).mapError .badLocation = .error fault at hresolve
    cases he : Location.resolve target place with
    | ok l =>
      rw [he] at hresolve
      cases hresolve
    | error e =>
      rw [he] at hresolve
      cases hresolve
      exact ⟨place, found, target, e, hfound, htarget, he, rfl⟩
  · exact .inr hnamespace

namespace Sample

def classPage : Text :=
  "<p class=title>A Class Reference" ++
    "<p class=textblock>Inherits <a class=el href=namespace_n.html>N</a>.".toList

/-- A comment stands behind the row of the enumeration. -/
def namespacePage : Text :=
  "<p class=title>N Namespace Reference<table class=memberdecls>" ++
    "<tr class=memitem:1><td class=memItemLeft>enum<td class=memItemRight>E \x7ba\x7d</tr>".toList ++
    "<!-- -->".toList

def shelf : Shelf :=
  ⟨[("class_a.html", .text classPage), ("namespace_n.html", .text namespacePage)]⟩

def faultOf? {α : Type} : Except PageFault α → Option PageFault
  | .ok _ => none
  | .error fault => some fault

/-- The class page can be read, and the comment on the namespace page ends the session. -/
theorem shelf_breaks : ∃ page, shelf.fetch false "class_a.html" = .ok page ∧
    resolveDocument (shelf.guide .default .empty) "class_a.html" true = .error .strayComment := by
  obtain ⟨hfetch, hbroken⟩ : faultOf? (shelf.fetch false "class_a.html") = none ∧
      faultOf? (resolveDocument (shelf.guide .default .empty) "class_a.html" true) =
        some .strayComment := by decide +kernel
  cases hpage : shelf.fetch false "class_a.html" with
  | error fault =>
    rw [hpage] at hfetch
    cases hfetch
  | ok page =>
    refine ⟨page, rfl, ?_⟩
    cases hresult : resolveDocument (shelf.guide .default .empty) "class_a.html" true with
    | ok result =>
      rw [hresult] at hbroken
      cases hbroken
    | error fault =>
      rw [hresult] at hbroken
      cases hbroken
      rfl

end Sample

theorem session_fault_sample : ∃ page, Sample.shelf.fetch false "class_a.html" = .ok page ∧
    resolveDocument (Sample.shelf.guide .default .empty) "class_a.html" true =
      .error .strayComment ∧
    ((∃ place found target e, Sample.shelf.fetchPage place = .ok found ∧
      target ∈ found.links.map Prod.snd ∧ Location.resolve target place = .error e ∧
      PageFault.strayComment = .badLocation e) ∨
    true = true ∧ ∃ place, Location.isNamespacePage place = true ∧
      Sample.shelf.fetch false place = .error .strayComment ∧
      PageFault.isExpected .strayComment = false) := by
  obtain ⟨page, hpage, hfault⟩ := Sample.shelf_breaks
  exact ⟨page, hpage, hfault,
    session_fault Sample.shelf .default .empty "class_a.html" true page hpage _ hfault⟩

/-- Not every session completes whose first page was read. -/
theorem session_broken : ¬ ∀ (s : Shelf) (settings : Settings) (registry : Registry)
    (location : Text) (collects : Bool) (page : ParsedPage), s.fetch false location = .ok page →
    ∃ result, resolveDocument (s.guide settings registry) location collects = .ok result := by
  intro hcompletes
  obtain ⟨page, hpage, hfault⟩ := Sample.shelf_breaks
  obtain ⟨result, hresult⟩ :=
    hcompletes Sample.shelf .default .empty "class_a.html" true page hpage
  rw [hfault] at hresult
  cases hresult

end TypeAtlas
