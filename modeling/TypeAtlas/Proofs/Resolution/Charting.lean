import TypeAtlas.Proofs.Resolution.Distance
import TypeAtlas.Proofs.Resolution.Linking

/-!
What a run has dealt with over a consistent set of pages: a set of names, each of which is stored as
its page declares it, or counted as missing. Settling an item takes its name in; an item that closes
a cycle has a name that is stored already.
-/

namespace TypeAtlas

open Run

/-- The run has dealt with the names in `names`: it stores those that are declared, as they are
declared, and has counted the others. -/
structure Charted (a : Atlas) (names : Set Text) (s : Run) : Prop where
  stored : ∀ x, x ∈ s.repository.declarations.keys ↔ x ∈ names ∧ a.Declared x
  faithful : ∀ x d, s.repository.declarations.get? x = some d →
    ∃ d', a.held x = some (d', s.resolver.pages.get? x) ∧ d.uses = d'.uses
  pages : ∀ x ∈ s.resolver.pages.keys, x ∈ s.repository.declarations.keys
  circular : ∀ x ∈ s.resolver.circular.keys, x ∈ s.repository.declarations.keys
  types : ∀ x ∈ s.resolver.context.visited.keys, x ∈ s.repository.declarations.keys
  ancestry : ∀ x path, s.resolver.context.ancestry.get? x = some path →
    ∀ y ∈ path, y ∈ s.repository.declarations.keys
  missing : ∃ xs : List Text, xs.Nodup ∧ (∀ x, x ∈ xs ↔ x ∈ names ∧ ¬ a.Declared x) ∧
    s.resolver.stats.unresolved = xs.length

namespace Charted

variable {a : Atlas} {names : Set Text} {s t : Run} {name : Text}

theorem looks (h : Charted a names s) (ht : Looks s t) : Charted a names t := by
  obtain ⟨_, hcircular, hpages, hstats, htypes, hancestry, hdeclarations, _, _⟩ := ht
  constructor
  · rw [hdeclarations]
    exact h.stored
  · rw [hdeclarations, hpages]
    exact h.faithful
  · rw [hdeclarations, hpages]
    exact h.pages
  · rw [hdeclarations, hcircular]
    exact h.circular
  · rw [hdeclarations, htypes]
    exact h.types
  · rw [hdeclarations, hancestry]
    exact h.ancestry
  · rw [hstats]
    exact h.missing

theorem mem_names (h : Charted a names s) (hx : name ∈ s.repository.declarations.keys) :
    name ∈ names := ((h.stored name).mp hx).1

/-- What a path or the name of a parent contains is stored. -/
theorem trail (h : Charted a names s) (hname : name ∈ s.repository.declarations.keys) :
    ∀ y ∈ s.trail name, y ∈ s.repository.declarations.keys := by
  intro y hy
  rcases List.mem_append.mp hy with hy | hy
  · unfold Context.pathTo at hy
    cases hpath : s.resolver.context.ancestry.get? name with
    | none =>
      rw [hpath] at hy
      cases hy
    | some path =>
      rw [hpath] at hy
      exact h.ancestry name path hpath y hy
  · rw [List.mem_singleton.mp hy]
    exact hname

/-- A name that is not declared is counted. -/
theorem count (h : Charted a names s) (hnew : name ∉ names) (hmissing : ¬ a.Declared name) :
    Charted a (insert name names) s.countUnresolved := by
  refine ⟨?_, h.faithful, h.pages, h.circular, h.types, h.ancestry, ?_⟩
  · intro x
    rw [Set.mem_insert_iff]
    constructor
    · intro hx
      obtain ⟨hmem, hdeclared⟩ := (h.stored x).mp hx
      exact ⟨.inr hmem, hdeclared⟩
    · rintro ⟨rfl | hmem, hdeclared⟩
      · exact absurd hdeclared hmissing
      · exact (h.stored x).mpr ⟨hmem, hdeclared⟩
  · obtain ⟨xs, hnodup, hxs, hlength⟩ := h.missing
    refine ⟨name :: xs, ?_, ?_, ?_⟩
    · rw [List.nodup_cons]
      exact ⟨fun hmem => hnew ((hxs name).mp hmem).1, hnodup⟩
    · intro x
      rw [List.mem_cons, hxs, Set.mem_insert_iff]
      constructor
      · rintro (rfl | ⟨hmem, hx⟩)
        · exact ⟨.inl rfl, hmissing⟩
        · exact ⟨.inr hmem, hx⟩
      · rintro ⟨rfl | hmem, hx⟩
        · exact .inl rfl
        · exact .inr ⟨hmem, hx⟩
    · rw [List.length_cons, ← hlength]
      rfl

/-- A name that is declared is missing nowhere. -/
theorem missing_insert (h : Charted a names s) (hdeclared : a.Declared name) :
    ∃ xs : List Text, xs.Nodup ∧ (∀ x, x ∈ xs ↔ x ∈ insert name names ∧ ¬ a.Declared x) ∧
      s.resolver.stats.unresolved = xs.length := by
  obtain ⟨xs, hnodup, hxs, hlength⟩ := h.missing
  refine ⟨xs, hnodup, ?_, hlength⟩
  intro x
  rw [hxs, Set.mem_insert_iff]
  constructor
  · rintro ⟨hmem, hx⟩
    exact ⟨.inr hmem, hx⟩
  · rintro ⟨rfl | hmem, hx⟩
    · exact absurd hdeclared hx
    · exact ⟨hmem, hx⟩

/-- A path that is recorded stays among the names that are stored. -/
theorem ancestry_setNew (h : Charted a names s) {path : List Text}
    (hpath : ∀ y ∈ path, y ∈ s.repository.declarations.keys) {x : Text} {way : List Text}
    (hx : (s.resolver.context.ancestry.setNew name path).get? x = some way) :
    ∀ y ∈ way, y ∈ s.repository.declarations.keys := by
  rcases Keyed.eq_of_get?_setNew hx with hold | ⟨_, rfl, _⟩
  · exact h.ancestry x way hold
  · exact hpath

/-- A name that is declared is stored with its page. -/
theorem store (h : Charted a names s) {d : Declaration} {kept : Option PageLinks}
    (hheld : a.held name = some (d, kept)) (hfull : d.fullName = name) (hnew : name ∉ names)
    {path : List Text} (hpath : ∀ y ∈ path, y ∈ s.repository.declarations.keys) :
    Charted a (insert name names) ((s.store d).record d kept path) := by
  subst hfull
  have hkey : d.fullName ∉ s.repository.declarations.keys := fun hmem => hnew (h.mem_names hmem)
  obtain ⟨pages, hrecord, hpages⟩ := (s.store d).record_eq d kept path
  have hpages := hpages fun hmem => hkey (h.pages _ hmem)
  rw [hrecord]
  -- what the run stores now: the declaration, and what it stored before
  have hself : d.fullName ∈ (s.repository.add d.fullName d).2.declarations.keys :=
    Repository.mem_keys_add.mpr (.inl rfl)
  have hold {x : Text} (hx : x ∈ s.repository.declarations.keys) :
      x ∈ (s.repository.add d.fullName d).2.declarations.keys :=
    Repository.mem_keys_add.mpr (.inr hx)
  refine ⟨?_, ?_, ?_, fun x hx => hold (h.circular x hx), ?_, ?_,
    h.missing_insert ⟨d, kept, hheld⟩⟩
  · intro x
    change x ∈ (s.repository.add d.fullName d).2.declarations.keys ↔ _
    rw [Repository.mem_keys_add, h.stored, Set.mem_insert_iff]
    constructor
    · rintro (rfl | ⟨hmem, hx⟩)
      · exact ⟨.inl rfl, d, kept, hheld⟩
      · exact ⟨.inr hmem, hx⟩
    · rintro ⟨hmem, hx⟩
      exact hmem.imp id fun hmem => ⟨hmem, hx⟩
  · intro x d' hd'
    change (s.repository.add d.fullName d).2.declarations.get? x = some d' at hd'
    change ∃ d'', a.held x = some (d'', pages.get? x) ∧ d'.uses = d''.uses
    rw [Repository.get?_add_of_not_mem hkey] at hd'
    rw [hpages]
    split at hd'
    · rename_i hx
      rw [if_pos hx, hx]
      cases hd'
      exact ⟨d, hheld, rfl⟩
    · rename_i hx
      rw [if_neg hx]
      exact h.faithful x d' hd'
  · intro x hx
    obtain ⟨p, hp⟩ := Keyed.mem_keys_iff.mp hx
    change pages.get? x = some p at hp
    rw [hpages] at hp
    split at hp
    · rename_i hname
      rw [hname]
      exact hself
    · exact hold (h.pages x (Keyed.mem_keys_iff.mpr ⟨p, hp⟩))
  · intro x hx
    rcases Names.mem_keys_add.mp hx with rfl | hx
    · exact hself
    · exact hold (h.types x hx)
  · intro x way hx y hy
    exact hold (h.ancestry_setNew hpath hx y hy)

theorem dropPending (h : Charted a names s) (x : Text) :
    Charted a names (s.onContext (·.dropPending x)) :=
  ⟨h.stored, h.faithful, h.pages, h.circular, h.types, h.ancestry, h.missing⟩

/-- The names of items that close a cycle are stored already. -/
theorem settle_closing (h : Charted a names s) {i : Item} (hpath : i.isOnPath = true)
    (hname : i.name ∈ s.repository.declarations.keys) (t : Run) :
    Charted a names (s.settle i (t.outcome a.guide i)) := by
  have hcircular : ∀ x ∈ (s.resolver.circular.add i.name).keys,
      x ∈ s.repository.declarations.keys := by
    intro x hx
    rcases Names.mem_keys_add.mp hx with rfl | hx
    · exact hname
    · exact h.circular x hx
  have hdrop := h.dropPending i.name
  unfold outcome
  cases t.resolver.circular.has i.name with
  | true => exact hdrop
  | false =>
    rw [hpath]
    change Charted a names ((s.onContext (·.dropPending i.name)).recordCircular i.name i.path)
    unfold recordCircular
    split
    · exact ⟨h.stored, h.faithful, h.pages, h.circular, h.types, h.ancestry, h.missing⟩
    · exact ⟨h.stored, h.faithful, h.pages, hcircular, h.types, h.ancestry, h.missing⟩

theorem settle_failed (h : Charted a names s) {i : Item} (hnew : i.name ∉ names)
    (hmissing : ¬ a.Declared i.name) (fault : PageFault) :
    Charted a (insert i.name names) (s.settle i (.failed fault)) := by
  have hcount := h.count hnew hmissing
  exact ⟨hcount.stored, hcount.faithful, hcount.pages, hcount.circular, hcount.types,
    hcount.ancestry, hcount.missing⟩

theorem settle_page (h : Charted a names s) {i : Item} (hnew : i.name ∉ names)
    (hroot : i.name ≠ a.root) (hpath : ∀ y ∈ i.path, y ∈ s.repository.declarations.keys)
    {p : ParsedPage} (hfetch : a.guide.fetcher.fetch (a.page i.name) = .ok p)
    (hfull : ∀ d, p.declaration = some d → d.fullName = i.name) :
    Charted a (insert i.name names) (s.settle i (.page p)) := by
  have hheld : a.held i.name = p.declaration.map (·, p.kept) := by
    rw [Atlas.held_of_ne hroot, hfetch]
  cases hd : p.declaration with
  | none =>
    have hmissing : ¬ a.Declared i.name := by
      rintro ⟨d, kept, hdeclared⟩
      rw [hheld, hd] at hdeclared
      cases hdeclared
    have hcount := h.count hnew hmissing
    rw [settle_of_none hd]
    exact ⟨hcount.stored, hcount.faithful, hcount.pages, hcount.circular, hcount.types,
      hcount.ancestry, hcount.missing⟩
  | some d =>
    rw [hd] at hheld
    rw [settle_of_some hd]
    have hstore := (h.dropPending i.name).store hheld (hfull d hd) hnew hpath
    refine ⟨hstore.stored, hstore.faithful, hstore.pages, hstore.circular, ?_, hstore.ancestry,
      hstore.missing⟩
    intro x hx
    rcases Names.mem_keys_add.mp hx with rfl | hx
    · exact (hstore.stored _).mpr ⟨Set.mem_insert _ _, d, p.kept, hheld⟩
    · exact hstore.types x hx

/-- An item that closes no cycle takes its name in. -/
theorem settle_plain (ha : a.Consistent) (h : Charted a names s) {i : Item}
    (hplain : i.isOnPath = false) (hlinked : a.Linked i.name) (hroot : i.name ≠ a.root)
    (hlocation : i.location = a.page i.name) (hnew : i.name ∉ names)
    (hpath : ∀ y ∈ i.path, y ∈ s.repository.declarations.keys) {t : Run}
    (hcircular : i.name ∉ t.resolver.circular.keys) :
    Charted a (insert i.name names) (s.settle i (t.outcome a.guide i)) := by
  have hnamespace : Location.isNamespacePage i.location = false := by
    rw [hlocation]
    exact ha.notNamespace i.name hlinked
  unfold outcome
  rw [Names.has_eq_false_iff.mpr hcircular, hplain, hnamespace, hlocation]
  simp only [Bool.false_eq_true, ↓reduceIte]
  cases hfetch : a.guide.fetcher.fetch (a.page i.name) with
  | ok p =>
    exact h.settle_page hnew hroot hpath hfetch fun d hd =>
      ha.declares i.name hlinked p d hfetch hd
  | error fault =>
    have hmissing : ¬ a.Declared i.name := by
      rintro ⟨d, kept, hdeclared⟩
      rw [Atlas.held_of_ne hroot, hfetch] at hdeclared
      cases hdeclared
    split
    · rename_i hok
      cases hok
    · rename_i hcycle
      cases hcycle
      exact absurd hfetch (ha.reports i.name hlinked _ _)
    · exact h.settle_failed hnew hmissing _

end Charted

end TypeAtlas
