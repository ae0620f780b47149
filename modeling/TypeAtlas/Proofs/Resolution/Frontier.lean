import TypeAtlas.Proofs.Resolution.Charting

/-!
What a run knows after some rounds over a consistent set of pages. What is stored are the
declarations of the names near enough to the seed; what is visited, and what waits, are the pages of
the names one link further. Looking through the declarations moves this frontier, and a round takes
the names on it in.
-/

namespace TypeAtlas

open Run

/-- What waits `k` links from the seed: the items that close no cycle are one link further, at the
locations of their pages, and these pages are all that was visited beyond the names nearer by. -/
structure Frontier (a : Atlas) (k : Nat) (s : Run) : Prop where
  waits : s.Waits
  pending : ∀ x ∈ s.resolver.context.pending.keys, x ∈ s.resolver.pending.keys
  marked : ∀ x, a.Within k x → a.page x ∈ s.repository.visited.keys
  known : ∀ location ∈ s.repository.visited.keys, ∃ x, a.page x = location ∧
    (a.Within k x ∨ ∃ i ∈ s.resolver.pending.values, i.isOnPath = false ∧ i.name = x)
  plain : ∀ i ∈ s.resolver.pending.values, i.isOnPath = false →
    a.Within (k + 1) i.name ∧ ¬ a.Within k i.name ∧ i.location = a.page i.name ∧
      i.location ∈ s.repository.visited.keys
  paths : ∀ i ∈ s.resolver.pending.values, ∀ y ∈ i.path, y ∈ s.repository.declarations.keys

/-- The page of every name that a declaration leads to has been visited. -/
def Covers (a : Atlas) (s : Run) (name : Text) : Prop :=
  ∀ other, a.LeadsTo name other → a.page other ∈ s.repository.visited.keys

theorem Covers.mono {a : Atlas} {s t : Run} {name : Text} (h : Covers a s name)
    (hvisited : s.repository.visited.keys ⊆ t.repository.visited.keys) : Covers a t name :=
  fun other hl => hvisited (h other hl)

namespace Frontier

variable {a : Atlas} {k : Nat} {s t : Run} {name : Text}

theorem closing (h : Frontier a k s) {i : Item} (hi : i ∈ s.resolver.pending.values)
    (hpath : i.isOnPath = true) : i.name ∈ s.repository.declarations.keys :=
  h.paths i hi i.name (Item.isOnPath_iff.mp hpath)

theorem marked_of_stored (h : Frontier a k s) (hs : Charted a {x | a.Within k x} s)
    (hname : name ∈ s.repository.declarations.keys) : a.page name ∈ s.repository.visited.keys :=
  h.marked name (hs.mem_names hname)

theorem marked_of_pending (h : Frontier a k s) (hs : Charted a {x | a.Within k x} s)
    (hname : name ∈ s.resolver.pending.keys) : a.page name ∈ s.repository.visited.keys := by
  rw [← h.waits.named] at hname
  obtain ⟨i, hi, rfl⟩ := List.mem_map.mp hname
  cases hpath : i.isOnPath with
  | true => exact h.marked_of_stored hs (h.closing hi hpath)
  | false =>
    obtain ⟨_, _, hlocation, hvisited⟩ := h.plain i hi hpath
    exact hlocation ▸ hvisited

/-- A dependency that is passed over has a page that was visited. -/
theorem marked_of_settled (h : Frontier a k s) (hs : Charted a {x | a.Within k x} s)
    (hname : name ∈ s.repository.declarations.keys) {x : Dependency} (hlinked : x.isLinked = true)
    (hsettled : s.isSettled name x = true) : a.page x.fullName ∈ s.repository.visited.keys := by
  unfold isSettled at hsettled
  simp only [hlinked, Bool.or_eq_true, Bool.not_true, Bool.false_eq_true, false_or,
    decide_eq_true_eq, Names.has_iff, Keyed.contains_iff, Context.isPending] at hsettled
  rcases hsettled with ((hparent | hcircular) | hpending) | hpending
  · exact h.marked_of_stored hs (hparent ▸ hname)
  · exact h.marked_of_stored hs (hs.circular _ hcircular)
  · exact h.marked_of_pending hs hpending
  · exact h.marked_of_pending hs (h.pending _ hpending)

theorem marked_of_known (h : Frontier a k s) (hs : Charted a {x | a.Within k x} s)
    {x : Dependency} (hknown : s.isKnown x = true) :
    a.page x.fullName ∈ s.repository.visited.keys := by
  unfold isKnown at hknown
  rcases Bool.or_eq_true_iff.mp hknown with htype | hstored
  · exact h.marked_of_stored hs (hs.types _ (Names.has_iff.mp htype))
  · exact h.marked_of_stored hs (Keyed.contains_iff.mp hstored)

/-- One more item waits; the location of one that closes no cycle is visited. -/
theorem extend (h : Frontier a k s) {i : Item} (hresolver : t.resolver = (s.enqueue i).resolver)
    (hdeclarations : t.repository.declarations = s.repository.declarations)
    (hvisited : ∀ location, location ∈ t.repository.visited.keys ↔
      location ∈ s.repository.visited.keys ∨ i.isOnPath = false ∧ location = i.location)
    (hpending : i.name ∉ s.resolver.pending.keys) (hcircular : i.name ∉ s.resolver.circular.keys)
    (hpath : ∀ y ∈ i.path, y ∈ s.repository.declarations.keys)
    (hplain : i.isOnPath = false →
      a.Within (k + 1) i.name ∧ ¬ a.Within k i.name ∧ i.location = a.page i.name) :
    Frontier a k t := by
  have hvalues : t.resolver.pending.values = s.resolver.pending.values ++ [i] := by
    rw [hresolver]
    exact Keyed.values_set_of_not_mem hpending
  have hwaits := h.waits.enqueue hpending hcircular
  refine ⟨⟨hresolver ▸ hwaits.named, hresolver ▸ hwaits.apart⟩, ?_, ?_, ?_, ?_, ?_⟩
  · intro x hx
    rw [hresolver] at hx ⊢
    rcases Names.mem_keys_add.mp hx with rfl | hx
    · exact Keyed.mem_keys_set.mpr (.inl rfl)
    · exact Keyed.mem_keys_set.mpr (.inr (h.pending x hx))
  · intro x hx
    exact (hvisited _).mpr (.inl (h.marked x hx))
  · intro location hl
    rw [hvalues]
    rcases (hvisited location).mp hl with hl | ⟨hi, rfl⟩
    · obtain ⟨x, hx, hnear | ⟨j, hj, hj'⟩⟩ := h.known location hl
      · exact ⟨x, hx, .inl hnear⟩
      · exact ⟨x, hx, .inr ⟨j, List.mem_append_left _ hj, hj'⟩⟩
    · obtain ⟨_, _, hlocation⟩ := hplain hi
      exact ⟨i.name, hlocation.symm, .inr ⟨i, by simp, hi, rfl⟩⟩
  · intro j hj hj'
    rw [hvalues] at hj
    rcases List.mem_append.mp hj with hj | hj
    · obtain ⟨hnext, hfar, hlocation, hmem⟩ := h.plain j hj hj'
      exact ⟨hnext, hfar, hlocation, (hvisited _).mpr (.inl hmem)⟩
    · rw [List.mem_singleton.mp hj] at hj' ⊢
      obtain ⟨hnext, hfar, hlocation⟩ := hplain hj'
      exact ⟨hnext, hfar, hlocation, (hvisited _).mpr (.inr ⟨hj', rfl⟩)⟩
  · intro j hj
    rw [hvalues] at hj
    rw [hdeclarations]
    rcases List.mem_append.mp hj with hj | hj
    · exact h.paths j hj
    · rw [List.mem_singleton.mp hj]
      exact hpath

/-- Offering a dependency of a stored declaration moves the frontier; afterwards its page has been
visited. -/
theorem offered (ha : a.Consistent) (h : Frontier a k s) (hs : Charted a {x | a.Within k x} s)
    (hname : name ∈ s.repository.declarations.keys) {d : Declaration} {kept : Option PageLinks}
    (hheld : a.held name = some (d, kept)) {x : Dependency} (hx : x ∈ a.guide.uses name d kept)
    (ht : Offered a.guide name x s t) : Frontier a k t ∧
      (x.isLinked = true → a.page x.fullName ∈ t.repository.visited.keys) ∧
      s.repository.visited.keys ⊆ t.repository.visited.keys := by
  have hnear : a.Within k name := hs.mem_names hname
  have hleads (hlinked : x.isLinked = true) := ha.leads_of_held (ha.named hnear) hheld hx hlinked
  cases ht with
  | settled hsettled =>
    exact ⟨h, fun hlinked => h.marked_of_settled hs hname hlinked hsettled, List.Subset.refl _⟩
  | known _ hknown => exact ⟨h, fun _ => h.marked_of_known hs hknown, List.Subset.refl _⟩
  | visited location hl _ hv =>
    refine ⟨h, fun hlinked => ?_, List.Subset.refl _⟩
    have hsame : Except.ok location = Except.ok (a.page x.fullName) :=
      hl.symm.trans (hleads hlinked).1
    cases hsame
    exact hv
  | closing location hsettled hl hp =>
    obtain ⟨hlinked, _, hcircular, hpending, _⟩ := unsettled hsettled
    have honpath : (⟨x, location, s.trail name⟩ : Item).isOnPath = true :=
      Item.isOnPath_iff.mpr hp
    have hmarked := h.marked_of_stored hs (hs.trail hname _ hp)
    refine ⟨h.extend rfl rfl ?_ hpending hcircular (hs.trail hname) ?_, fun _ => hmarked,
      List.Subset.refl _⟩
    · intro l
      rw [honpath]
      simp only [Bool.true_eq_false, false_and, or_false]
      rfl
    · intro hplain
      rw [honpath] at hplain
      cases hplain
  | fresh location hsettled hl hp _ hv =>
    obtain ⟨hlinked, _, hcircular, hpending, _⟩ := unsettled hsettled
    have hsame : Except.ok location = Except.ok (a.page x.fullName) :=
      hl.symm.trans (hleads hlinked).1
    cases hsame
    have honpath : (⟨x, a.page x.fullName, s.trail name⟩ : Item).isOnPath = false :=
      Item.isOnPath_eq_false_iff.mpr hp
    have hfar : ¬ a.Within k x.fullName := fun hmem => hv (h.marked _ hmem)
    have hnext : a.Within (k + 1) x.fullName :=
      hnear.step ⟨d, kept, hheld, x, hx, hlinked, rfl⟩
    refine ⟨h.extend rfl rfl ?_ hpending hcircular (hs.trail hname) fun _ => ⟨hnext, hfar, rfl⟩,
      fun _ => Names.mem_keys_add.mpr (.inl rfl), fun l hl => Names.mem_keys_add.mpr (.inr hl)⟩
    intro l
    rw [honpath]
    simp only [true_and]
    rw [or_comm]
    exact Names.mem_keys_add

/-- Looking through a stored declaration covers it. -/
theorem scan (ha : a.Consistent) (hroot : a.guide.settings.documentRoot = none)
    (h : Frontier a k s) (hs : Charted a {x | a.Within k x} s)
    (hcovers : ∀ n ∈ s.resolver.scanned.keys, Covers a s n) {d : Declaration}
    (hget : s.repository.declarations.get? name = some d) :
    ∃ t, (Run.scan a.guide name d).run s = (.ok (), t) ∧ Looks s t ∧ Frontier a k t ∧
      (∀ n ∈ t.resolver.scanned.keys, Covers a t n) ∧ name ∈ t.resolver.scanned.keys ∧
      s.resolver.scanned.keys ⊆ t.resolver.scanned.keys := by
  by_cases hscanned : name ∈ s.resolver.scanned.keys
  · exact ⟨s, scan_run_of_scanned hscanned, .refl s, h, hcovers, hscanned, List.Subset.refl _⟩
  have hname : name ∈ s.repository.declarations.keys := Keyed.mem_keys_iff.mpr ⟨d, hget⟩
  obtain ⟨d', hheld, huses⟩ := hs.faithful name d hget
  have hleads (x : Dependency)
      (hx : x ∈ a.guide.uses name d (s.resolver.pages.get? name)) (hlinked : x.isLinked = true) :
      ∃ location, a.guide.Leads x location := by
    rw [Guide.uses_congr huses] at hx
    exact ⟨_, (ha.leads_of_held (ha.named (hs.mem_names hname)) hheld hx hlinked).1⟩
  let J (done : List Dependency) (t : Run) : Prop :=
    Looks s t ∧ Frontier a k t ∧ (∀ n ∈ s.resolver.scanned.keys, Covers a t n) ∧
      t.resolver.scanned = s.resolver.scanned.add name ∧
      ∀ x ∈ done, x.isLinked = true → a.page x.fullName ∈ t.repository.visited.keys
  obtain ⟨t, hrun, hlooks, ht, hold, hadd, hdone⟩ := scan_run hroot J hscanned
    (fun links => ⟨looks_begin s name links,
      ⟨⟨h.waits.named, h.waits.apart⟩, h.pending, h.marked, h.known, h.plain, h.paths⟩,
      hcovers, rfl, nofun⟩)
    hleads (by
      rintro done x u t hpart ⟨hlooks, hu, hold, hadd, hdone⟩ ht
      have hx : x ∈ a.guide.uses name d (s.resolver.pages.get? name) := hpart.subset (by simp)
      rw [Guide.uses_congr huses] at hx
      have hstored : name ∈ u.repository.declarations.keys := by
        rw [hlooks.declarations]
        exact hname
      obtain ⟨hfrontier, hmarked, hvisited⟩ :=
        hu.offered ha (hs.looks hlooks) hstored hheld hx ht
      refine ⟨hlooks.trans ht.looks, hfrontier, ?_, ht.scanned.trans hadd, ?_⟩
      · intro n hn
        exact (hold n hn).mono hvisited
      · intro y hy hlinked
        rcases List.mem_append.mp hy with hy | hy
        · exact hvisited (hdone y hy hlinked)
        · rw [List.mem_singleton.mp hy] at hlinked ⊢
          exact hmarked hlinked)
  refine ⟨t, hrun, hlooks, ht, ?_, ?_, ?_⟩
  · intro n hn
    rw [hadd] at hn
    rcases Names.mem_keys_add.mp hn with rfl | hn
    · rintro other ⟨e, kept, hsame, x, hx, hlinked, rfl⟩
      rw [hheld] at hsame
      cases hsame
      rw [← Guide.uses_congr huses] at hx
      exact hdone x hx hlinked
    · exact hold n hn
  · rw [hadd]
    exact Names.mem_keys_add.mpr (.inl rfl)
  · rw [hadd]
    exact fun n hn => Names.mem_keys_add.mpr (.inr hn)

/-- Looking through all declarations covers every one that is stored. -/
theorem discover (ha : a.Consistent) (hroot : a.guide.settings.documentRoot = none)
    (h : Frontier a k s) (hs : Charted a {x | a.Within k x} s)
    (hcovers : ∀ n ∈ s.resolver.scanned.keys, Covers a s n) :
    ∃ t, (Run.discover a.guide).run s = (.ok (), t) ∧ Looks s t ∧ Frontier a k t ∧
      (∀ n ∈ t.resolver.scanned.keys, Covers a t n) ∧
      ∀ n ∈ s.repository.declarations.keys, n ∈ t.resolver.scanned.keys := by
  let I (done : List (Text × Declaration)) (t : Run) : Prop :=
    Looks s t ∧ Frontier a k t ∧ (∀ n ∈ t.resolver.scanned.keys, Covers a t n) ∧
      ∀ e ∈ done, e.1 ∈ t.resolver.scanned.keys
  obtain ⟨t, hrun, hlooks, ht, hcovered, hdone⟩ := forM_run
    (f := fun e : Text × Declaration => Run.scan a.guide e.1 e.2)
    (l := s.repository.declarations.entries) I ⟨.refl s, h, hcovers, nofun⟩ (by
      rintro done ⟨name, d⟩ u hpart ⟨hlooks, hu, hcovered, hdone⟩
      have hentry : (name, d) ∈ s.repository.declarations.entries := hpart.subset (by simp)
      have hstored : u.repository.declarations.get? name = some d := by
        rw [hlooks.declarations]
        exact Keyed.get?_eq_some_iff.mpr hentry
      obtain ⟨t, hrun, hlook, ht, hcovers, hname, hsub⟩ :=
        hu.scan ha hroot (hs.looks hlooks) hcovered hstored
      refine ⟨t, hrun, hlooks.trans hlook, ht, hcovers, ?_⟩
      intro e he
      rcases List.mem_append.mp he with he | he
      · exact hsub (hdone e he)
      · rw [List.mem_singleton.mp he]
        exact hname)
  refine ⟨t, ?_, hlooks, ht, hcovered, ?_⟩
  · rw [Run.discover, bind_run (get_run s)]
    exact hrun
  · intro n hn
    obtain ⟨e, he, rfl⟩ := List.mem_map.mp hn
    exact hdone e he

/-- The names one link further are those that wait at locations of their own. -/
theorem within_succ_iff (ha : a.Consistent) (h : Frontier a k s)
    (hs : Charted a {x | a.Within k x} s)
    (hcovers : ∀ n ∈ s.repository.declarations.keys, Covers a s n) :
    a.Within (k + 1) name ↔ a.Within k name ∨
      ∃ i ∈ s.resolver.pending.values, i.isOnPath = false ∧ i.name = name := by
  constructor
  · intro hnext
    rcases Atlas.within_succ hnext with hnear | ⟨parent, hparent, hleads⟩
    · exact .inl hnear
    · have hstored : parent ∈ s.repository.declarations.keys := by
        obtain ⟨d, kept, hheld, _⟩ := hleads
        exact (hs.stored parent).mpr ⟨hparent, d, kept, hheld⟩
      obtain ⟨x, hx, hfound⟩ := h.known _ (hcovers parent hstored name hleads)
      have hnamed : a.Named x := by
        rcases hfound with hnear | ⟨i, hi, hplain, rfl⟩
        · exact ha.named hnear
        · exact ha.named (h.plain i hi hplain).1
      have hsame : x = name := ha.injective hnamed (ha.named hnext) hx
      exact hsame ▸ hfound
  · rintro (hnear | ⟨i, hi, hplain, rfl⟩)
    · exact hnear.mono (Nat.le_succ k)
    · exact (h.plain i hi hplain).1

/-- The names of the items that close no cycle. -/
def taken (done : List (Item × Outcome)) : Set Text :=
  {x | ∃ p ∈ done, p.1.isOnPath = false ∧ p.1.name = x}

theorem taken_append_of_plain (done : List (Item × Outcome)) {i : Item} (o : Outcome)
    (hi : i.isOnPath = false) : taken (done ++ [(i, o)]) = insert i.name (taken done) := by
  ext x
  simp only [taken, Set.mem_ofPred_eq, Set.mem_insert_iff, List.mem_append, List.mem_singleton]
  constructor
  · rintro ⟨p, hp | rfl, hplain, hname⟩
    · exact .inr ⟨p, hp, hplain, hname⟩
    · exact .inl hname.symm
  · rintro (rfl | ⟨p, hp, hp'⟩)
    · exact ⟨(i, o), .inr rfl, hi, rfl⟩
    · exact ⟨p, .inl hp, hp'⟩

theorem taken_append_of_closing (done : List (Item × Outcome)) {i : Item} (o : Outcome)
    (hi : i.isOnPath = true) : taken (done ++ [(i, o)]) = taken done := by
  ext x
  simp only [taken, Set.mem_ofPred_eq, List.mem_append, List.mem_singleton]
  constructor
  · rintro ⟨p, hp | rfl, hplain, hname⟩
    · exact ⟨p, hp, hplain, hname⟩
    · rw [hi] at hplain
      cases hplain
  · rintro ⟨p, hp, hp'⟩
    exact ⟨p, .inl hp, hp'⟩

/-- A round takes in the names on the frontier. -/
theorem settleAll (ha : a.Consistent) (h : Frontier a k s) (hs : Charted a {x | a.Within k x} s) :
    Charted a ({x | a.Within k x} ∪ taken (s.outcomes a.guide))
      (s.opened.settleAll (s.outcomes a.guide)) := by
  apply h.waits.settleAll fun done t => Charted a ({x | a.Within k x} ∪ taken done) t
  · have hnone : taken [] = ∅ := by
      ext x
      simp [taken]
    rw [hnone, Set.union_empty]
    exact ⟨hs.stored, hs.faithful, hs.pages, hs.circular, hs.types, hs.ancestry, hs.missing⟩
  · intro done i t hi hapart hlater ht
    have hstored : ∀ y ∈ s.repository.declarations.keys, y ∈ t.repository.declarations.keys := by
      intro y hy
      obtain ⟨hnear, hdeclared⟩ := (hs.stored y).mp hy
      exact (ht.stored y).mpr ⟨.inl hnear, hdeclared⟩
    cases hpath : i.isOnPath with
    | true =>
      rw [taken_append_of_closing done _ hpath]
      exact ht.settle_closing hpath (hstored _ (h.closing hi hpath)) s
    | false =>
      obtain ⟨hnext, hfar, hlocation, _⟩ := h.plain i hi hpath
      have hroot : i.name ≠ a.root := fun heq => hfar (heq ▸ Atlas.within_root k)
      have hnew : i.name ∉ {x | a.Within k x} ∪ taken done := by
        rintro (hnear | ⟨p, hp, _, hname⟩)
        · exact hfar hnear
        · exact hlater (List.mem_map.mpr ⟨p, hp, hname⟩)
      rw [taken_append_of_plain done _ hpath, Set.union_insert]
      exact ht.settle_plain ha hpath ((ha.named hnext).resolve_left hroot) hroot hlocation hnew
        (fun y hy => hstored y (h.paths i hi y hy)) hapart

theorem round (ha : a.Consistent) (h : Frontier a k s) (hs : Charted a {x | a.Within k x} s)
    (hcovers : ∀ n ∈ s.repository.declarations.keys, Covers a s n) :
    Charted a {x | a.Within (k + 1) x} (Run.round a.guide s) ∧
      Frontier a (k + 1) (Run.round a.guide s) := by
  have ht := h.settleAll ha hs
  have hsettles := settles_round a.guide s
  have hwithin (x : Text) : a.Within (k + 1) x ↔ a.Within k x ∨
      ∃ i ∈ s.resolver.pending.values, i.isOnPath = false ∧ i.name = x :=
    h.within_succ_iff ha hs hcovers
  have hnames : {x | a.Within k x} ∪ taken (s.outcomes a.guide) = {x | a.Within (k + 1) x} := by
    ext x
    rw [Set.mem_ofPred_eq, hwithin]
    apply or_congr Iff.rfl
    constructor
    · rintro ⟨p, hp, hplain, hname⟩
      obtain ⟨i, hi, rfl⟩ := List.mem_map.mp hp
      exact ⟨i, hi, hplain, hname⟩
    · rintro ⟨i, hi, hplain, hname⟩
      exact ⟨_, List.mem_map_of_mem hi, hplain, hname⟩
  rw [hnames] at ht
  have hempty : (Run.round a.guide s).resolver.pending = .empty := hsettles.pending
  have hnothing {i : Item} (hi : i ∈ (Run.round a.guide s).resolver.pending.values) : False := by
    rw [hempty] at hi
    cases hi
  refine ⟨⟨ht.stored, ht.faithful, ht.pages, ht.circular, ht.types, ht.ancestry, ht.missing⟩,
    waits_of_pending_empty hempty, ?_, ?_, ?_, fun i hi => (hnothing hi).elim,
    fun i hi => (hnothing hi).elim⟩
  · intro x hx
    rw [h.waits.pending_round h.pending] at hx
    cases hx
  · intro x hx
    rw [hsettles.visited]
    rcases (hwithin x).mp hx with hnear | ⟨i, hi, hplain, rfl⟩
    · exact h.marked x hnear
    · obtain ⟨_, _, hlocation, hvisited⟩ := h.plain i hi hplain
      exact hlocation ▸ hvisited
  · intro location hl
    rw [hsettles.visited] at hl
    obtain ⟨x, hx, hfound⟩ := h.known location hl
    exact ⟨x, hx, .inl ((hwithin x).mpr hfound)⟩

end Frontier

end TypeAtlas
