import TypeAtlas.Proofs.Resolution.Bounds

/-!
What becomes of the links that are found. A look passes a link over only where its name is known,
reported or waiting, or where it leads to a location that has been visited; all of these last,
except that what waits is settled in the next round. There a link may be missed: of two links of one
name that a look finds, the second is passed over for the first, and is not taken up again when the
page of the first gives no declaration.
-/

namespace TypeAtlas

/-- A page that gives no declaration: it is that of a namespace, cannot be had, or declares
nothing. -/
inductive Guide.Barren (g : Guide) (location : Text) : Prop
  | putOff (h : Location.isNamespacePage location = true)
  | failed (fault : PageFault) (h : g.fetcher.fetch location = .error fault)
  | empty (p : ParsedPage) (h : g.fetcher.fetch location = .ok p) (hp : p.declaration = none)

namespace Run

variable {g : Guide} {name : Text} {x : Dependency} {path : List Text} {s t u : Run} {k : Nat}

/-- The run as it begins its `k`-th look through the declarations. -/
def entering (g : Guide) (s : Run) : Nat → Run
  | 0 => s
  | k + 1 => round g (stage g s k)

/-- The `k`-th look goes through the declaration. -/
structure Looked (g : Guide) (s : Run) (k : Nat) (name : Text) : Prop where
  stored : name ∈ (entering g s k).repository.declarations.keys
  new : name ∉ (entering g s k).resolver.scanned.keys

/-- A link is heeded if it is one to the declaration itself, if something is known about its name,
or if the location that it leads to has been visited. -/
inductive Heeded (g : Guide) (t : Run) (name : Text) (x : Dependency) : Prop
  | own (h : x.fullName = name)
  | stored (h : x.fullName ∈ t.repository.declarations.keys)
  | typed (h : x.fullName ∈ t.resolver.context.visited.keys)
  | circular (h : x.fullName ∈ t.resolver.circular.keys)
  | visited (location : Text) (hl : g.Leads x location)
      (h : location ∈ t.repository.visited.keys)

/-- An item of the same name was settled in the round after the `k`-th look, and the page at its
location, which had been visited, gave no declaration. -/
def Missed (g : Guide) (t : Run) (k : Nat) (x : Dependency) : Prop :=
  ∃ round, t.resolver.rounds[k]? = some round ∧ ∃ i ∈ round.items,
    i.name = x.fullName ∧ i.location ∈ t.repository.visited.keys ∧ g.Barren i.location

/-- What has become of a link, given the path of the declaration in which it was found. -/
inductive Fate (g : Guide) (k : Nat) (path : List Text) (name : Text) (x : Dependency)
    (t : Run) : Prop
  | own (h : x.fullName = name)
  | reported (h : x.fullName ∈ t.resolver.circular.keys)
  | apart (hpath : x.fullName ∉ path) (h : Heeded g t name x ∨ Missed g t k x)

/-- What becomes of a link when it is offered. -/
inductive Due (g : Guide) (name : Text) (x : Dependency) (t : Run) : Prop
  | own (h : x.fullName = name)
  | reported (h : x.fullName ∈ t.resolver.circular.keys)
  | closing (i : Item) (hi : i ∈ t.resolver.pending.values) (hname : i.name = x.fullName)
      (hpath : i.name ∈ i.path)
  | heeded (hpath : x.fullName ∉ t.trail name) (h : Heeded g t name x)
  | waiting (hpath : x.fullName ∉ t.trail name) (i : Item) (hi : i ∈ t.resolver.pending.values)
      (hname : i.name = x.fullName) (hplain : i.name ∉ i.path)

theorem Heeded.gains (h : Heeded g s name x) (ht : Gains s t)
    (hvisited : s.repository.visited.keys ⊆ t.repository.visited.keys) : Heeded g t name x := by
  cases h with
  | own h => exact .own h
  | stored h => exact .stored (ht.keys h)
  | typed h => exact .typed (ht.types h)
  | circular h => exact .circular (ht.circular h)
  | visited location hl h => exact .visited location hl (hvisited h)

/-- What has become of a link lasts. -/
theorem Fate.gains (h : Fate g k path name x s) (ht : Gains s t)
    (hvisited : s.repository.visited.keys ⊆ t.repository.visited.keys)
    (hrounds : s.resolver.rounds <+: t.resolver.rounds) : Fate g k path name x t := by
  cases h with
  | own h => exact .own h
  | reported h => exact .reported (ht.circular h)
  | apart hpath h =>
    refine .apart hpath (h.imp (fun h => h.gains ht hvisited) ?_)
    rintro ⟨round, hround, i, hi, hname, hlocation, hbarren⟩
    obtain ⟨rest, hrest⟩ := hrounds
    have hkept : t.resolver.rounds[k]? = some round := by
      rw [← hrest, List.getElem?_append_left (List.getElem?_eq_some_iff.mp hround).1, hround]
    exact ⟨round, hkept, i, hi, hname, hvisited hlocation, hbarren⟩

theorem Due.spreads (h : Due g name x s) (ht : Spreads s t) : Due g name x t := by
  have htrail : t.trail name = s.trail name := by
    rw [trail, Context.pathTo, ht.looks.ancestry]
    rfl
  have hgains := ht.looks.gains
  cases h with
  | own h => exact .own h
  | reported h => exact .reported (hgains.circular h)
  | closing i hi hname hpath => exact .closing i (ht.pending hi) hname hpath
  | heeded hpath h => exact .heeded (htrail ▸ hpath) (h.gains hgains ht.visited)
  | waiting hpath i hi hname hplain =>
    exact .waiting (htrail ▸ hpath) i (ht.pending hi) hname hplain

/-- With nothing left to do, nothing waits. -/
theorem Due.fate (h : Due g name x t) (hdone : t.resolver.pending.entries = []) :
    Fate g k (t.trail name) name x t := by
  have hnothing {i : Item} (hi : i ∈ t.resolver.pending.values) : False := by
    rw [Keyed.values, hdone] at hi
    cases hi
  cases h with
  | own h => exact .own h
  | reported h => exact .reported h
  | closing i hi => exact (hnothing hi).elim
  | heeded hpath h => exact .apart hpath (.inl h)
  | waiting _ i hi => exact (hnothing hi).elim

/-! What the offers rely on. -/

/-- Paths lead through stored declarations. An item that closes no cycle waits for a name that is
not stored, and its location has been visited. -/
structure Poised (s : Run) : Prop where
  waits : s.Waits
  waiting : s.resolver.context.pending.keys ⊆ s.resolver.pending.keys
  ancestry : ∀ name path, s.resolver.context.ancestry.get? name = some path →
    path ⊆ s.repository.declarations.keys
  paths : ∀ i ∈ s.resolver.pending.values, i.path ⊆ s.repository.declarations.keys
  plain : ∀ i ∈ s.resolver.pending.values, i.name ∉ i.path →
    i.name ∉ s.repository.declarations.keys ∧ i.location ∈ s.repository.visited.keys

namespace Poised

theorem trail (h : s.Poised) (hname : name ∈ s.repository.declarations.keys) :
    s.trail name ⊆ s.repository.declarations.keys := by
  apply List.append_subset.mpr ⟨?_, List.cons_subset.mpr ⟨hname, List.nil_subset _⟩⟩
  rw [Context.pathTo]
  cases hpath : s.resolver.context.ancestry.get? name with
  | none => exact List.nil_subset _
  | some path => exact h.ancestry name path hpath

/-- One more item waits. -/
theorem enqueue (h : s.Poised) {i : Item} (hpending : i.name ∉ s.resolver.pending.keys)
    (hcircular : i.name ∉ s.resolver.circular.keys)
    (hpath : i.path ⊆ s.repository.declarations.keys) (hplain : i.name ∉ i.path →
      i.name ∉ s.repository.declarations.keys ∧ i.location ∈ s.repository.visited.keys) :
    (s.enqueue i).Poised := by
  have hvalues : (s.enqueue i).resolver.pending.values = s.resolver.pending.values ++ [i] :=
    Keyed.values_set_of_not_mem hpending
  refine ⟨h.waits.enqueue hpending hcircular, ?_, h.ancestry, ?_, ?_⟩
  · intro y hy
    rcases Names.mem_keys_add.mp hy with rfl | hy
    · exact Keyed.mem_keys_set.mpr (.inl rfl)
    · exact Keyed.mem_keys_set.mpr (.inr (h.waiting hy))
  · intro j hj
    rcases List.mem_append.mp (hvalues ▸ hj) with hj | hj
    · exact h.paths j hj
    · exact List.mem_singleton.mp hj ▸ hpath
  · intro j hj hj'
    rcases List.mem_append.mp (hvalues ▸ hj) with hj | hj
    · exact h.plain j hj hj'
    · rw [List.mem_singleton.mp hj] at hj' ⊢
      exact hplain hj'

theorem visit (h : s.Poised) (location : Text) : (s.visit location).Poised :=
  ⟨⟨h.waits.named, h.waits.apart⟩, h.waiting, h.ancestry, h.paths, fun i hi hplain =>
    ⟨(h.plain i hi hplain).1, Names.mem_keys_add.mpr (.inr (h.plain i hi hplain).2)⟩⟩

theorem offered (h : s.Poised) (hname : name ∈ s.repository.declarations.keys)
    (ht : Offered g name x s t) : t.Poised := by
  cases ht with
  | settled | known | visited => exact h
  | closing location hs _ hp =>
    obtain ⟨_, _, hcircular, hpending, _⟩ := unsettled hs
    exact h.enqueue hpending hcircular (h.trail hname) fun hplain => absurd hp hplain
  | fresh location hs _ _ hk =>
    obtain ⟨_, _, hcircular, hpending, _⟩ := unsettled hs
    refine (h.visit location).enqueue hpending hcircular (h.trail hname) fun _ => ⟨?_, ?_⟩
    · exact Keyed.contains_eq_false_iff.mp (Bool.or_eq_false_iff.mp hk).2
    · exact Names.mem_keys_add.mpr (.inl rfl)

/-- Where a link is passed over for an item of its name, this item waits. -/
theorem due_of_waiting (h : s.Poised) (hname : name ∈ s.repository.declarations.keys)
    (hpending : x.fullName ∈ s.resolver.pending.keys) : Due g name x s := by
  rw [← h.waits.named] at hpending
  obtain ⟨i, hi, hx⟩ := List.mem_map.mp hpending
  by_cases hpath : i.name ∈ i.path
  · exact .closing i hi hx hpath
  · refine .waiting (fun hmem => ?_) i hi hx hpath
    exact (h.plain i hi hpath).1 (hx ▸ h.trail hname hmem)

theorem due (h : s.Poised) (hname : name ∈ s.repository.declarations.keys)
    (hlinked : x.isLinked = true) (ht : Offered g name x s t) : Due g name x t := by
  cases ht with
  | settled hs =>
    unfold isSettled at hs
    simp only [hlinked, Bool.not_true, Bool.false_or, Bool.or_eq_true, decide_eq_true_eq,
      Names.has_iff, Keyed.contains_iff, Context.isPending] at hs
    rcases hs with ((hown | hcircular) | hpending) | hpending
    · exact .own hown
    · exact .reported hcircular
    · exact h.due_of_waiting hname hpending
    · exact h.due_of_waiting hname (h.waiting hpending)
  | known hp hk =>
    refine .heeded hp ?_
    rcases Bool.or_eq_true_iff.mp hk with htyped | hstored
    · exact .typed (Names.has_iff.mp htyped)
    · exact .stored (Keyed.contains_iff.mp hstored)
  | visited location hl hp hv => exact .heeded hp (.visited location hl hv)
  | closing location hs hl hp =>
    have hwaits : (⟨x, location, s.trail name⟩ : Item) ∈
        (s.enqueue ⟨x, location, s.trail name⟩).resolver.pending.values := by
      obtain ⟨_, _, _, hpending, _⟩ := unsettled hs
      rw [show (s.enqueue ⟨x, location, s.trail name⟩).resolver.pending.values = _ from
        Keyed.values_set_of_not_mem hpending]
      exact List.mem_append_right _ List.mem_cons_self
    exact .closing _ hwaits rfl hp
  | fresh location _ hl hp =>
    exact .heeded hp (.visited location hl (Names.mem_keys_add.mpr (.inl rfl)))

/-! Settling a round. -/

theorem ancestry_settle {i : Item} {o : Outcome}
    (h : (t.settle i o).resolver.context.ancestry.get? name = some path) :
    t.resolver.context.ancestry.get? name = some path ∨ path = i.path := by
  cases o with
  | skipped | deferred | failed => exact .inl h
  | circular told way =>
    simp only [settle, recordCircular] at h
    split at h <;> exact .inl h
  | page p =>
    cases hd : p.declaration with
    | none =>
      rw [settle_of_none hd] at h
      exact .inl h
    | some d =>
      rw [settle_of_some hd] at h
      obtain ⟨pages, hrecord, _⟩ :=
        ((t.onContext (·.dropPending i.name)).store d).record_eq d p.kept i.path
      rw [hrecord] at h
      change (t.resolver.context.ancestry.setNew d.fullName i.path).get? name = some path at h
      exact (Keyed.eq_of_get?_setNew h).imp id fun hnew => hnew.2.1

theorem round (g : Guide) (h : s.Poised) : (round g s).Poised := by
  have hsettles := settles_round g s
  have hpending : (Run.round g s).resolver.pending = .empty := hsettles.pending
  have hnothing {i : Item} (hi : i ∈ (Run.round g s).resolver.pending.values) : False := by
    rw [hpending] at hi
    cases hi
  refine ⟨waits_of_pending_empty hpending, ?_, ?_, fun i hi => (hnothing hi).elim,
    fun i hi => (hnothing hi).elim⟩
  · rw [h.waits.pending_round h.waiting]
    exact List.nil_subset _
  · have hsettled : ∀ name path,
        (s.opened.settleAll (s.outcomes g)).resolver.context.ancestry.get? name = some path →
          path ⊆ (s.opened.settleAll (s.outcomes g)).repository.declarations.keys := by
      apply (settleAll_spec (s := s.opened) fun _ t => Gains s t ∧ ∀ name path,
        t.resolver.context.ancestry.get? name = some path →
          path ⊆ t.repository.declarations.keys) ⟨_, h.ancestry⟩ _ |>.2
      · exact .of_same rfl rfl (List.Subset.refl _) (List.Subset.refl _) rfl
      · rintro done i o t hpart ⟨hst, ht⟩
        have hgains := gains_settle t i o
        refine ⟨hst.trans hgains, ?_⟩
        intro name path hpath
        rcases ancestry_settle hpath with hpath | rfl
        · exact List.Subset.trans (ht name path hpath) hgains.keys
        · have hmem : (i, o) ∈ s.outcomes g := hpart.subset (by simp)
          obtain ⟨i, hi, hio⟩ := List.mem_map.mp hmem
          cases hio
          exact List.Subset.trans (h.paths i hi) (hst.trans hgains).keys
    exact hsettled

end Poised

/-- An item that closes a cycle is reported in its round. -/
theorem reported_of_closing (g : Guide) {i : Item} (hi : i ∈ s.resolver.pending.values)
    (hpath : i.name ∈ i.path) : i.name ∈ (round g s).resolver.circular.keys := by
  by_cases hold : i.name ∈ s.resolver.circular.keys
  · exact (gains_round g s).circular hold
  · have ho : s.outcome g i = .circular i.name i.path := by
      rw [outcome, Names.has_eq_false_iff.mpr hold, Item.isOnPath_iff.mpr hpath]
      rfl
    have hmem : (i, Outcome.circular i.name i.path) ∈ s.outcomes g :=
      ho ▸ List.mem_map_of_mem hi
    apply settleAll_of_mem (P := fun t => i.name ∈ t.resolver.circular.keys) hmem
    · intro t
      have hcircular := circular_recordCircular (t.onContext (·.dropPending i.name)) i.name i.path
      exact hcircular ▸ Names.mem_keys_add.mpr (.inl rfl)
    · exact fun t j o ht => (gains_settle t j o).circular ht

/-- An item that closes no cycle has its name dealt with or reported in its round, or the page at
its location gives no declaration. -/
theorem settled_of_plain (g : Guide) {i : Item} (hi : i ∈ s.resolver.pending.values)
    (hplain : i.name ∉ i.path) : i.name ∈ (round g s).resolver.context.visited.keys ∨
      i.name ∈ (round g s).resolver.circular.keys ∨ g.Barren i.location := by
  have hmem : (i, s.outcome g i) ∈ s.outcomes g := List.mem_map_of_mem hi
  have hcomes := comesTo g s i
  generalize s.outcome g i = o at hmem hcomes
  cases hcomes with
  | skipped hcircular => exact .inr (.inl ((gains_round g s).circular hcircular))
  | closing hpath => exact absurd hpath hplain
  | deferred hnamespace => exact .inr (.inr (.putOff hnamespace))
  | told _ _ hfetch => exact .inr (.inr (.failed _ hfetch))
  | failed fault hfetch => exact .inr (.inr (.failed fault hfetch))
  | page p _ hfetch =>
    cases hd : p.declaration with
    | none => exact .inr (.inr (.empty p hfetch hd))
    | some d =>
      left
      apply settleAll_of_mem (P := fun t => i.name ∈ t.resolver.context.visited.keys) hmem
      · intro t
        rw [settle_of_some hd]
        exact Names.mem_keys_add.mpr (.inl rfl)
      · exact fun t j o ht => (gains_settle t j o).types ht

/-- What is due of a link is decided in the next round. -/
theorem Due.round (g : Guide) (h : Due g name x s) (hs : s.Poised)
    (hcount : s.resolver.rounds.length = k) :
    Fate g k (s.trail name) name x (round g s) := by
  have hgains := gains_round g s
  have hsettles := settles_round g s
  cases h with
  | own h => exact .own h
  | reported h => exact .reported (hgains.circular h)
  | closing i hi hname hpath => exact .reported (hname ▸ reported_of_closing g hi hpath)
  | heeded hpath h =>
    exact .apart hpath (.inl (h.gains hgains (hsettles.visited ▸ List.Subset.refl _)))
  | waiting hpath i hi hname hplain =>
    refine .apart hpath ?_
    rcases settled_of_plain g hi hplain with htyped | hcircular | hbarren
    · exact .inl (.typed (hname ▸ htyped))
    · exact .inl (.circular (hname ▸ hcircular))
    · have hround : (Run.round g s).resolver.rounds[k]? =
          some ⟨s.resolver.stats.rounds + 1, s.resolver.pending.values⟩ := by
        rw [hsettles.rounds, rounds_opened, ← hcount, List.getElem?_concat_length]
      have hvisited : i.location ∈ (Run.round g s).repository.visited.keys := by
        rw [hsettles.visited]
        exact (hs.plain i hi hplain).2
      exact .inr ⟨_, hround, i, hi, hname, hvisited, hbarren⟩

/-! All rounds. -/

/-- After `k` rounds, just the stored declarations have been looked through. What the looks before
the last one found has met its fate, and what the last one found is due. -/
structure Attended (g : Guide) (s : Run) (k : Nat) (t : Run) : Prop where
  poised : t.Poised
  scanned : ∀ name, name ∈ t.resolver.scanned.keys ↔ name ∈ t.repository.declarations.keys
  count : t.resolver.rounds.length = k
  uncapped : t.resolver.stats.isCapped = false
  read : ∀ name ∈ t.repository.declarations.keys, ∃ j ≤ k, Looked g s j name ∧
    Gains (entering g s j) t ∧ ∀ x, LinksTo g (entering g s j) name x →
      Fate g j ((entering g s j).trail name) name x t ∨
        j = k ∧ t.trail name = (entering g s j).trail name ∧ Due g name x t

theorem Poised.discover (hroot : g.settings.documentRoot = none) (h : s.Poised)
    (hleads : ∀ name x, LinksTo g s name x → ∃ location, g.Leads x location) :
    ∃ t, (discover g).run s = (.ok (), t) ∧ t.Poised ∧ Spreads s t ∧
      (∀ name, name ∈ t.resolver.scanned.keys ↔
        name ∈ s.resolver.scanned.keys ∨ name ∈ s.repository.declarations.keys) ∧
      ∀ name x, name ∉ s.resolver.scanned.keys → LinksTo g s name x → Due g name x t := by
  refine Reads.discover ⟨hleads, ?_, ?_, fun _ _ _ _ ht hu => hu.spreads ht⟩ hroot h
  · exact fun u name links _ hu =>
      ⟨⟨hu.waits.named, hu.waits.apart⟩, hu.waiting, hu.ancestry, hu.paths, hu.plain⟩
  · rintro name x u t ⟨d, hd, _, hlinked⟩ hsu hu ht
    have hname : name ∈ u.repository.declarations.keys := by
      rw [hsu.looks.declarations]
      exact Keyed.mem_keys_iff.mpr ⟨d, hd⟩
    exact ⟨hu.offered hname ht, hu.due hname hlinked ht⟩

namespace Attended

theorem trail_looks (h : Looks s t) (name : Text) : t.trail name = s.trail name := by
  rw [trail, Context.pathTo, h.ancestry]
  rfl

theorem first (hroot : g.settings.documentRoot = none) (h : s.Poised) (hs : s.Unresolved)
    (hleads : ∀ name x, LinksTo g s name x → ∃ location, g.Leads x location) :
    ∃ t, (discover g).run s = (.ok (), t) ∧ Attended g s 0 t := by
  obtain ⟨t, hrun, ht, hspreads, hscanned, hdue⟩ := h.discover hroot hleads
  have hlooks := hspreads.looks
  have hnew (name : Text) : name ∉ s.resolver.scanned.keys := by
    rw [hs.scanned]
    exact List.not_mem_nil
  refine ⟨t, hrun, ht, ?_, ?_, ?_, ?_⟩
  · intro name
    rw [hscanned, hlooks.declarations, or_iff_right (hnew name)]
  · rw [hlooks.rounds, hs.rounds]
    rfl
  · rw [hlooks.stats, hs.stats]
    rfl
  · intro name hname
    rw [hlooks.declarations] at hname
    exact ⟨0, Nat.le_refl 0, ⟨hname, hnew name⟩, hlooks.gains,
      fun x hx => .inr ⟨rfl, trail_looks hlooks name, hdue name x (hnew name) hx⟩⟩

theorem step (hroot : g.settings.documentRoot = none) (h : Attended g s k (stage g s k))
    (hleads : ∀ name x, LinksTo g (Run.round g (stage g s k)) name x →
      ∃ location, g.Leads x location) :
    ∃ t, (discover g).run (Run.round g (stage g s k)) = (.ok (), t) ∧ Attended g s (k + 1) t := by
  have hsettles := settles_round g (stage g s k)
  have hround := gains_round g (stage g s k)
  obtain ⟨t, hrun, ht, hspreads, hscanned, hdue⟩ := (h.poised.round g).discover hroot hleads
  have hlooks := hspreads.looks
  have hgains : Gains (stage g s k) t := hround.trans hlooks.gains
  have hvisited : (Run.round g (stage g s k)).repository.visited.keys ⊆ t.repository.visited.keys :=
    hspreads.visited
  have hscanned' (name : Text) : name ∈ (Run.round g (stage g s k)).resolver.scanned.keys ↔
      name ∈ (stage g s k).repository.declarations.keys := by
    rw [hsettles.scanned]
    exact h.scanned name
  refine ⟨t, hrun, ht, ?_, ?_, ?_, ?_⟩
  · intro name
    rw [hscanned, hscanned', hlooks.declarations]
    exact or_iff_right_of_imp fun hname => hround.keys hname
  · rw [hlooks.rounds, hsettles.rounds, rounds_opened, List.length_append, h.count]
    rfl
  · rw [hlooks.stats, (counts_round g _).2, h.uncapped]
  · intro name hname
    rw [hlooks.declarations] at hname
    by_cases hold : name ∈ (stage g s k).repository.declarations.keys
    · obtain ⟨j, hj, hlooked, hback, hread⟩ := h.read name hold
      refine ⟨j, Nat.le_succ_of_le hj, hlooked, hback.trans hgains, fun x hx => .inl ?_⟩
      have hrounds : (Run.round g (stage g s k)).resolver.rounds <+: t.resolver.rounds := by
        rw [hlooks.rounds]
      rcases hread x hx with hfate | ⟨rfl, htrail, hdue⟩
      · apply hfate.gains hgains (hsettles.visited ▸ hvisited)
        refine List.IsPrefix.trans ?_ hrounds
        rw [hsettles.rounds, rounds_opened]
        exact List.prefix_append _ _
      · rw [← htrail]
        exact (hdue.round g h.poised h.count).gains hlooks.gains hvisited hrounds
    · have hnew := (hscanned' name).not.mpr hold
      exact ⟨k + 1, Nat.le_refl _, ⟨hname, hnew⟩, hlooks.gains,
        fun x hx => .inr ⟨rfl, trail_looks hlooks name, hdue name x hnew hx⟩⟩

end Attended

theorem Unresolved.poised (h : s.Unresolved) (hpaths : ∀ name path,
    s.resolver.context.ancestry.get? name = some path → path = []) : s.Poised := by
  have hnothing {i : Item} (hi : i ∈ s.resolver.pending.values) : False := by
    rw [h.pending] at hi
    cases hi
  refine ⟨waits_of_pending_empty h.pending, ?_, ?_, fun i hi => (hnothing hi).elim,
    fun i hi => (hnothing hi).elim⟩
  · rw [h.waiting]
    exact List.nil_subset _
  · intro name path hpath
    rw [hpaths name path hpath]
    exact List.nil_subset _

theorem path_seed {p : ParsedPage} (h : ∀ name path,
      s.resolver.context.ancestry.get? name = some path → path = [])
    (hpath : (s.seed p).2.resolver.context.ancestry.get? name = some path) : path = [] := by
  unfold Run.seed at hpath
  cases hd : p.declaration with
  | none =>
    cases hnamespace : p.isNamespace <;> rw [hd, hnamespace] at hpath <;> exact h name path hpath
  | some d =>
    rw [hd] at hpath
    obtain ⟨pages, hrecord, _⟩ := (s.visit p.source).record_eq d p.kept []
    change (((s.visit p.source).record d p.kept []).store d).resolver.context.ancestry.get? name =
      some path at hpath
    rw [hrecord] at hpath
    change (s.resolver.context.ancestry.setNew d.fullName []).get? name = some path at hpath
    exact (Keyed.eq_of_get?_setNew hpath).elim (h name path) fun hnew => hnew.2.1

theorem path_seedAll {pages : List ParsedPage} (h : ∀ name path,
      s.resolver.context.ancestry.get? name = some path → path = [])
    (hpath : (s.seedAll pages).resolver.context.ancestry.get? name = some path) : path = [] := by
  induction pages generalizing s with
  | nil => exact h name path hpath
  | cons p pages ih => exact ih (fun _ _ hpath => path_seed h hpath) hpath

theorem poised_seedAll (g : Guide) (r : Repository) (pages : List ParsedPage) :
    ((fresh g r).seedAll pages).Poised := by
  have hfresh (name : Text) (path : List Text)
      (hpath : (Keyed.empty : Keyed Text (List Text)).get? name = some path) : path = [] := by
    rw [Keyed.get?_empty] at hpath
    cases hpath
  exact ((unresolved_fresh g r).seedAll pages).poised fun _ _ hpath => path_seedAll hfresh hpath

theorem gains_finish (g : Guide) (s : Run) : Gains s (finish g s) := by
  obtain ⟨isCapped, hresolver⟩ := finish_resolver g s
  apply Gains.of_same
  · rw [finish_repository]
  · rw [hresolver]
  · rw [hresolver]
    exact List.Subset.refl _
  · rw [hresolver]
    exact List.Subset.refl _
  · rw [hresolver]

/-- When nothing is left to do, every link has met its fate. -/
theorem Attended.finish {n : Nat} (h : Attended g s n t)
    (hdone : (finish g t).resolver.stats.isCapped = false) :
    ∀ name ∈ (finish g t).repository.declarations.keys, ∃ k ≤ n, Looked g s k name ∧
      Gains (entering g s k) (finish g t) ∧ ∀ x, LinksTo g (entering g s k) name x →
        Fate g k ((entering g s k).trail name) name x (finish g t) := by
  have hgains := gains_finish g t
  have hempty : t.resolver.pending.entries = [] := by
    by_contra hbusy
    rw [(isCapped_finish h.uncapped).mpr hbusy] at hdone
    cases hdone
  have hvisited : t.repository.visited.keys ⊆ (Run.finish g t).repository.visited.keys := by
    rw [finish_repository]
    exact List.Subset.refl _
  have hrounds : t.resolver.rounds <+: (Run.finish g t).resolver.rounds := by
    obtain ⟨isCapped, hresolver⟩ := finish_resolver g t
    rw [hresolver]
  intro name hname
  rw [finish_repository] at hname
  obtain ⟨k, hk, hlooked, hback, hread⟩ := h.read name hname
  refine ⟨k, hk, hlooked, hback.trans hgains, fun x hx => ?_⟩
  rcases hread x hx with hfate | ⟨_, htrail, hdue⟩
  · exact hfate.gains hgains hvisited hrounds
  · rw [← htrail]
    exact (hdue.fate hempty).gains hgains hvisited hrounds

/-- When a resolution ends with nothing left to do, every stored declaration was looked through
once, and each link that was found in it then has been heeded; or a link of the same name, found in
the same look, was followed in its stead, to a page that gives no declaration. The links found are
those that the declaration has in the end, provided its page was known. -/
theorem links_heeded (g : Guide) (hroot : g.settings.documentRoot = none)
    (hresolve : ∀ link source, ∃ location, g.fetcher.resolve link source = .ok location)
    (r : Repository) (pages : List ParsedPage) :
    ∃ n stats t, (resolveAll g).run ((fresh g r).seedAll pages) = (.ok stats, t) ∧
      t = finish g (stage g ((fresh g r).seedAll pages) n) ∧ (stats.isCapped = false →
        ∀ name ∈ t.repository.declarations.keys,
          ∃ k ≤ n, Looked g ((fresh g r).seedAll pages) k name ∧
            (∀ x, LinksTo g (entering g ((fresh g r).seedAll pages) k) name x →
              Heeded g t name x ∨ Missed g t k x) ∧
            (name ∈ (entering g ((fresh g r).seedAll pages) k).resolver.pages.keys →
              ∀ x, LinksTo g t name x →
                LinksTo g (entering g ((fresh g r).seedAll pages) k) name x)) := by
  have hlinks (d : Dependency) : ∃ location, g.Leads d location := hresolve _ _
  let s := (fresh g r).seedAll pages
  have hunresolved : s.Unresolved := (unresolved_fresh g r).seedAll pages
  obtain ⟨n, hcourse, hattended⟩ := resolveAll_run (I := Attended g s)
    (Attended.first hroot (poised_seedAll g r pages) hunresolved fun _ x _ => hlinks x)
    fun k h _ => h.step hroot fun _ x _ => hlinks x
  refine ⟨n, _, _, hcourse.run, rfl, ?_⟩
  intro hdone name hname
  obtain ⟨k, hk, hlooked, hback, hread⟩ := (hattended n (Nat.le_refl n)).finish hdone name hname
  refine ⟨k, hk, hlooked, ?_, fun hpage x hx => hx.of_gains hback hlooked.stored hpage⟩
  intro x hx
  cases hread x hx with
  | own h => exact .inl (.own h)
  | reported h => exact .inl (.circular h)
  | apart _ h => exact h

/-- The page of "D" has been visited, and the name of "A" is stored. -/
theorem links_heeded_sample :
    ∃ t, ((resolveAll Sample.guide).run ((fresh Sample.guide .empty).seedAll [Sample.seed])).2 = t ∧
      ∃ k, Looked Sample.guide ((fresh Sample.guide .empty).seedAll [Sample.seed]) k "B" ∧ ∀ x,
        LinksTo Sample.guide (entering Sample.guide
          ((fresh Sample.guide .empty).seedAll [Sample.seed]) k) "B" x →
            Heeded Sample.guide t "B" x ∨ Missed Sample.guide t k x := by
  obtain ⟨n, stats, t, hrun, _, hread⟩ :=
    links_heeded Sample.guide rfl Sample.leads .empty [Sample.seed]
  have hends : (((resolveAll Sample.guide).run ((fresh Sample.guide .empty).seedAll
      [Sample.seed])).1.map (·.isCapped)).toOption = some false := by decide +kernel
  have hstored : "B".toList ∈ ((resolveAll Sample.guide).run ((fresh Sample.guide .empty).seedAll
      [Sample.seed])).2.repository.declarations.keys := by decide +kernel
  rw [hrun] at hends hstored
  obtain ⟨k, _, hlooked, hheeded, _⟩ := hread (Option.some.inj hends) "B" hstored
  exact ⟨t, congrArg Prod.snd hrun, k, hlooked, hheeded⟩

end Run

namespace Sample

/-- A class whose parents have their pages at other locations. -/
def pageTo (name : Text) (links : List (Text × Text)) : ParsedPage :=
  { page name (links.map Prod.fst) with kept := some ⟨name, links⟩ }

/-- "B" and "C" refer to "X" by links to different pages; the first of them is missing. -/
def fetchForked (location : Text) : Except PageFault ParsedPage :=
  if location = "B" then .ok (pageTo "B" [("X", "x1.html")])
  else if location = "C" then .ok (pageTo "C" [("X", "x2.html")])
  else .error (.unexplained "gone")

def forked : Guide := { guide with fetcher := { guide.fetcher with fetch := fetchForked } }

end Sample

namespace Run

/-- The second link to a name is given up with the first. -/
theorem links_heeded_forked : ¬ ∀ (g : Guide) (p : ParsedPage), g.settings.documentRoot = none →
    (∀ link source, ∃ location, g.fetcher.resolve link source = .ok location) →
    ∀ stats t, (resolveAll g).run (seeded g p) = (.ok stats, t) → stats.isCapped = false →
      ∀ name ∈ t.repository.declarations.keys, ∀ x, LinksTo g t name x → Heeded g t name x := by
  intro hall
  let s := seeded Sample.forked Sample.seed
  have hends : (((resolveAll Sample.forked).run s).1.map (·.isCapped)).toOption = some false := by
    decide +kernel
  have hstored :
      "C".toList ∈ ((resolveAll Sample.forked).run s).2.repository.declarations.keys := by
    decide +kernel
  have hlinks : (((resolveAll Sample.forked).run s).2.repository.declarations.get? "C").any
      (fun d => (Sample.forked.uses "C" d
        (((resolveAll Sample.forked).run s).2.resolver.pages.get? "C")).any fun x =>
          x.isLinked && x.fullName = "X" && x.link = some "x2.html".toList) = true := by
    decide +kernel
  have hunknown : "X".toList ∉ ((resolveAll Sample.forked).run s).2.repository.declarations.keys ∧
      "X".toList ∉ ((resolveAll Sample.forked).run s).2.resolver.context.visited.keys ∧
      "X".toList ∉ ((resolveAll Sample.forked).run s).2.resolver.circular.keys ∧
      "x2.html".toList ∉ ((resolveAll Sample.forked).run s).2.repository.visited.keys := by
    decide +kernel
  rcases hrun : (resolveAll Sample.forked).run s with ⟨_ | stats, t⟩
  · rw [hrun] at hends
    cases hends
  rw [hrun] at hends hstored hlinks hunknown
  obtain ⟨hname, htyped, hcircular, hvisited⟩ := hunknown
  obtain ⟨d, hd, hany⟩ := (Option.any_eq_true _ _).mp hlinks
  obtain ⟨x, hx, hx'⟩ := List.any_eq_true.mp hany
  simp only [Bool.and_eq_true, decide_eq_true_eq] at hx'
  obtain ⟨⟨hlinked, hfull⟩, hlink⟩ := hx'
  cases hall Sample.forked Sample.seed rfl Sample.leads stats t hrun (Option.some.inj hends) "C"
    hstored x ⟨d, hd, hx, hlinked⟩ with
  | own h =>
    rw [hfull] at h
    exact absurd h (by decide)
  | stored h => exact hname (hfull ▸ h)
  | typed h => exact htyped (hfull ▸ h)
  | circular h => exact hcircular (hfull ▸ h)
  | visited location hl h =>
    have hlocation : location = x.link.getD [] := (Except.ok.inj hl).symm
    rw [hlocation, hlink] at h
    exact hvisited h

end Run

end TypeAtlas
