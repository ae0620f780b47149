import Mathlib.Data.Set.Card
import TypeAtlas.Proofs.Resolution.Frontier

/-!
A run over a consistent set of pages is a breadth-first search. Each round stores the declarations
that are one link further from the seed, up to the limit of rounds, and counts the names whose pages
cannot be had or declare nothing.
-/

namespace TypeAtlas

open Run

variable {a : Atlas} {k n : Nat} {s : Run}

theorem charted_seeded (ha : a.Consistent) :
    Charted a {x | a.Within 0 x} (seeded a.guide a.seed) := by
  let s : Run := (start a.guide.settings.roundLimit).visit a.seed.source
  have hstart : Charted a ∅ s := by
    refine ⟨?_, nofun, nofun, nofun, nofun, nofun, [], List.nodup_nil, ?_, rfl⟩
    · intro x
      exact ⟨nofun, fun h => h.1.elim⟩
    · intro x
      exact ⟨nofun, fun h => h.1.elim⟩
  have hroot : {x | a.Within 0 x} = insert a.root ∅ := by
    ext x
    rw [Set.mem_ofPred_eq, Atlas.within_zero_iff, Set.mem_insert_iff]
    exact ⟨.inl, fun h => h.resolve_right id⟩
  rw [seeded_of_some ha.seed, hroot]
  exact hstart.store (if_pos rfl) rfl id nofun

theorem frontier_seeded (ha : a.Consistent) : Frontier a 0 (seeded a.guide a.seed) := by
  obtain ⟨hpending, _, _⟩ := resolver_seeded a.guide a.seed
  have hwaiting : (seeded a.guide a.seed).resolver.context.pending = .none ∧
      (seeded a.guide a.seed).repository.visited = Names.none.add (a.page a.root) := by
    rw [seeded_of_some ha.seed, ← ha.source]
    cases a.seed.kept <;> exact ⟨rfl, rfl⟩
  obtain ⟨hcontext, hvisited⟩ := hwaiting
  have hnothing {i : Item} (hi : i ∈ (seeded a.guide a.seed).resolver.pending.values) : False := by
    rw [hpending] at hi
    cases hi
  refine ⟨waits_of_pending_empty hpending, ?_, ?_, ?_, fun i hi => (hnothing hi).elim,
    fun i hi => (hnothing hi).elim⟩
  · intro x hx
    rw [hcontext] at hx
    cases hx
  · intro x hx
    rw [hvisited, Names.mem_keys_add, Atlas.within_zero_iff.mp hx]
    exact .inl rfl
  · intro location hl
    rw [hvisited, Names.mem_keys_add] at hl
    exact ⟨a.root, (hl.resolve_right nofun).symm, .inl (Atlas.within_root 0)⟩

/-- The run has taken in the names within `k` links, and has looked through what it stores. -/
structure Reached (a : Atlas) (k : Nat) (s : Run) : Prop where
  charted : Charted a {x | a.Within k x} s
  frontier : Frontier a k s
  covers : ∀ x ∈ s.resolver.scanned.keys, Covers a s x
  scanned : ∀ x ∈ s.repository.declarations.keys, x ∈ s.resolver.scanned.keys
  rounds : s.resolver.stats.rounds = k

namespace Reached

theorem covers_stored (h : Reached a k s) :
    ∀ x ∈ s.repository.declarations.keys, Covers a s x :=
  fun x hx => h.covers x (h.scanned x hx)

theorem of_discover (ha : a.Consistent) (hroot : a.guide.settings.documentRoot = none)
    (hcharted : Charted a {x | a.Within k x} s) (hfrontier : Frontier a k s)
    (hcovers : ∀ x ∈ s.resolver.scanned.keys, Covers a s x)
    (hrounds : s.resolver.stats.rounds = k) :
    ∃ t, (discover a.guide).run s = (.ok (), t) ∧ Reached a k t := by
  obtain ⟨t, hrun, hlooks, ht, hcovered, hscanned⟩ :=
    hfrontier.discover ha hroot hcharted hcovers
  refine ⟨t, hrun, hcharted.looks hlooks, ht, hcovered, ?_, ?_⟩
  · rw [hlooks.declarations]
    exact hscanned
  · rw [hlooks.stats, hrounds]

theorem seeded (ha : a.Consistent) (hroot : a.guide.settings.documentRoot = none) :
    ∃ t, (discover a.guide).run (seeded a.guide a.seed) = (.ok (), t) ∧ Reached a 0 t := by
  have hscanned : (Run.seeded a.guide a.seed).resolver.scanned = .none := by
    rw [seeded_of_some ha.seed]
    cases a.seed.kept <;> rfl
  obtain ⟨_, _, hstats⟩ := resolver_seeded a.guide a.seed
  apply of_discover ha hroot (charted_seeded ha) (frontier_seeded ha)
  · rw [hscanned]
    nofun
  · rw [hstats]
    rfl

theorem round (ha : a.Consistent) (h : Reached a k s) :
    Charted a {x | a.Within (k + 1) x} (Run.round a.guide s) :=
  (h.frontier.round ha h.charted h.covers_stored).1

theorem step (ha : a.Consistent) (hroot : a.guide.settings.documentRoot = none)
    (h : Reached a k s) :
    ∃ t, (discover a.guide).run (Run.round a.guide s) = (.ok (), t) ∧ Reached a (k + 1) t := by
  have hsettles := settles_round a.guide s
  obtain ⟨hcharted, hfrontier⟩ := h.frontier.round ha h.charted h.covers_stored
  apply of_discover ha hroot hcharted hfrontier
  · intro x hx other hl
    rw [hsettles.scanned] at hx
    rw [hsettles.visited]
    exact h.covers x hx other hl
  · rw [stats_round, h.rounds]

/-- With nothing left to do, everything that can be reached has been reached. -/
theorem within_of_done (ha : a.Consistent) (h : Reached a k s)
    (hdone : s.resolver.pending.entries = []) {x : Text} (hx : a.Within n x) : a.Within k x := by
  apply Atlas.within_of_stable _ hx
  intro y hy
  rcases (h.frontier.within_succ_iff ha h.charted h.covers_stored).mp hy with hnear | ⟨i, hi, _⟩
  · exact hnear
  · rw [Keyed.values, hdone] at hi
    cases hi

theorem encard_missing (h : Reached a k s) :
    {x | a.Within k x ∧ ¬ a.Declared x}.encard = s.resolver.stats.unresolved := by
  obtain ⟨xs, hnodup, hxs, hlength⟩ := h.charted.missing
  have hset : {x | a.Within k x ∧ ¬ a.Declared x} = ↑xs.toFinset := by
    ext x
    rw [List.coe_toFinset]
    exact (hxs x).symm
  rw [hset, Set.encard_coe_eq_coe_finsetCard, List.toFinset_card_of_nodup hnodup, hlength]

end Reached

/-- A declaration of this name is first stored in the round after the `k`-th. -/
def Run.StoredAfter (g : Guide) (s : Run) (k : Nat) (name : Text) : Prop :=
  name ∉ (stage g s k).repository.declarations.keys ∧
    name ∈ (round g (stage g s k)).repository.declarations.keys

/-- Over a consistent set of pages, a resolution stores exactly the declarations within as many
links as there may be rounds, each in the round that is its distance, and counts as unresolved the
other names within that many links. -/
theorem stored_at_distance (a : Atlas) (hroot : a.guide.settings.documentRoot = none)
    (ha : a.Consistent) :
    ∃ n stats t, (resolveAll a.guide).run (seeded a.guide a.seed) = (.ok stats, t) ∧
      stats.rounds = n ∧ t.repository = (stage a.guide (seeded a.guide a.seed) n).repository ∧
      (∀ x, x ∈ t.repository.declarations.keys ↔
        a.Within a.guide.settings.roundLimit x ∧ a.Declared x) ∧
      (∀ k x, k < n ∧ StoredAfter a.guide (seeded a.guide a.seed) k x ↔
        k < a.guide.settings.roundLimit ∧ a.Declared x ∧ a.Distance (k + 1) x) ∧
      {x | a.Within a.guide.settings.roundLimit x ∧ ¬ a.Declared x}.encard = stats.unresolved := by
  let s := seeded a.guide a.seed
  obtain ⟨n, hcourse, hreached⟩ := resolveAll_run (I := Reached a) (s := s)
    (Reached.seeded ha hroot) fun k h _ => h.step ha hroot
  have hn := hreached n (Nat.le_refl n)
  have hfirst := (hreached 0 (Nat.zero_le n)).rounds
  obtain ⟨isCapped, hresolver⟩ := finish_resolver a.guide (stage a.guide s n)
  have hbound := hcourse.bound
  rw [hfirst, Nat.sub_zero] at hbound
  have hends : (stage a.guide s n).resolver.pending.entries = [] ∨
      n = a.guide.settings.roundLimit := by
    have hended := hcourse.ended
    rw [hfirst, Nat.sub_zero] at hended
    exact hended
  have hwithin (x : Text) : a.Within a.guide.settings.roundLimit x ↔ a.Within n x := by
    constructor
    · intro hx
      rcases hends with hdone | hlimit
      · exact hn.within_of_done ha hdone hx
      · exact hlimit ▸ hx
    · exact fun hx => hx.mono hbound
  have hstored (k : Nat) (hk : k < n) (x : Text) : StoredAfter a.guide s k x ↔
      a.Declared x ∧ a.Distance (k + 1) x := by
    have hbefore := (hreached k (Nat.le_of_lt hk)).charted.stored x
    have hafter := ((hreached k (Nat.le_of_lt hk)).round ha).stored x
    rw [StoredAfter, hbefore, hafter, Atlas.distance_succ_iff]
    constructor
    · rintro ⟨hnot, hnext, hdeclared⟩
      exact ⟨hdeclared, hnext, fun hnear => hnot ⟨hnear, hdeclared⟩⟩
    · rintro ⟨hdeclared, hnext, hfar⟩
      exact ⟨fun h => hfar h.1, hnext, hdeclared⟩
  refine ⟨n, _, _, hcourse.run, ?_, finish_repository _ _, ?_, ?_, ?_⟩
  · rw [hresolver]
    exact hn.rounds
  · intro x
    rw [finish_repository, hwithin]
    exact hn.charted.stored x
  · intro k x
    constructor
    · rintro ⟨hk, hx⟩
      exact ⟨Nat.lt_of_lt_of_le hk hbound, (hstored k hk x).mp hx⟩
    · rintro ⟨hk, hx⟩
      have hk' : k < n := by
        rcases hends with hdone | hlimit
        · by_contra hnk
          obtain ⟨hnext, hfar⟩ := Atlas.distance_succ_iff.mp hx.2
          exact hfar ((hn.within_of_done ha hdone hnext).mono (by omega))
        · exact hlimit ▸ hk
      exact ⟨hk', (hstored k hk' x).mpr hx⟩
  · have hset : {x | a.Within a.guide.settings.roundLimit x ∧ ¬ a.Declared x} =
        {x | a.Within n x ∧ ¬ a.Declared x} := by
      ext x
      rw [Set.mem_ofPred_eq, Set.mem_ofPred_eq, hwithin]
    rw [hset, hn.encard_missing, hresolver]

namespace Sample

def atlas : Atlas where
  guide := guide
  page := id
  seed := seed
  start := ⟨"A", [], "A", ["B", "C"], [], [], [], [], [], none, false⟩

theorem page_of_fetch {location : Text} {p : ParsedPage} (h : fetch location = .ok p) :
    location = "B" ∧ p = page "B" ["A", "D"] ∨ p.declaration = none := by
  unfold fetch at h
  split at h
  · rename_i hb
    cases h
    exact .inl ⟨hb, rfl⟩
  · split at h
    · cases h
      exact .inr rfl
    · cases h

/-- The two pages that declare something have the links that they should have. -/
theorem uses_of_page {p : ParsedPage} {d : Declaration}
    (hp : p = atlas.seed ∨ ∃ location, atlas.guide.fetcher.fetch location = .ok p)
    (hd : p.declaration = some d) : ∀ x ∈ atlas.guide.uses d.fullName d p.kept, x.isLinked = true →
      x.link = some x.fullName ∧ Location.isNamespacePage x.fullName = false := by
  have hpage : p = seed ∨ p = page "B" ["A", "D"] := by
    rcases hp with hp | ⟨location, hfetch⟩
    · exact .inl hp
    · rcases page_of_fetch hfetch with ⟨_, hp⟩ | hnone
      · exact .inr hp
      · rw [hnone] at hd
        cases hd
  -- types are parsed by a recursion that is not structural, at which `decide` stops
  rcases hpage with rfl | rfl
  · cases hd
    with_unfolding_all decide
  · cases hd
    with_unfolding_all decide

theorem consistent : atlas.Consistent where
  seed := rfl
  source := rfl
  leads p d hp hd x hx hlinked := by
    have hlink := (uses_of_page hp hd x hx hlinked).1
    change Except.ok (x.link.getD []) = Except.ok x.fullName
    rw [hlink]
    rfl
  notNamespace := by
    rintro name ⟨p, d, hp, hd, x, hx, hlinked, rfl⟩
    exact (uses_of_page hp hd x hx hlinked).2
  injective := Set.injOn_id _
  declares := by
    intro name _ p d hfetch hd
    rcases page_of_fetch hfetch with ⟨hname, rfl⟩ | hnone
    · cases hd
      exact hname.symm
    · rw [hnone] at hd
      cases hd
  reports name _ := reports name

theorem distance_b : atlas.Distance 1 "B" := by
  refine ⟨.step .start ⟨_, _, rfl, ?_⟩, ?_⟩
  · with_unfolding_all decide
  · intro j hj hwalk
    cases hwalk with
    | step => omega

end Sample

/-- The class one link from the seed is stored in the first round. -/
theorem stored_at_distance_sample :
    ∃ stats t, (resolveAll Sample.guide).run (seeded Sample.guide Sample.seed) = (.ok stats, t) ∧
      "B".toList ∈ t.repository.declarations.keys ∧
      StoredAfter Sample.guide (seeded Sample.guide Sample.seed) 0 "B" := by
  obtain ⟨n, stats, t, hrun, _, _, hstored, hround, _⟩ :=
    stored_at_distance Sample.atlas rfl Sample.consistent
  have hdeclared : Sample.atlas.Declared "B" := ⟨_, _, rfl⟩
  refine ⟨stats, t, hrun, ?_, ?_⟩
  · exact (hstored "B").mpr ⟨⟨1, by decide, Sample.distance_b.1⟩, hdeclared⟩
  · exact ((hround 0 "B").mpr ⟨by decide, hdeclared, Sample.distance_b⟩).2

end TypeAtlas
