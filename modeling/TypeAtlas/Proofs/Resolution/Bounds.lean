import TypeAtlas.Proofs.Resolution.Fetching
import TypeAtlas.Proofs.Resolution.Reach
import TypeAtlas.Proofs.Resolution.Reading

/-!
How many rounds there may be. Work is scheduled by looking through declarations only, and each is
looked through once: a round that stores nothing under a new name is the last one. So there are no
more rounds than declarations, whatever the pages hold, and rounds made up of failures, of pages
that are put off or of cycles end the resolution.
-/

namespace TypeAtlas

namespace Keyed

variable {κ ν : Type} {s t : Keyed κ ν}

theorem length_keys (s : Keyed κ ν) : s.keys.length = s.size := List.length_map _

theorem size_le_of_keys_subset (h : s.keys ⊆ t.keys) : s.size ≤ t.size := by
  rw [← length_keys, ← length_keys]
  exact (List.subperm_of_subset s.nodup h).length_le

theorem size_lt_of_keys_subset (h : s.keys ⊆ t.keys) {k : κ} (hs : k ∉ s.keys) (ht : k ∈ t.keys) :
    s.size < t.size := by
  have hcons : (k :: s.keys).Nodup := List.nodup_cons.mpr ⟨hs, s.nodup⟩
  rw [← length_keys, ← length_keys]
  exact (List.subperm_of_subset hcons (List.cons_subset.mpr ⟨ht, h⟩)).length_le

end Keyed

namespace Run

variable {g : Guide} {s t u : Run}

/-! What is counted. -/

/-- Settling an item counts it; how many rounds there were is another matter. -/
theorem counts_settle (s : Run) (i : Item) (o : Outcome) :
    (s.settle i o).resolver.stats.depth = s.resolver.stats.depth ∧
      (s.settle i o).resolver.stats.isCapped = s.resolver.stats.isCapped := by
  cases o with
  | skipped | deferred | failed => exact ⟨rfl, rfl⟩
  | circular name path =>
    simp only [settle, recordCircular]
    split <;> exact ⟨rfl, rfl⟩
  | page p =>
    simp only [settle, mergePage, record]
    cases p.declaration with
    | none => exact ⟨rfl, rfl⟩
    | some d => cases p.kept <;> exact ⟨rfl, rfl⟩

theorem counts_round (g : Guide) (s : Run) :
    (round g s).resolver.stats.depth = max s.resolver.stats.depth (s.resolver.stats.rounds + 1) ∧
      (round g s).resolver.stats.isCapped = s.resolver.stats.isCapped := by
  obtain ⟨hdepth, hcapped⟩ := @settleAll_spec (s.outcomes g)
    (fun _ t => t.resolver.stats.depth = s.resolver.stats.depth ∧
      t.resolver.stats.isCapped = s.resolver.stats.isCapped) s.opened ⟨rfl, rfl⟩
    fun _ i o t _ ht =>
      ⟨(counts_settle t i o).1.trans ht.1, (counts_settle t i o).2.trans ht.2⟩
  refine ⟨?_, hcapped⟩
  change max (s.opened.settleAll (s.outcomes g)).resolver.stats.depth _ = _
  rw [hdepth]

theorem depth_round (g : Guide) (s : Run) :
    (round g s).resolver.context.depth = s.resolver.stats.rounds + 1 := rfl

/-! One round after another. -/

/-- A round after which something waits has stored a new name. -/
theorem new_of_busy (hscanned : s.repository.declarations.keys ⊆ s.resolver.scanned.keys)
    (hrun : (discover g).run (round g s) = (.ok (), t)) (hbusy : t.resolver.pending.entries ≠ []) :
    ∃ name, name ∉ s.repository.declarations.keys ∧
      name ∈ (round g s).repository.declarations.keys := by
  by_contra hnone
  have hsettles := settles_round g s
  have hnothing : (discover g).run (round g s) = (.ok (), round g s) := by
    apply discover_run_of_scanned
    intro name hname
    rw [hsettles.scanned]
    refine hscanned ?_
    by_contra hnew
    exact hnone ⟨name, hnew, hname⟩
  rw [hnothing] at hrun
  cases hrun
  rw [hsettles.pending] at hbusy
  exact hbusy rfl

/-- After `k` rounds that had something to do, everything stored has been looked through, and there
are `k` declarations, or more if there is still something to do. -/
structure Paced (g : Guide) (s : Run) (k : Nat) (t : Run) : Prop where
  scanned : t.repository.declarations.keys ⊆ t.resolver.scanned.keys
  rounds : t.resolver.rounds = history g s k
  count : t.resolver.stats.rounds = k
  depth : t.resolver.stats.depth = k
  reached : t.resolver.context.depth = k
  uncapped : t.resolver.stats.isCapped = false
  stored : k ≤ t.repository.declarations.size
  room : t.resolver.pending.entries ≠ [] → k < t.repository.declarations.size

/-- Nothing has been resolved yet. -/
structure Unresolved (s : Run) : Prop where
  rounds : s.resolver.rounds = []
  pending : s.resolver.pending = .empty
  scanned : s.resolver.scanned = .none
  circular : s.resolver.circular = .none
  stats : s.resolver.stats = .zero
  waiting : s.resolver.context.pending = .none
  depth : s.resolver.context.depth = 0

/-- Begins with several pages that have been read. -/
def seedAll (s : Run) (pages : List ParsedPage) : Run := pages.foldl (fun s p => (s.seed p).2) s

theorem Unresolved.seed (h : s.Unresolved) (p : ParsedPage) : (s.seed p).2.Unresolved := by
  unfold Run.seed
  cases p.declaration with
  | none =>
    cases p.isNamespace <;>
      exact ⟨h.rounds, h.pending, h.scanned, h.circular, h.stats, h.waiting, h.depth⟩
  | some d =>
    obtain ⟨pages, hrecord, _⟩ := (s.visit p.source).record_eq d p.kept []
    change (((s.visit p.source).record d p.kept []).store d).Unresolved
    rw [hrecord]
    exact ⟨h.rounds, h.pending, h.scanned, h.circular, h.stats, h.waiting, h.depth⟩

theorem Unresolved.seedAll (h : s.Unresolved) (pages : List ParsedPage) :
    (s.seedAll pages).Unresolved := by
  induction pages generalizing s with
  | nil => exact h
  | cons p pages ih => exact ih (h.seed p)

theorem unresolved_fresh (g : Guide) (r : Repository) : (fresh g r).Unresolved :=
  ⟨rfl, rfl, rfl, rfl, rfl, rfl, rfl⟩

theorem history_succ (g : Guide) (s : Run) (k : Nat) : history g s (k + 1) =
    history g s k ++ [⟨k + 1, (stage g s k).resolver.pending.values⟩] := by
  rw [history, List.range_succ, List.map_append]
  rfl

namespace Paced

variable {k : Nat}

theorem first (hroot : g.settings.documentRoot = none)
    (hresolve : ∀ d, ∃ location, g.Leads d location) (h : s.Unresolved) :
    ∃ t, (discover g).run s = (.ok (), t) ∧ Paced g s 0 t := by
  obtain ⟨t, hrun, hspreads, hscanned⟩ :=
    discover_spreads (s := s) hroot fun _ x _ => hresolve x
  refine ⟨t, hrun, hscanned, ?_, ?_, ?_, ?_, ?_, ?_, ?_⟩
  · rw [hspreads.looks.rounds, h.rounds]
    rfl
  · rw [hspreads.looks.stats, h.stats]
    rfl
  · rw [hspreads.looks.stats, h.stats]
    rfl
  · rw [hspreads.depth, h.depth]
  · rw [hspreads.looks.stats, h.stats]
    rfl
  · exact Nat.zero_le _
  · intro hbusy
    by_contra hnone
    -- without declarations there is nothing to look through
    have hempty : s.repository.declarations.keys = [] := by
      rw [hspreads.looks.declarations, Keyed.size, Nat.not_lt, Nat.le_zero] at hnone
      rw [Keyed.keys, List.eq_nil_of_length_eq_zero hnone]
      rfl
    have hnothing := discover_run_of_scanned (g := g) (s := s) (hempty ▸ List.nil_subset _)
    rw [hnothing] at hrun
    cases hrun
    rw [h.pending] at hbusy
    exact hbusy rfl

theorem step (hroot : g.settings.documentRoot = none)
    (hresolve : ∀ d, ∃ location, g.Leads d location) (h : Paced g s k (stage g s k))
    (hbusy : (stage g s k).resolver.pending.entries ≠ []) :
    ∃ t, (discover g).run (round g (stage g s k)) = (.ok (), t) ∧ Paced g s (k + 1) t := by
  have hsettles := settles_round g (stage g s k)
  obtain ⟨hdepth, hcapped⟩ := counts_round g (stage g s k)
  obtain ⟨t, hrun, hspreads, hscanned⟩ :=
    discover_spreads (s := round g (stage g s k)) hroot fun _ x _ => hresolve x
  have hlooks := hspreads.looks
  have hgains := (gains_round g (stage g s k)).keys
  have hroom := h.room hbusy
  refine ⟨t, hrun, hscanned, ?_, ?_, ?_, ?_, ?_, ?_, ?_⟩
  · rw [hlooks.rounds, hsettles.rounds, rounds_opened, h.rounds, h.count, history_succ]
  · rw [hlooks.stats, stats_round, h.count]
  · rw [hlooks.stats, hdepth, h.depth, h.count]
    omega
  · rw [hspreads.depth, depth_round, h.count]
  · rw [hlooks.stats, hcapped, h.uncapped]
  · have hgrown := Keyed.size_le_of_keys_subset hgains
    rw [hlooks.declarations]
    omega
  · intro hmore
    obtain ⟨name, hnew, hname⟩ := new_of_busy h.scanned hrun hmore
    have hgrown := Keyed.size_lt_of_keys_subset hgains hnew hname
    rw [hlooks.declarations]
    omega

end Paced

theorem isCapped_finish (h : s.resolver.stats.isCapped = false) :
    (finish g s).resolver.stats.isCapped = true ↔ s.resolver.pending.entries ≠ [] := by
  have hclosed : (s.closed g).resolver.stats.isCapped = true ↔
      s.resolver.pending.entries ≠ [] := by
    unfold closed
    cases hentries : s.resolver.pending.entries with
    | nil => simp [h]
    | cons e es => simp [cap, onStats, warn]
  rw [← hclosed, finish]
  split <;> rfl

/-- A resolution by a new resolver ends after at most as many rounds as the limit allows and as
there are declarations in the end. The rounds are numbered from one and none is empty; each but the
last stores a new name; and the limit is reported just when something is left to do. -/
theorem rounds_bounded (g : Guide) (hroot : g.settings.documentRoot = none)
    (hresolve : ∀ link source, ∃ location, g.fetcher.resolve link source = .ok location)
    (r : Repository) (pages : List ParsedPage) :
    ∃ n stats t, (resolveAll g).run ((fresh g r).seedAll pages) = (.ok stats, t) ∧
      t.repository = (stage g ((fresh g r).seedAll pages) n).repository ∧
      t.resolver.rounds = history g ((fresh g r).seedAll pages) n ∧
      (∀ j round, t.resolver.rounds[j]? = some round → round.number = j + 1 ∧ round.items ≠ []) ∧
      n = t.resolver.rounds.length ∧ n = stats.rounds ∧ n = stats.depth ∧
      n = t.resolver.context.depth ∧ n ≤ g.settings.roundLimit ∧
      (∀ k, k + 1 < n → ∃ name, StoredAfter g ((fresh g r).seedAll pages) k name) ∧
      n ≤ t.repository.declarations.size ∧ t.resolver.stats = stats ∧
      (stats.isCapped = true ↔ t.resolver.pending.entries ≠ []) ∧
      (stats.isCapped = true → n = g.settings.roundLimit) := by
  have hlinks (d : Dependency) : ∃ location, g.Leads d location := hresolve _ _
  let s := (fresh g r).seedAll pages
  have hunresolved : s.Unresolved := (unresolved_fresh g r).seedAll pages
  obtain ⟨n, hcourse, hpaced⟩ := resolveAll_run (I := Paced g s)
    (Paced.first hroot hlinks hunresolved) fun k h hbusy => h.step hroot hlinks hbusy
  have hn := hpaced n (Nat.le_refl n)
  have hstart := (hpaced 0 (Nat.zero_le n)).count
  -- a round that leaves something to do has stored a new name
  have hnew (k : Nat) (hk : k < n) (hbusy : (stage g s (k + 1)).resolver.pending.entries ≠ []) :
      ∃ name, StoredAfter g s k name := by
    have hk' := hpaced k (Nat.le_of_lt hk)
    obtain ⟨t, hrun, _⟩ := hk'.step hroot hlinks (hcourse.busy k hk)
    have hstage : stage g s (k + 1) = t := by rw [stage, hrun]
    exact new_of_busy hk'.scanned hrun (hstage ▸ hbusy)
  have hbound := hcourse.bound
  rw [hstart, Nat.sub_zero] at hbound
  obtain ⟨isCapped, hresolver⟩ := finish_resolver g (stage g s n)
  have hcapped := isCapped_finish (g := g) hn.uncapped
  refine ⟨n, _, _, hcourse.run, finish_repository _ _, ?_, ?_, ?_, ?_, ?_, ?_, hbound,
    fun k hk => hnew k (by omega) (hcourse.busy (k + 1) hk), ?_, rfl, ?_, ?_⟩
  · rw [hresolver]
    exact hn.rounds
  · intro j round hround
    rw [hresolver, show ({ (stage g s n).resolver with stats := _ } : Resolver).rounds =
      (stage g s n).resolver.rounds from rfl, hn.rounds, history, List.getElem?_map] at hround
    obtain ⟨i, hi, rfl⟩ := Option.map_eq_some_iff.mp hround
    obtain ⟨hj, rfl⟩ := List.getElem?_eq_some_iff.mp hi
    rw [List.getElem_range]
    rw [List.length_range] at hj
    refine ⟨rfl, ?_⟩
    rw [Keyed.values]
    exact fun hempty => hcourse.busy j hj (List.map_eq_nil_iff.mp hempty)
  · rw [hresolver]
    change n = (stage g s n).resolver.rounds.length
    rw [hn.rounds, history, List.length_map, List.length_range]
  · rw [hresolver]
    exact hn.count.symm
  · rw [hresolver]
    exact hn.depth.symm
  · rw [hresolver]
    exact hn.reached.symm
  · rw [finish_repository]
    exact hn.stored
  · rw [hcapped, hresolver]
  · intro hleft
    have hended := hcourse.ended
    rw [hstart, Nat.sub_zero] at hended
    exact hended.resolve_left (hcapped.mp hleft)

end Run

namespace Sample

/-- The sample pages, with one round for them: what "B" refers to is left over. -/
def hurried : Guide := { guide with settings := ⟨1, none, none, by decide⟩ }

end Sample

namespace Run

theorem rounds_bounded_sample :
    ∃ stats t, (resolveAll Sample.hurried).run
      ((fresh Sample.hurried .empty).seedAll [Sample.seed]) = (.ok stats, t) ∧
        stats.isCapped = true ∧ stats.rounds = 1 ∧ t.resolver.pending.entries ≠ [] := by
  obtain ⟨n, stats, t, hrun, _, _, _, _, hcount, _, _, _, _, _, hstats, hcapped, hlimit⟩ :=
    rounds_bounded Sample.hurried rfl Sample.leads .empty [Sample.seed]
  have hends : ((resolveAll Sample.hurried).run ((fresh Sample.hurried .empty).seedAll
      [Sample.seed])).2.resolver.stats.isCapped = true := by decide +kernel
  rw [hrun] at hends
  have hends : stats.isCapped = true := hstats ▸ hends
  exact ⟨stats, t, hrun, hends, hcount ▸ hlimit hends, hcapped.mp hends⟩

end Run

end TypeAtlas
