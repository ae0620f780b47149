import TypeAtlas.Proofs.Resolution.Course

/-!
Every item that is taken into a round is settled once and counted once, provided the source of pages
reports no cycle of its own. No item is passed over: an item waits under its own name, no two wait
under one name, and none waits under a name that has been reported.
-/

namespace TypeAtlas

/-- How many items have been settled. -/
def Stats.settled (s : Stats) : Nat := s.resolved + s.unresolved + s.deferred + s.circular

namespace Run

/-- `count` items have been settled; `seeded` declarations were there before. -/
structure Balanced (seeded count : Nat) (s : Run) : Prop where
  settled : s.resolver.stats.settled = count
  circular : s.resolver.stats.circular = s.resolver.circular.size
  stored : s.repository.declarations.size + s.repository.merged = seeded + s.resolver.stats.resolved

theorem Balanced.mergePage {seeded count : Nat} {s : Run} (h : s.Balanced seeded count) (i : Item)
    (p : ParsedPage) : (s.mergePage i p).Balanced seeded (count + 1) := by
  have hsettled := h.settled
  have hstored := h.stored
  unfold Stats.settled at hsettled
  unfold Run.mergePage
  cases p.declaration with
  | none =>
    refine ⟨?_, h.circular, hstored⟩
    simp only [Stats.settled, countUnresolved, onStats, warn]
    omega
  | some d =>
    have hsize := s.repository.size_add d.fullName d
    cases p.kept <;>
    · refine ⟨?_, h.circular, ?_⟩
      · simp only [Stats.settled, onStats, onContext, store, record]
        omega
      · simp only [onStats, onContext, store, record]
        omega

theorem Balanced.recordCircular {seeded count : Nat} {s : Run} (h : s.Balanced seeded count)
    {name : Text} (path : List Text) (hname : name ∉ s.resolver.circular.keys) :
    (s.recordCircular name path).Balanced seeded (count + 1) := by
  have hsettled := h.settled
  have hcircular := h.circular
  unfold Stats.settled at hsettled
  unfold Run.recordCircular
  rw [Names.has_eq_false_iff.mpr hname]
  have hsize : (s.resolver.circular.add name).size = s.resolver.circular.size + 1 := by
    rw [Names.add, Keyed.setNew_of_not_mem hname, Keyed.size_set_of_not_mem hname]
  refine ⟨?_, ?_, h.stored⟩
  · simp only [Stats.settled, onStats, warn, Bool.false_eq_true, ↓reduceIte]
    omega
  · simp only [onStats, warn, Bool.false_eq_true, ↓reduceIte, hsize]
    omega

theorem Balanced.settle {seeded count : Nat} {s : Run} (h : s.Balanced seeded count) (i : Item)
    {o : Outcome} (hskipped : o ≠ .skipped)
    (hcircular : ∀ name path, o = .circular name path → name ∉ s.resolver.circular.keys) :
    (s.settle i o).Balanced seeded (count + 1) := by
  have hdrop : (s.onContext (·.dropPending i.name)).Balanced seeded count :=
    ⟨h.settled, h.circular, h.stored⟩
  have hsettled := h.settled
  unfold Stats.settled at hsettled
  cases o with
  | skipped => exact absurd rfl hskipped
  | circular name path => exact hdrop.recordCircular path (hcircular name path rfl)
  | page p => exact hdrop.mergePage i p
  | deferred =>
    refine ⟨?_, h.circular, h.stored⟩
    simp only [Run.settle, defer, onStats, onContext, Stats.settled]
    omega
  | failed fault =>
    refine ⟨?_, h.circular, h.stored⟩
    simp only [Run.settle, countUnresolved, onStats, onContext, warn, Stats.settled]
    omega

theorem circular_mergePage (s : Run) (i : Item) (p : ParsedPage) :
    (s.mergePage i p).resolver.circular = s.resolver.circular := by
  unfold mergePage
  cases p.declaration with
  | none => rfl
  | some d => cases p.kept <;> rfl

theorem circular_recordCircular (s : Run) (name : Text) (path : List Text) :
    (s.recordCircular name path).resolver.circular = s.resolver.circular.add name := by
  unfold recordCircular
  cases h : s.resolver.circular.has name with
  | false => rfl
  | true => exact (Keyed.setNew_of_mem (Names.has_iff.mp h)).symm

theorem mem_circular_settle {s : Run} {i : Item} {o : Outcome} {name : Text}
    (h : name ∈ (s.settle i o).resolver.circular.keys) :
    name ∈ s.resolver.circular.keys ∨ ∃ path, o = .circular name path := by
  cases o with
  | skipped | deferred | failed => exact .inl h
  | page p =>
    have hcircular := circular_mergePage (s.onContext (·.dropPending i.name)) i p
    exact .inl (hcircular ▸ h)
  | circular name' path =>
    have hcircular := circular_recordCircular (s.onContext (·.dropPending i.name)) name' path
    rcases Names.mem_keys_add.mp (hcircular ▸ h) with rfl | h
    · exact .inr ⟨path, rfl⟩
    · exact .inl h

/-- No source of pages reports a cycle. -/
def NoReports (g : Guide) : Prop :=
  ∀ location name path, g.fetcher.fetch location ≠ .error (.unexplained (.cycle name path))

theorem outcome_ne_skipped (g : Guide) {s : Run} {i : Item}
    (h : i.name ∉ s.resolver.circular.keys) : s.outcome g i ≠ .skipped := by
  intro ho
  have hcomes := comesTo g s i
  rw [ho] at hcomes
  cases hcomes with
  | skipped hcircular => exact h hcircular

/-- Where no source of pages reports a cycle, only an item on its own path does. -/
theorem circular_of_outcome {g : Guide} (hreports : NoReports g) {s : Run} {i : Item} {name : Text}
    {path : List Text} (h : s.outcome g i = .circular name path) :
    name = i.name ∧ i.name ∈ i.path := by
  have hcomes := comesTo g s i
  rw [h] at hcomes
  cases hcomes with
  | closing hpath => exact ⟨rfl, hpath⟩
  | told _ _ hfetch => exact absurd hfetch (hreports _ _ _)

theorem name_of_outcome_circular {g : Guide} (hreports : NoReports g) {s : Run} {i : Item}
    {name : Text} {path : List Text} (h : s.outcome g i = .circular name path) : name = i.name :=
  (circular_of_outcome hreports h).1

/-- A round settles each of its items once. -/
theorem Balanced.round {g : Guide} (hreports : NoReports g) {seeded count : Nat} {s : Run}
    (h : s.Balanced seeded count) (hwaits : s.Waits) :
    (round g s).Balanced seeded (count + s.resolver.pending.values.length) := by
  let I (done : List (Item × Outcome)) (t : Run) : Prop :=
    t.Balanced seeded (count + done.length) ∧ ∀ name ∈ t.resolver.circular.keys,
      name ∈ s.resolver.circular.keys ∨ name ∈ done.map (·.1.name)
  have hsettled : I (s.outcomes g) (s.opened.settleAll (s.outcomes g)) := by
    apply hwaits.settleAll I
    · exact ⟨⟨h.settled, h.circular, h.stored⟩, fun name hname => .inl hname⟩
    · rintro done i t _ hapart hnew ⟨ht, hcircular⟩
      constructor
      · have hstep := ht.settle i (outcome_ne_skipped g hapart) (by
          intro name path ho hname
          rw [name_of_outcome_circular hreports ho] at hname
          exact (hcircular i.name hname).elim hapart hnew)
        rw [List.length_append, ← Nat.add_assoc]
        exact hstep
      · intro name hname
        rw [List.map_append, List.mem_append]
        rcases mem_circular_settle hname with hname | ⟨path, ho⟩
        · exact (hcircular name hname).imp id .inl
        · rw [name_of_outcome_circular hreports ho]
          exact .inr (.inr (by simp))
  obtain ⟨ht, _⟩ := hsettled
  rw [outcomes, List.length_map] at ht
  exact ⟨ht.settled, ht.circular, ht.stored⟩

theorem Balanced.looks {seeded count : Nat} {s t : Run} (h : s.Balanced seeded count)
    (ht : Looks s t) : t.Balanced seeded count := by
  constructor
  · rw [ht.stats, h.settled]
  · rw [ht.stats, ht.circular, h.circular]
  · rw [ht.stats, ht.declarations, ht.merged, h.stored]

theorem Waits.discover {g : Guide} (hroot : g.settings.documentRoot = none)
    (hresolve : ∀ d, ∃ location, g.Leads d location) {s : Run} (h : s.Waits) :
    ∃ t, (discover g).run s = (.ok (), t) ∧ t.Waits ∧ Looks s t :=
  discover_run hroot hresolve h (fun _ _ _ hs => ⟨hs.named, hs.apart⟩)
    fun _ _ _ _ hs ht => hs.offered ht

theorem balanced_seeded (g : Guide) (p : ParsedPage) :
    (seeded g p).Balanced (if p.declaration.isSome then 1 else 0) 0 := by
  unfold seeded seed
  cases p.declaration with
  | none => cases p.isNamespace <;> exact ⟨rfl, rfl, rfl⟩
  | some d => cases p.kept <;> exact ⟨rfl, rfl, rfl⟩

/-- Every item of every round is settled in one way and counted once: a cycle by its name, a
declaration as stored or as merged, and no item is skipped. -/
theorem settled_once (g : Guide) (hroot : g.settings.documentRoot = none)
    (hresolve : ∀ link source, ∃ location, g.fetcher.resolve link source = .ok location)
    (hreports : NoReports g) (p : ParsedPage) :
    ∃ n stats t, (resolveAll g).run (seeded g p) = (.ok stats, t) ∧
      t.resolver.rounds = history g (seeded g p) n ∧
      (t.resolver.rounds.flatMap (·.items)).length =
        stats.resolved + stats.unresolved + stats.deferred + stats.circular ∧
      stats.circular = t.resolver.circular.size ∧
      (∀ k < n, ∀ i ∈ (stage g (seeded g p) k).resolver.pending.values,
        ((stage g (seeded g p) k).openRound (k + 1)).outcome g i ≠ .skipped) ∧
      t.repository.declarations.size + t.repository.merged =
        (if p.declaration.isSome then 1 else 0) + stats.resolved := by
  have hlinks (d : Dependency) : ∃ location, g.Leads d location := hresolve _ _
  let s := seeded g p
  let I (k : Nat) (t : Run) : Prop :=
    t.Waits ∧ t.Balanced (if p.declaration.isSome then 1 else 0)
      ((history g s k).flatMap (·.items)).length ∧
      t.resolver.rounds = history g s k ∧ t.resolver.stats.rounds = k
  have hfirst : ∃ t, (discover g).run s = (.ok (), t) ∧ I 0 t := by
    obtain ⟨hpending, hrounds, hstats⟩ := resolver_seeded g p
    obtain ⟨t, hrun, hwaits, ht⟩ := (waits_of_pending_empty hpending).discover hroot hlinks
    refine ⟨t, hrun, hwaits, (balanced_seeded g p).looks ht, ht.rounds.trans hrounds, ?_⟩
    rw [ht.stats, hstats]
    rfl
  have hstep : ∀ k, I k (stage g s k) → (stage g s k).resolver.pending.entries ≠ [] →
      ∃ t, (discover g).run (round g (stage g s k)) = (.ok (), t) ∧ I (k + 1) t := by
    rintro k ⟨hwaits, hbalanced, hrounds, hcount⟩ _
    have hsettles := settles_round g (stage g s k)
    obtain ⟨t, hrun, ht, hlooks⟩ :=
      (waits_of_pending_empty hsettles.pending).discover hroot hlinks
    have hhistory : history g s (k + 1) =
        history g s k ++ [⟨k + 1, (stage g s k).resolver.pending.values⟩] := by
      rw [history, List.range_succ, List.map_append]
      rfl
    refine ⟨t, hrun, ht, ?_, ?_, ?_⟩
    · rw [hhistory, List.flatMap_append, List.length_append]
      have hround := (hbalanced.round hreports hwaits).looks hlooks
      rw [List.flatMap_singleton]
      exact hround
    · rw [hlooks.rounds, hsettles.rounds, rounds_opened, hrounds, hcount, hhistory]
    · rw [hlooks.stats, stats_round, hcount]
  obtain ⟨n, hcourse, hI⟩ := resolveAll_run hfirst hstep
  obtain ⟨_, hbalanced, hrounds, _⟩ := hI n (Nat.le_refl n)
  obtain ⟨isCapped, hresolver⟩ := finish_resolver g (stage g s n)
  refine ⟨n, _, _, hcourse.run, ?_, ?_, ?_, ?_, ?_⟩
  · rw [hresolver]
    exact hrounds
  · rw [hresolver]
    have hsettled := hbalanced.settled
    rw [← hrounds] at hsettled
    exact hsettled.symm
  · rw [hresolver]
    exact hbalanced.circular
  · intro k hk i hi
    exact outcome_ne_skipped g ((hI k (Nat.le_of_lt hk)).1.apart_of_mem hi)
  · rw [hresolver, finish_repository]
    exact hbalanced.stored

/-- Of four items, one is resolved, two are not, and one closes a cycle. -/
theorem settled_once_sample :
    ∃ n stats t, (resolveAll Sample.guide).run (seeded Sample.guide Sample.seed) = (.ok stats, t) ∧
      t.resolver.rounds = history Sample.guide (seeded Sample.guide Sample.seed) n ∧
      (t.resolver.rounds.flatMap (·.items)).length =
        stats.resolved + stats.unresolved + stats.deferred + stats.circular ∧
      stats.circular = t.resolver.circular.size ∧
      t.repository.declarations.size + t.repository.merged = 1 + stats.resolved := by
  obtain ⟨n, stats, t, hrun, hrounds, hsettled, hcircular, _, hstored⟩ :=
    settled_once Sample.guide rfl Sample.leads Sample.reports Sample.seed
  exact ⟨n, stats, t, hrun, hrounds, hsettled, hcircular, hstored⟩

end Run

end TypeAtlas
