import Mathlib.Data.List.Nodup
import TypeAtlas.Proofs.Resolution.Fetching
import TypeAtlas.Proofs.Resolution.Gathering
import TypeAtlas.Proofs.Resolution.Reading

/-!
What a resolver and its context keep side by side. The names that wait and the items that wait, the
declarations that were found and the paths to them, agree between any two operations; and what has
been looked through since the last reset is told by the resolver, each name once.
-/

namespace TypeAtlas

theorem Names.keys_add (s : Names) (name : Text) :
    (s.add name).keys = s.keys ++ if s.has name then [] else [name] := by
  cases h : s.has name with
  | true =>
    have hadd : s.add name = s := Keyed.setNew_of_mem (has_iff.mp h)
    rw [hadd]
    exact (List.append_nil _).symm
  | false =>
    rw [add, Keyed.setNew_of_not_mem (has_eq_false_iff.mp h)]
    exact Keyed.keys_set_of_not_mem (has_eq_false_iff.mp h)

/-- Two tables with the same keys have the same keys when one more is set in both. -/
theorem Keyed.keys_set_eq_keys_setNew {κ ν μ : Type} [DecidableEq κ] {s : Keyed κ ν}
    {t : Keyed κ μ} (h : s.keys = t.keys) (k : κ) (v : ν) (w : μ) :
    (s.set k v).keys = (t.setNew k w).keys := by
  by_cases hk : k ∈ s.keys
  · rw [keys_set_of_mem hk, setNew_of_mem (h ▸ hk), h]
  · rw [keys_set_of_not_mem hk, setNew_of_not_mem (h ▸ hk), keys_set_of_not_mem (h ▸ hk), h]

namespace Run

variable {g : Guide} {name : Text} {s t : Run}

/-- A declaration that was found has the path by which it was found; it has been dealt with and is
stored. -/
structure Recorded (s : Run) : Prop where
  paths : s.resolver.context.resolved.keys = s.resolver.context.ancestry.keys
  dealtWith : s.resolver.context.resolved.keys ⊆ s.resolver.context.visited.keys
  stored : s.resolver.context.resolved.keys ⊆ s.repository.declarations.keys

/-- The resolver and its context agree. -/
structure Aligned (s : Run) : Prop extends Waits s, Recorded s where
  waiting : s.resolver.context.pending.keys = s.resolver.pending.keys

theorem aligned_of_empty (hpending : s.resolver.pending = .empty)
    (hcontext : s.resolver.context.pending.keys = []) (h : s.Recorded) : s.Aligned :=
  ⟨waits_of_pending_empty hpending, h, by rw [hcontext, hpending]; rfl⟩

/-- Counters, warnings and enumerations are another matter. -/
theorem Aligned.of_same (h : s.Aligned) {stats : Stats}
    (hresolver : t.resolver = { s.resolver with stats })
    (hdeclarations : t.repository.declarations = s.repository.declarations) : t.Aligned := by
  refine ⟨⟨?_, ?_⟩, ⟨?_, ?_, ?_⟩, ?_⟩
  · rw [hresolver]
    exact h.named
  · rw [hresolver]
    exact h.apart
  · rw [hresolver]
    exact h.paths
  · rw [hresolver]
    exact h.dealtWith
  · rw [hresolver, hdeclarations]
    exact h.stored
  · rw [hresolver]
    exact h.waiting

/-! Settling a round. -/

theorem Recorded.visit (h : s.Recorded) (name : Text) :
    (s.onContext (·.visit name)).Recorded :=
  ⟨h.paths, fun _ hx => Names.mem_keys_add.mpr (.inr (h.dealtWith hx)), h.stored⟩

theorem Recorded.record (h : s.Recorded) (d : Declaration) (kept : Option PageLinks)
    (path : List Text) : ((s.store d).record d kept path).Recorded := by
  obtain ⟨pages, hrecord, -⟩ := (s.store d).record_eq d kept path
  rw [hrecord]
  refine ⟨Keyed.keys_set_eq_keys_setNew h.paths d.fullName d path, ?_, ?_⟩
  · intro name hname
    apply Names.mem_keys_add.mpr
    exact (Keyed.mem_keys_set.mp hname).imp id fun hold => h.dealtWith hold
  · intro name hname
    apply Repository.mem_keys_add.mpr
    exact (Keyed.mem_keys_set.mp hname).imp id fun hold => h.stored hold

theorem Recorded.settle (h : s.Recorded) (i : Item) (o : Outcome) : (s.settle i o).Recorded := by
  have hdropped : (s.onContext (·.dropPending i.name)).Recorded := ⟨h.paths, h.dealtWith, h.stored⟩
  cases o with
  | skipped | deferred | failed => exact ⟨h.paths, h.dealtWith, h.stored⟩
  | circular name path =>
    simp only [Run.settle, recordCircular]
    split <;> exact ⟨h.paths, h.dealtWith, h.stored⟩
  | page p =>
    cases hd : p.declaration with
    | none =>
      rw [settle_of_none hd]
      exact ⟨h.paths, h.dealtWith, h.stored⟩
    | some d =>
      rw [settle_of_some hd]
      have hvisited := (hdropped.record d p.kept i.path).visit i.name
      exact ⟨hvisited.paths, hvisited.dealtWith, hvisited.stored⟩

/-- Whatever its items come to, after a round nothing waits. -/
theorem Aligned.round (h : s.Aligned) (g : Guide) : (round g s).Aligned := by
  have hpending := h.toWaits.pending_round (g := g) fun name hname => h.waiting ▸ hname
  have hsettled : (s.opened.settleAll (s.outcomes g)).Recorded :=
    settleAll_spec (fun _ t => t.Recorded) ⟨h.paths, h.dealtWith, h.stored⟩
      fun _ i o t _ ht => ht.settle i o
  exact aligned_of_empty (settles_round g s).pending hpending
    ⟨hsettled.paths, hsettled.dealtWith, hsettled.stored⟩

/-! Looking through declarations. -/

theorem Aligned.enqueue (h : s.Aligned) {i : Item} (hpending : i.name ∉ s.resolver.pending.keys)
    (hcircular : i.name ∉ s.resolver.circular.keys) : (s.enqueue i).Aligned := by
  refine ⟨h.toWaits.enqueue hpending hcircular, ⟨h.paths, h.dealtWith, h.stored⟩, ?_⟩
  have hnew : s.resolver.context.pending.has i.name = false :=
    Names.has_eq_false_iff.mpr (h.waiting ▸ hpending)
  change (s.resolver.context.pending.add i.name).keys = (s.resolver.pending.set i.name i).keys
  rw [Names.keys_add, hnew, Keyed.keys_set_of_not_mem hpending, h.waiting]
  rfl

theorem Aligned.offered {parent : Text} {d : Dependency} (h : s.Aligned)
    (ht : Offered g parent d s t) : t.Aligned := by
  cases ht with
  | settled | known | visited => exact h
  | closing location hs =>
    obtain ⟨-, -, hcircular, hpending, -⟩ := unsettled hs
    exact h.enqueue hpending hcircular
  | fresh location hs =>
    obtain ⟨-, -, hcircular, hpending, -⟩ := unsettled hs
    have hvisit : (s.visit location).Aligned :=
      ⟨⟨h.named, h.apart⟩, ⟨h.paths, h.dealtWith, h.stored⟩, h.waiting⟩
    exact hvisit.enqueue hpending hcircular

/-- The names that are looked through when the entries have their turn: those that were looked
through before are passed over. -/
def lookedIn (g : Guide) : List (Text × Declaration) → Run → List Text
  | [], _ => []
  | (name, d) :: rest, s =>
    (if s.resolver.scanned.has name then [] else [name]) ++
      lookedIn g rest ((scan g name d).run s).2

/-- The names that one look through the repository goes through. -/
def looked (g : Guide) (s : Run) : List Text := lookedIn g s.repository.declarations.entries s

/-- The names that are looked through in at most `left` rounds. -/
def lookedInRounds (g : Guide) : Nat → Run → List Text
  | 0, _ => []
  | left + 1, s =>
    if s.resolver.pending.entries.isEmpty then []
    else looked g (round g s) ++ lookedInRounds g left ((discover g).run (round g s)).2

/-- The names that a resolution looks through. -/
def lookedInAll (g : Guide) (s : Run) : List Text :=
  let t := ((discover g).run s).2
  looked g s ++ lookedInRounds g (g.settings.roundLimit - t.resolver.stats.rounds) t

section Resolving

variable (hroot : g.settings.documentRoot = none) (hresolve : ∀ d, ∃ location, g.Leads d location)

include hroot hresolve

theorem Aligned.scan (h : s.Aligned) (name : Text) (d : Declaration) :
    ∃ t, (scan g name d).run s = (.ok (), t) ∧ t.Aligned ∧ Looks s t ∧
      t.resolver.scanned = s.resolver.scanned.add name := by
  by_cases hscanned : name ∈ s.resolver.scanned.keys
  · exact ⟨s, scan_run_of_scanned hscanned, h, .refl s, (Keyed.setNew_of_mem hscanned).symm⟩
  · apply scan_run hroot (fun _ t => t.Aligned ∧ Looks s t ∧
      t.resolver.scanned = s.resolver.scanned.add name) hscanned
    · intro links
      have hbegin : (s.begin name links).Aligned :=
        ⟨⟨h.named, h.apart⟩, ⟨h.paths, h.dealtWith, h.stored⟩, h.waiting⟩
      exact ⟨hbegin, looks_begin s name links, rfl⟩
    · intro x _ _
      exact hresolve x
    · intro _ x u t _ hu ht
      exact ⟨hu.1.offered ht, hu.2.1.trans ht.looks, ht.scanned.trans hu.2.2⟩

theorem Aligned.scanAll (h : s.Aligned) (entries : List (Text × Declaration)) :
    ∃ t, (entries.forM fun e => Run.scan g e.1 e.2).run s = (.ok (), t) ∧ t.Aligned ∧ Looks s t ∧
      t.resolver.scanned.keys = s.resolver.scanned.keys ++ lookedIn g entries s ∧
      ∀ e ∈ entries, e.1 ∈ t.resolver.scanned.keys := by
  induction entries generalizing s with
  | nil => exact ⟨s, rfl, h, .refl s, (List.append_nil _).symm, nofun⟩
  | cons e rest ih =>
    obtain ⟨t, hrun, ht, hlooks, hadd⟩ := h.scan hroot hresolve e.1 e.2
    obtain ⟨u, hrest, hu, hlooks', hkeys, hmem⟩ := ih ht
    refine ⟨u, (bind_run hrun).trans hrest, hu, hlooks.trans hlooks', ?_, ?_⟩
    · rw [hkeys, hadd, Names.keys_add, lookedIn, hrun, List.append_assoc]
    · intro x hx
      rcases List.mem_cons.mp hx with rfl | hx
      · rw [hkeys, hadd]
        exact List.mem_append_left _ (Names.mem_keys_add.mpr (.inl rfl))
      · exact hmem x hx

/-- A look goes through the names that are new, and afterwards none is left. -/
theorem Aligned.discover (h : s.Aligned) :
    ∃ t, (discover g).run s = (.ok (), t) ∧ t.Aligned ∧
      t.resolver.scanned.keys = s.resolver.scanned.keys ++ looked g s ∧
      t.repository.declarations.keys ⊆ t.resolver.scanned.keys := by
  obtain ⟨t, hrun, ht, hlooks, hkeys, hmem⟩ :=
    h.scanAll hroot hresolve s.repository.declarations.entries
  refine ⟨t, (bind_run (get_run s)).trans hrun, ht, hkeys, ?_⟩
  rw [hlooks.declarations]
  intro name hname
  obtain ⟨e, he, rfl⟩ := List.mem_map.mp hname
  exact hmem e he

theorem Aligned.roundsFrom (left : Nat) (h : s.Aligned)
    (hscanned : s.repository.declarations.keys ⊆ s.resolver.scanned.keys) :
    ∃ t, (roundsFrom g left).run s = (.ok (), t) ∧ t.Aligned ∧
      t.resolver.scanned.keys = s.resolver.scanned.keys ++ lookedInRounds g left s ∧
      t.repository.declarations.keys ⊆ t.resolver.scanned.keys := by
  induction left generalizing s with
  | zero =>
    rw [Run.roundsFrom, bind_run (get_run s), lookedInRounds, List.append_nil]
    cases s.resolver.pending.entries.isEmpty with
    | true => exact ⟨s, rfl, h, rfl, hscanned⟩
    | false => exact ⟨cap g s, rfl, h.of_same rfl rfl, rfl, hscanned⟩
  | succ left ih =>
    rw [Run.roundsFrom, bind_run (get_run s), lookedInRounds]
    cases s.resolver.pending.entries.isEmpty with
    | true => exact ⟨s, rfl, h, (List.append_nil _).symm, hscanned⟩
    | false =>
      have hround : (modify (Run.round g) : Work Unit).run s = (.ok (), Run.round g s) := rfl
      obtain ⟨t, hrun, ht, hkeys, hall⟩ := (h.round g).discover hroot hresolve
      obtain ⟨u, hrest, hu, hkeys', hall'⟩ := ih ht hall
      refine ⟨u, ?_, hu, ?_, hall'⟩
      · simp only [Bool.false_eq_true, ↓reduceIte]
        rw [bind_run hround, bind_run hrun, hrest]
      · rw [hkeys', hkeys, (settles_round g s).scanned, hrun, List.append_assoc]
        rfl

/-- A resolution looks through every declaration that is stored in the end, and through none that
had been looked through before. -/
theorem Aligned.resolveAll (h : s.Aligned) :
    ∃ stats t, (resolveAll g).run s = (.ok stats, t) ∧ t.Aligned ∧
      t.resolver.scanned.keys = s.resolver.scanned.keys ++ lookedInAll g s ∧
      t.repository.declarations.keys ⊆ t.resolver.scanned.keys := by
  obtain ⟨t, hrun, ht, hkeys, hall⟩ := h.discover hroot hresolve
  obtain ⟨u, hrest, hu, hkeys', hall'⟩ := ht.roundsFrom hroot hresolve
    (g.settings.roundLimit - t.resolver.stats.rounds) hall
  have hlooked : u.resolver.scanned.keys = s.resolver.scanned.keys ++ lookedInAll g s := by
    rw [hkeys', hkeys, lookedInAll, hrun, List.append_assoc]
  rw [Run.resolveAll, bind_run hrun, bind_run (get_run t), bind_run hrest, bind_run (get_run u)]
  cases u.resolver.circular.entries.isEmpty with
  | true => exact ⟨_, u, rfl, hu, hlooked, hall'⟩
  | false => exact ⟨_, _, rfl, hu.of_same rfl rfl, hlooked, hall'⟩

end Resolving

/-! The other operations. -/

theorem aligned_fresh (g : Guide) (r : Repository) : (fresh g r).Aligned :=
  aligned_of_empty rfl rfl ⟨rfl, nofun, nofun⟩

theorem aligned_reset (s : Run) : ({ s with resolver := s.resolver.reset } : Run).Aligned :=
  aligned_of_empty rfl rfl ⟨rfl, nofun, nofun⟩

theorem Aligned.seed (h : s.Aligned) (p : ParsedPage) :
    (s.seed p).2.Aligned ∧ (s.seed p).2.resolver.scanned = s.resolver.scanned := by
  cases hd : p.declaration with
  | none =>
    obtain ⟨hresolver, hdeclarations⟩ : (s.seed p).2.resolver = s.resolver ∧
        (s.seed p).2.repository.declarations = s.repository.declarations := by
      unfold Run.seed
      rw [hd]
      cases p.isNamespace <;> exact ⟨rfl, rfl⟩
    exact ⟨h.of_same hresolver hdeclarations, congrArg Resolver.scanned hresolver⟩
  | some d =>
    have hvisit : (s.visit p.source).Recorded := ⟨h.paths, h.dealtWith, h.stored⟩
    have hrecorded := hvisit.record d p.kept []
    obtain ⟨pages, hrecord, -⟩ := ((s.visit p.source).store d).record_eq d p.kept []
    rw [seed_of_some hd]
    rw [hrecord] at hrecorded ⊢
    exact ⟨⟨⟨h.named, h.apart⟩, hrecorded, h.waiting⟩, rfl⟩

/-- The work touches neither the resolver nor the declarations, whether it succeeds or not. -/
def Spares {α : Type} (w : Work α) : Prop :=
  ∀ s : Run, (w.run s).2.resolver = s.resolver ∧
    (w.run s).2.repository.declarations = s.repository.declarations

theorem Spares.bind {α β : Type} {w : Work α} {f : α → Work β} (h : Spares w)
    (h' : ∀ a, Spares (f a)) : Spares (w >>= f) := by
  intro s
  have hw := h s
  rcases hrun : w.run s with ⟨result, t⟩
  rw [hrun] at hw
  cases result with
  | ok a =>
    rw [bind_run hrun]
    exact ⟨(h' a t).1.trans hw.1, (h' a t).2.trans hw.2⟩
  | error fault =>
    have hfail : (w >>= f).run s = (.error fault, t) := by
      simp only [ExceptT.run] at hrun
      simp only [ExceptT.run, Bind.bind, ExceptT.bind, ExceptT.mk, StateT.bind, hrun]
      rfl
    rw [hfail]
    exact hw

theorem spares_collectFrom (g : Guide) (count : Nat) (location : Text) :
    Spares (collectFrom g count location) := by
  have hnote : Spares (modify (·.noteFetch location) : Work Unit) := fun _ => ⟨rfl, rfl⟩
  refine hnote.bind fun _ => ?_
  cases g.fetcher.fetch location with
  | error fault =>
    cases hexpected : fault.isExpected with
    | true =>
      simp only [hexpected]
      exact fun _ => ⟨rfl, rfl⟩
    | false =>
      simp only [hexpected]
      exact fun _ => ⟨rfl, rfl⟩
  | ok page =>
    cases hinfo : page.namespaceInfo with
    | none =>
      simp only [hinfo]
      exact fun _ => ⟨rfl, rfl⟩
    | some info =>
      simp only [hinfo]
      intro s
      obtain ⟨added, -, hgathers⟩ := gathers_addEnums s count info.enums
      refine ⟨hgathers.resolver, ?_⟩
      change (s.addEnums count info.enums).2.repository.declarations = _
      rw [hgathers.repository]

theorem spares_collectEnums (g : Guide) : Spares (collectEnums g) := by
  have hget : Spares (get : Work Run) := fun _ => ⟨rfl, rfl⟩
  refine hget.bind fun s => ?_
  generalize s.repository.discovered.inOrder = locations
  suffices hall : ∀ count, Spares (locations.foldlM (collectFrom g) count) from hall 0
  induction locations with
  | nil => exact fun _ _ => ⟨rfl, rfl⟩
  | cons location rest ih =>
    intro count
    rw [List.foldlM_cons]
    exact (spares_collectFrom g count location).bind fun count => ih count

end Run

/-- What may be asked of a resolver and its repository. -/
inductive Operation
  | seed (page : ParsedPage)
  | resolveAll
  | collectEnums
  | reset

/-- A run, with the names that have been looked through since the last reset, in their order. -/
structure Watched where
  run : Run
  looked : List Text

open Run

/-- What an operation that fails has done stays done. -/
def Operation.perform (g : Guide) (w : Watched) : Operation → Watched
  | .seed page => ⟨(w.run.seed page).2, w.looked⟩
  | .resolveAll => ⟨((Run.resolveAll g).run w.run).2, w.looked ++ lookedInAll g w.run⟩
  | .collectEnums => ⟨((Run.collectEnums g).run w.run).2, w.looked⟩
  | .reset => ⟨{ w.run with resolver := w.run.resolver.reset }, []⟩

/-- A new resolver on a repository, after some operations. -/
def watched (g : Guide) (r : Repository) (operations : List Operation) : Watched :=
  operations.foldl (Operation.perform g) ⟨fresh g r, []⟩

/-- The resolver agrees with its context, and knows what it has looked through. -/
structure Watched.Sound (w : Watched) : Prop where
  aligned : w.run.Aligned
  looked : w.run.resolver.scanned.keys = w.looked

namespace Watched.Sound

variable {g : Guide} {w : Watched}

theorem resolveAll (hroot : g.settings.documentRoot = none)
    (hresolve : ∀ d, ∃ location, g.Leads d location) (h : w.Sound) :
    (Operation.resolveAll.perform g w).Sound ∧
      (∃ stats, (Run.resolveAll g).run w.run =
        (.ok stats, (Operation.resolveAll.perform g w).run)) ∧
      (Operation.resolveAll.perform g w).run.repository.declarations.keys ⊆
        (Operation.resolveAll.perform g w).looked := by
  obtain ⟨stats, t, hrun, ht, hkeys, hall⟩ := h.aligned.resolveAll hroot hresolve
  rw [h.looked] at hkeys
  rw [Operation.perform, hrun]
  exact ⟨⟨ht, hkeys⟩, ⟨stats, rfl⟩, hkeys ▸ hall⟩

theorem perform (hroot : g.settings.documentRoot = none)
    (hresolve : ∀ d, ∃ location, g.Leads d location) (h : w.Sound) (operation : Operation) :
    (operation.perform g w).Sound := by
  cases operation with
  | seed page =>
    obtain ⟨haligned, hscanned⟩ := h.aligned.seed page
    exact ⟨haligned, hscanned ▸ h.looked⟩
  | resolveAll => exact (h.resolveAll hroot hresolve).1
  | collectEnums =>
    obtain ⟨hresolver, hdeclarations⟩ := spares_collectEnums g w.run
    exact ⟨h.aligned.of_same hresolver hdeclarations, hresolver ▸ h.looked⟩
  | reset => exact ⟨aligned_reset w.run, rfl⟩

theorem throughout (hroot : g.settings.documentRoot = none)
    (hresolve : ∀ d, ∃ location, g.Leads d location) (r : Repository)
    (operations : List Operation) : (watched g r operations).Sound := by
  induction operations using List.reverseRecOn with
  | nil => exact ⟨aligned_fresh g r, rfl⟩
  | append_singleton operations operation ih =>
    rw [watched, List.foldl_append]
    exact ih.perform hroot hresolve operation

end Watched.Sound

/-- Between any two operations on a repository the names that wait are those of the waiting items,
and none of them has been reported; each declaration that was found has a path, has been dealt with
and is stored. No name has been looked through twice since the last reset, and after a resolution,
which never fails, every stored declaration has been looked through exactly once. -/
theorem resolver_aligned (g : Guide) (hroot : g.settings.documentRoot = none)
    (hresolve : ∀ link source, ∃ location, g.fetcher.resolve link source = .ok location)
    (r : Repository) (operations : List Operation) :
    let w := watched g r operations
    let v := watched g r (operations ++ [.resolveAll])
    w.run.resolver.context.pending.keys = w.run.resolver.pending.values.map Item.name ∧
      (∀ name ∈ w.run.resolver.context.pending.keys, name ∉ w.run.resolver.circular.keys) ∧
      w.run.resolver.context.resolved.keys = w.run.resolver.context.ancestry.keys ∧
      w.run.resolver.context.resolved.keys ⊆ w.run.resolver.context.visited.keys ∧
      w.run.resolver.context.resolved.keys ⊆ w.run.repository.declarations.keys ∧
      w.run.resolver.scanned.keys = w.looked ∧ w.looked.Nodup ∧
      (∃ stats, (Run.resolveAll g).run w.run = (.ok stats, v.run)) ∧
      ∀ name ∈ v.run.repository.declarations.keys, v.looked.count name = 1 := by
  intro w v
  have hlinks (d : Dependency) : ∃ location, g.Leads d location := hresolve _ _
  have hw : w.Sound := .throughout hroot hlinks r operations
  have hv : v = Operation.resolveAll.perform g w := List.foldl_append
  obtain ⟨hsound, hrun, hall⟩ := hw.resolveAll hroot hlinks
  rw [← hv] at hsound hrun hall
  have hwaiting := hw.aligned.waiting
  refine ⟨hwaiting.trans hw.aligned.named.symm, hwaiting ▸ hw.aligned.apart, hw.aligned.paths,
    hw.aligned.dealtWith, hw.aligned.stored, hw.looked, hw.looked ▸ w.run.resolver.scanned.nodup,
    hrun, fun name hname => ?_⟩
  have hnodup : v.looked.Nodup := hsound.looked ▸ v.run.resolver.scanned.nodup
  exact List.count_eq_one_of_mem hnodup (hall hname)

/-- Two declarations, looked through once more after a reset. -/
theorem resolver_aligned_sample :
    (watched Sample.guide .empty [.seed Sample.seed, .resolveAll]).looked =
        ["A".toList, "B".toList] ∧
      (watched Sample.guide .empty [.seed Sample.seed, .resolveAll, .reset]).looked = [] ∧
      ∀ name ∈ ["A".toList, "B".toList], (watched Sample.guide .empty
        [.seed Sample.seed, .resolveAll, .reset, .resolveAll]).looked.count name = 1 := by
  obtain ⟨-, -, -, -, -, -, -, -, honce⟩ := resolver_aligned Sample.guide rfl Sample.leads .empty
    [.seed Sample.seed, .resolveAll, .reset]
  refine ⟨by decide +kernel, by decide +kernel, fun name hname => honce name ?_⟩
  have hstored : (watched Sample.guide .empty [.seed Sample.seed, .resolveAll, .reset,
      .resolveAll]).run.repository.declarations.keys = ["A".toList, "B".toList] := by
    decide +kernel
  exact hstored ▸ hname

end TypeAtlas
