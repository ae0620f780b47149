import TypeAtlas.Proofs.Resolution.Rootless
import TypeAtlas.Proofs.Resolution.Tracing

/-!
Which cycles of links are found. A link is compared with one path only, the one by which its
declaration was first found. So a cycle is reported where one of its declarations lies on the path
of the one that refers to it. A cycle that is entered at several declarations in one round may have
no such link, and is passed over.
-/

namespace TypeAtlas

namespace Run

/-- A stored declaration refers to another by a link. -/
def Refers (g : Guide) (t : Run) (name other : Text) : Prop :=
  other ∈ t.repository.declarations.keys ∧ ∃ x, LinksTo g t name x ∧ x.fullName = other

instance (g : Guide) (t : Run) (name other : Text) : Decidable (Refers g t name other) :=
  decidable_of_iff ((t.repository.declarations.contains other &&
      (t.repository.declarations.get? name).any fun d =>
        (g.uses name d (t.resolver.pages.get? name)).any fun x =>
          x.isLinked && x.fullName = other) = true) <| by
    rw [Bool.and_eq_true, Option.any_eq_true]
    apply and_congr Keyed.contains_iff
    constructor
    · rintro ⟨d, hd, hany⟩
      obtain ⟨x, hx, hx'⟩ := List.any_eq_true.mp hany
      obtain ⟨hlinked, hfull⟩ := Bool.and_eq_true_iff.mp hx'
      exact ⟨x, ⟨d, hd, hx, hlinked⟩, of_decide_eq_true hfull⟩
    · rintro ⟨x, ⟨d, hd, hx, hlinked⟩, hfull⟩
      exact ⟨d, hd, List.any_eq_true.mpr ⟨x, hx,
        Bool.and_eq_true_iff.mpr ⟨hlinked, decide_eq_true hfull⟩⟩⟩

/-- Two declarations or more, all different, each of which refers to the next one, and the last to
the first. A cycle may be begun at any of its declarations. -/
structure Ring (g : Guide) (t : Run) (first : Text) (rest : List Text) (last : Text) : Prop where
  nodup : (first :: rest).Nodup
  chain : (first :: rest).IsChain (Refers g t)
  ends : rest.getLast? = some last
  back : Refers g t last first

/-- Every way along links from `root` to `last` passes through `first`. -/
def Guards (g : Guide) (t : Run) (root first last : Text) : Prop :=
  ∀ way : List Text, way.head? = some root → way.getLast? = some last →
    way.IsChain (Refers g t) → first ∈ way

/-- Each way from the root begins at the root. -/
theorem guards_root (g : Guide) (t : Run) (root last : Text) : Guards g t root root last :=
  fun _ hhead _ _ => List.mem_of_head? hhead

variable {g : Guide} {t : Run} {first last : Text} {rest : List Text}

theorem Ring.last_mem (h : Ring g t first rest last) : last ∈ rest := List.mem_of_getLast? h.ends

theorem Ring.first_ne_last (h : Ring g t first rest last) : first ≠ last := by
  rintro rfl
  exact (List.nodup_cons.mp h.nodup).1 h.last_mem

theorem Refers.stored {name other : Text} (h : Refers g t name other) :
    name ∈ t.repository.declarations.keys := by
  obtain ⟨_, x, ⟨d, hd, _⟩, _⟩ := h
  exact Keyed.mem_keys_iff.mpr ⟨d, hd⟩

end Run

open Run

variable {a : Atlas} {k n : Nat} {s t : Run} {name : Text}

theorem Charted.refers (h : Charted a {x | a.Within k x} t) {other : Text}
    (hname : name ∈ t.repository.declarations.keys)
    (hother : other ∈ t.repository.declarations.keys) (hl : a.LeadsTo name other) :
    Refers a.guide t name other := by
  obtain ⟨d, kept, hheld, x, hx, hlinked, hfull⟩ := hl
  exact ⟨hother, x, (h.linksTo_iff hname).mpr ⟨d, kept, hheld, hx, hlinked⟩, hfull⟩

/-- A way from the root to a stored declaration leads through stored declarations. -/
theorem Traced.refers (h : Traced a t) (hcharted : Charted a {x | a.Within k x} t)
    (hname : name ∈ t.repository.declarations.keys) :
    (t.trail name).IsChain (Refers a.guide t) := by
  have hstored := hcharted.trail hname
  apply List.IsChain.imp_of_mem_imp _ (h.way_trail hname).chain
  exact fun y z hy hz hl => hcharted.refers (hstored y hy) (hstored z hz) hl

/-- A name that is reported closes a cycle with the path of a declaration. -/
theorem Traced.ring (h : Traced a t) (hcharted : Charted a {x | a.Within k x} t)
    (hname : name ∈ t.resolver.circular.keys) : ∃ rest last, Ring a.guide t name rest last ∧
      name ∈ t.resolver.context.pathTo last := by
  obtain ⟨last, hlast, hpath, hleads⟩ := h.circular name hname
  obtain ⟨before, rest, hsplit⟩ := List.append_of_mem hpath
  have htrail : t.trail last = before ++ name :: (rest ++ [last]) := by
    rw [trail, hsplit, List.append_assoc]
    rfl
  have hnodup := (h.way_trail hlast).nodup
  have hchain := h.refers hcharted hlast
  rw [htrail] at hnodup hchain
  refine ⟨rest ++ [last], last, ⟨(List.nodup_append.mp hnodup).2.1,
    (List.isChain_append.mp hchain).2.1, List.getLast?_concat, ?_⟩, hpath⟩
  have hstored : name ∈ t.trail last := List.mem_append_left _ hpath
  exact hcharted.refers hlast (hcharted.trail hlast name hstored) hleads

/-- What a run over consistent pages is like after `k` rounds, everything having been looked
through. -/
structure Surveyed (a : Atlas) (k : Nat) (s : Run) : Prop where
  reached : Reached a k s
  attended : Attended a.guide (seeded a.guide a.seed) k s
  traced : Traced a s

namespace Surveyed

theorem first (ha : a.Consistent) (hroot : a.guide.settings.documentRoot = none) :
    ∃ t, (discover a.guide).run (seeded a.guide a.seed) = (.ok (), t) ∧ Surveyed a 0 t := by
  have hcharted : Charted a {x | a.Within 0 x} (seeded a.guide a.seed) := charted_seeded ha
  obtain ⟨t, hrun, hreached⟩ := Reached.seeded ha hroot
  have hunresolved : (seeded a.guide a.seed).Unresolved :=
    (unresolved_fresh a.guide .empty).seed a.seed
  have hpoised : (seeded a.guide a.seed).Poised := poised_seedAll a.guide .empty [a.seed]
  obtain ⟨u, hrun', hattended⟩ := Attended.first hroot hpoised hunresolved
    fun name x hx => ⟨_, (hcharted.leads ha hx).2.1⟩
  obtain ⟨v, hrun'', htraced⟩ := (Traced.seeded ha).discover ha hroot hcharted
  rw [hrun] at hrun' hrun''
  cases hrun'
  cases hrun''
  exact ⟨t, hrun, hreached, hattended, htraced⟩

theorem step (ha : a.Consistent) (hroot : a.guide.settings.documentRoot = none)
    (h : Surveyed a k (stage a.guide (seeded a.guide a.seed) k)) :
    ∃ t, (discover a.guide).run (round a.guide (stage a.guide (seeded a.guide a.seed) k)) =
      (.ok (), t) ∧ Surveyed a (k + 1) t := by
  have hcharted := h.reached.round ha
  obtain ⟨t, hrun, hreached⟩ := h.reached.step ha hroot
  obtain ⟨u, hrun', hattended⟩ := h.attended.step hroot
    fun name x hx => ⟨_, (hcharted.leads ha hx).2.1⟩
  obtain ⟨v, hrun'', htraced⟩ := (h.traced.round ha h.attended.poised).discover ha hroot hcharted
  rw [hrun] at hrun' hrun''
  cases hrun'
  cases hrun''
  exact ⟨t, hrun, hreached, hattended, htraced⟩

/-- As the run enters a look, its paths and links are those that it has in the end. -/
theorem entering (ha : a.Consistent)
    (h : ∀ k ≤ n, Surveyed a k (stage a.guide (seeded a.guide a.seed) k)) (hk : k ≤ n) :
    Charted a {x | a.Within k x} (entering a.guide (seeded a.guide a.seed) k) ∧
      Traced a (entering a.guide (seeded a.guide a.seed) k) := by
  cases k with
  | zero => exact ⟨charted_seeded ha, .seeded ha⟩
  | succ k =>
    have hsurveyed := h k (Nat.le_of_succ_le hk)
    exact ⟨hsurveyed.reached.round ha, hsurveyed.traced.round ha hsurveyed.attended.poised⟩

/-- When nothing is left to do, a link to a name on the path of its declaration has been
reported. -/
theorem reported (ha : a.Consistent)
    (h : ∀ k ≤ n, Surveyed a k (stage a.guide (seeded a.guide a.seed) k))
    (hdone : (finish a.guide (stage a.guide (seeded a.guide a.seed) n)).resolver.stats.isCapped =
      false) {first last : Text}
    (hrefers : Refers a.guide (finish a.guide (stage a.guide (seeded a.guide a.seed) n)) last first)
    (hother : first ≠ last) (hpath : first ∈ (finish a.guide
      (stage a.guide (seeded a.guide a.seed) n)).resolver.context.pathTo last) :
    first ∈ (finish a.guide (stage a.guide (seeded a.guide a.seed) n)).resolver.circular.keys := by
  let t := stage a.guide (seeded a.guide a.seed) n
  have hn := h n (Nat.le_refl n)
  have hlast := hrefers.stored
  obtain ⟨_, x, hx, rfl⟩ := hrefers
  obtain ⟨k, hk, hlooked, hgains, hread⟩ := hn.attended.finish hdone last hlast
  obtain ⟨hcharted, htraced⟩ := entering ha h hk
  -- the link was there when the declaration was looked through
  have hx' : LinksTo a.guide (Run.entering a.guide (seeded a.guide a.seed) k) last x := by
    have hend : LinksTo a.guide t last x := by
      obtain ⟨isCapped, hresolver⟩ := finish_resolver a.guide t
      obtain ⟨d, hd, hx⟩ := hx
      rw [finish_repository] at hd
      rw [hresolver] at hx
      exact ⟨d, hd, hx⟩
    rw [finish_repository] at hlast
    exact (hcharted.linksTo_iff hlooked.stored).mpr
      ((hn.reached.charted.linksTo_iff hlast).mp hend)
  have hpath' : x.fullName ∈ (Run.entering a.guide (seeded a.guide a.seed) k).trail last := by
    rw [htraced.pathTo_of_gains hgains hlooked.stored] at hpath
    exact List.mem_append_left _ hpath
  cases hread x hx' with
  | own hown => exact absurd hown hother
  | reported hreported => exact hreported
  | apart hapart => exact absurd hpath' hapart

end Surveyed

theorem Atlas.Consistent.loops_of_none (ha : a.Consistent)
    (hroot : a.guide.settings.documentRoot = none) :
    ∃ stats t, (resolveAll a.guide).run (seeded a.guide a.seed) = (.ok stats, t) ∧
      stats.circular = t.resolver.circular.size ∧
      (stats.isCapped = false → ∀ first rest last, Ring a.guide t first rest last →
        first ∈ t.resolver.context.pathTo last ∨ Guards a.guide t a.root first last →
          first ∈ t.resolver.circular.keys) ∧
      ∀ name ∈ t.resolver.circular.keys, ∃ rest last, Ring a.guide t name rest last ∧
        name ∈ t.resolver.context.pathTo last := by
  let s := seeded a.guide a.seed
  obtain ⟨n, hcourse, hsurveyed⟩ := resolveAll_run (I := Surveyed a) (s := s)
    (Surveyed.first ha hroot) fun k h _ => h.step ha hroot
  have hn := hsurveyed n (Nat.le_refl n)
  let t := finish a.guide (stage a.guide s n)
  have hcharted : Charted a {x | a.Within n x} t := hn.reached.charted.finish
  have htraced : Traced a t := hn.traced.finish
  refine ⟨_, t, hcourse.run, htraced.counted, ?_, fun name hname => htraced.ring hcharted hname⟩
  intro hdone first rest last hring hon
  apply Surveyed.reported ha hsurveyed hdone hring.back hring.first_ne_last
  rcases hon with hpath | hguards
  · exact hpath
  · have hway := htraced.way_trail hring.back.stored
    have hmem := hguards _ hway.start List.getLast?_concat
      (htraced.refers hcharted hring.back.stored)
    rcases List.mem_append.mp hmem with hmem | hmem
    · exact hmem
    · exact absurd (List.mem_singleton.mp hmem) hring.first_ne_last

namespace Run

variable {g : Guide}

theorem Ring.rootless {t : Run} {first last : Text} {rest : List Text} :
    Ring g.rootless t first rest last ↔ Ring g t first rest last :=
  ⟨fun h => ⟨h.nodup, h.chain, h.ends, h.back⟩, fun h => ⟨h.nodup, h.chain, h.ends, h.back⟩⟩

theorem consistent_rootless {page : Text → Text} {seed : ParsedPage} {start : Declaration}
    (h : (Atlas.mk g page seed start).Consistent) :
    (Atlas.mk g.rootless page seed start).Consistent :=
  ⟨h.seed, h.source, h.leads, h.notNamespace, h.injective, h.declares, h.reports⟩

theorem keys_seeded_of_none {p : ParsedPage} (h : p.declaration = none) :
    (seeded g p).repository.declarations.keys = [] := by
  unfold seeded seed
  rw [h]
  cases p.isNamespace <;> rfl

/-- A page that declares nothing leaves nothing to do. -/
theorem resolveAll_of_none {p : ParsedPage} (h : p.declaration = none) :
    (resolveAll g).run (seeded g p) = (.ok .zero, seeded g p) := by
  have hunresolved : (seeded g p).Unresolved := (unresolved_fresh g .empty).seed p
  have hnothing : (discover g).run (seeded g p) = (.ok (), seeded g p) :=
    discover_run_of_scanned (keys_seeded_of_none (g := g) h ▸ List.nil_subset _)
  have hdone : (seeded g p).resolver.pending.entries = [] := by
    rw [hunresolved.pending]
    rfl
  obtain ⟨n, hcourse, hsame⟩ := resolveAll_run (I := fun _ t => t = seeded g p)
    ⟨_, hnothing, rfl⟩ fun k hk hbusy => absurd (by rw [hk, hdone]) hbusy
  have hfinish : finish g (seeded g p) = seeded g p := by
    rw [finish, closed, hdone]
    simp only [List.isEmpty_nil, ↓reduceIte]
    rw [hunresolved.circular]
    rfl
  have hrun := hcourse.run
  rw [hsame n (Nat.le_refl n), hfinish, hunresolved.stats] at hrun
  exact hrun

theorem loops_of_some {page : Text → Text} {p : ParsedPage} {start : Declaration}
    (ha : (Atlas.mk g page p start).Consistent)
    (hroot : g.settings.documentRoot = none ∨ Keeps g ∧ g.fetcher.fetch p.source = .ok p) :
    ∃ stats t, (resolveAll g).run (seeded g p) = (.ok stats, t) ∧
      stats.circular = t.resolver.circular.size ∧
      (stats.isCapped = false → ∀ first rest last, Ring g t first rest last →
        first ∈ t.resolver.context.pathTo last ∨ Guards g t start.fullName first last →
          first ∈ t.resolver.circular.keys) ∧
      ∀ name ∈ t.resolver.circular.keys, ∃ rest last, Ring g t name rest last ∧
        name ∈ t.resolver.context.pathTo last := by
  rcases hroot with hroot | ⟨hkeeps, hfetch⟩
  · exact ha.loops_of_none hroot
  · obtain ⟨stats, t, hrun, hstats, hloops, hreal⟩ := (consistent_rootless ha).loops_of_none rfl
    have hsame := (followable_seeded hkeeps hfetch).resolveAll_rootless hkeeps
    refine ⟨stats, t, hsame.trans hrun, hstats, ?_, ?_⟩
    · exact fun hdone first rest last hring =>
        hloops hdone first rest last (Ring.rootless.mpr hring)
    · intro name hname
      obtain ⟨rest, last, hring, hpath⟩ := hreal name hname
      exact ⟨rest, last, Ring.rootless.mp hring, hpath⟩

/-- Resolution from any page of a consistent set, where pages that are looked for by name are all
known. A cycle of links is reported where its first declaration lies on the path by which the last
one was found; so it is if every way from the seed to the last one passes through the first, in
particular if that is the seed. No other names are reported. -/
theorem loops_reported (g : Guide) (page : Text → Text) (p : ParsedPage)
    (ha : ∀ start, p.declaration = some start → (Atlas.mk g page p start).Consistent)
    (hroot : g.settings.documentRoot = none ∨ Keeps g ∧ g.fetcher.fetch p.source = .ok p) :
    ∃ stats t, (resolveAll g).run (seeded g p) = (.ok stats, t) ∧
      (stats.isCapped = false → ∀ first rest last, Ring g t first rest last →
        (first ∈ t.resolver.context.pathTo last ∨
          ∃ start, p.declaration = some start ∧ Guards g t start.fullName first last) →
        first ∈ t.resolver.circular.keys ∧ 1 ≤ stats.circular) ∧
      (1 ≤ stats.circular → ∃ first rest last, Ring g t first rest last ∧
        first ∈ t.resolver.context.pathTo last) := by
  cases hd : p.declaration with
  | none =>
    have hempty := keys_seeded_of_none (g := g) hd
    refine ⟨_, _, resolveAll_of_none hd, ?_, nofun⟩
    intro _ first rest last hring
    have hstored := hring.back.1
    rw [hempty] at hstored
    exact absurd hstored List.not_mem_nil
  | some start =>
    obtain ⟨stats, t, hrun, hstats, hloops, hreal⟩ := loops_of_some (ha start hd) hroot
    refine ⟨stats, t, hrun, ?_, ?_⟩
    · intro hdone first rest last hring hon
      have hreported : first ∈ t.resolver.circular.keys := by
        apply hloops hdone first rest last hring
        refine hon.imp id ?_
        rintro ⟨_, hstart, hguards⟩
        cases hstart
        exact hguards
      rw [hstats, ← Keyed.length_keys]
      exact ⟨hreported, List.length_pos_of_mem hreported⟩
    · intro hsome
      rw [hstats, ← Keyed.length_keys] at hsome
      obtain ⟨first, hfirst⟩ := List.exists_mem_of_length_pos hsome
      exact ⟨first, hreal first hfirst⟩

/-- "B" refers back to the seed. -/
theorem loops_reported_sample :
    ∃ stats t, (resolveAll Sample.guide).run (seeded Sample.guide Sample.seed) = (.ok stats, t) ∧
      "A".toList ∈ t.resolver.circular.keys ∧ 1 ≤ stats.circular := by
  obtain ⟨stats, t, hrun, hloops, _⟩ := loops_reported Sample.guide id Sample.seed
    (fun start hstart => by cases hstart; exact Sample.consistent) (.inl rfl)
  have hends : (((resolveAll Sample.guide).run
      (seeded Sample.guide Sample.seed)).1.map (·.isCapped)).toOption = some false := by
    decide +kernel
  have hrefers : Refers Sample.guide
        ((resolveAll Sample.guide).run (seeded Sample.guide Sample.seed)).2 "A" "B" ∧
      Refers Sample.guide
        ((resolveAll Sample.guide).run (seeded Sample.guide Sample.seed)).2 "B" "A" := by
    decide +kernel
  rw [hrun] at hends hrefers
  have hring : Ring Sample.guide t "A" ["B"] "B" :=
    ⟨by decide, .cons_cons hrefers.1 (.singleton _), rfl, hrefers.2⟩
  exact ⟨stats, t, hrun, hloops (Option.some.inj hends) "A" ["B"] "B" hring
    (.inr ⟨_, rfl, guards_root _ _ _ _⟩)⟩

end Run

namespace Sample

/-- "A" refers to "B" and "C", which refer to one another. -/
def fetchTwins (location : Text) : Except PageFault ParsedPage :=
  if location = "B" then .ok (page "B" ["C"])
  else if location = "C" then .ok (page "C" ["B"])
  else .error (.unexplained "gone")

def twins : Atlas := { atlas with guide := { guide with
  fetcher := { guide.fetcher with fetch := fetchTwins } } }

theorem page_of_fetchTwins {location : Text} {p : ParsedPage} (h : fetchTwins location = .ok p) :
    location = "B" ∧ p = page "B" ["C"] ∨ location = "C" ∧ p = page "C" ["B"] := by
  unfold fetchTwins at h
  split at h
  · cases h
    exact .inl ⟨‹_›, rfl⟩
  · split at h
    · cases h
      exact .inr ⟨‹_›, rfl⟩
    · cases h

theorem uses_of_twins {p : ParsedPage} {d : Declaration}
    (hp : p = twins.seed ∨ ∃ location, twins.guide.fetcher.fetch location = .ok p)
    (hd : p.declaration = some d) : ∀ x ∈ twins.guide.uses d.fullName d p.kept, x.isLinked = true →
      x.link = some x.fullName ∧ (x.fullName = "B" ∨ x.fullName = "C") := by
  have hpage : p = seed ∨ p = page "B" ["C"] ∨ p = page "C" ["B"] := by
    rcases hp with hp | ⟨location, hfetch⟩
    · exact .inl hp
    · exact .inr ((page_of_fetchTwins hfetch).imp And.right And.right)
  rcases hpage with rfl | rfl | rfl <;> cases hd <;> with_unfolding_all decide

theorem linked_twins {name : Text} (h : twins.Linked name) : name = "B" ∨ name = "C" := by
  obtain ⟨p, d, hp, hd, x, hx, hlinked, rfl⟩ := h
  exact (uses_of_twins hp hd x hx hlinked).2

theorem consistent_twins : twins.Consistent where
  seed := rfl
  source := rfl
  leads p d hp hd x hx hlinked := by
    change Except.ok (x.link.getD []) = Except.ok x.fullName
    rw [(uses_of_twins hp hd x hx hlinked).1]
    rfl
  notNamespace name h := by
    rcases linked_twins h with rfl | rfl <;> decide
  injective := Set.injOn_id _
  declares name _ p d hfetch hd := by
    rcases page_of_fetchTwins hfetch with ⟨hname, rfl⟩ | ⟨hname, rfl⟩ <;>
    · cases hd
      exact hname.symm
  reports name h told path := by
    rcases linked_twins h with rfl | rfl <;> nofun

end Sample

namespace Run

/-- A cycle that is entered at all of its declarations at once is not reported. -/
theorem loops_reported_twins : ¬ ∀ a : Atlas, a.guide.settings.documentRoot = none →
    a.Consistent → (∀ name, a.Linked name → a.Declared name) →
    ∀ stats t, (resolveAll a.guide).run (seeded a.guide a.seed) = (.ok stats, t) →
      stats.isCapped = false → ∀ first rest last, Ring a.guide t first rest last →
        1 ≤ stats.circular := by
  intro hall
  let s := seeded Sample.twins.guide Sample.twins.seed
  have hends : (((resolveAll Sample.twins.guide).run s).1.map
      fun stats => (stats.isCapped, stats.circular)).toOption = some (false, 0) := by
    decide +kernel
  have hrefers : Refers Sample.twins.guide ((resolveAll Sample.twins.guide).run s).2 "B" "C" ∧
      Refers Sample.twins.guide ((resolveAll Sample.twins.guide).run s).2 "C" "B" := by
    decide +kernel
  have hdeclared (name : Text) (h : Sample.twins.Linked name) : Sample.twins.Declared name := by
    rcases Sample.linked_twins h with rfl | rfl <;> exact ⟨_, _, rfl⟩
  rcases hrun : (resolveAll Sample.twins.guide).run s with ⟨_ | stats, t⟩
  · rw [hrun] at hends
    cases hends
  rw [hrun] at hends hrefers
  obtain ⟨hcapped, hcount⟩ := Prod.mk.inj (Option.some.inj hends)
  have hring : Ring Sample.twins.guide t "B" ["C"] "C" :=
    ⟨by decide, .cons_cons hrefers.1 (.singleton _), rfl, hrefers.2⟩
  have hreported := hall Sample.twins rfl Sample.consistent_twins hdeclared stats t hrun hcapped
    "B" ["C"] "C" hring
  omega

end Run

end TypeAtlas
