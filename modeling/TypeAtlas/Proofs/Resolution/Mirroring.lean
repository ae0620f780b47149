import TypeAtlas.Proofs.Resolution.Counterparts
import TypeAtlas.Resolution.Session

/-!
Two guides that lead through the same pages at different locations do the same: each piece of work
leaves runs alike that were alike before, and so a whole session ends alike.
-/

namespace TypeAtlas

namespace Run

variable {R : Text → Text → Prop} {F : PageFault → PageFault → Prop} {g g' : Guide} {s t : Run}

/-! Work, as what it gives. -/

section Results

variable {α β : Type}

/-- What work gives and leaves, or its fault. -/
def result (w : Work α) (s : Run) : Except PageFault (α × Run) :=
  match w.run s with
  | (.ok a, t) => .ok (a, t)
  | (.error fault, _) => .error fault

theorem result_of_run {w : Work α} {s t : Run} {a : α} (h : w.run s = (.ok a, t)) :
    result w s = .ok (a, t) := by
  rw [result, h]

theorem result_congr {w w' : Work α} {s s' : Run} (h : w.run s = w'.run s') :
    result w s = result w' s' := by
  rw [result, result, h]

theorem result_bind (w : Work α) (f : α → Work β) (s : Run) :
    result (w >>= f) s = result w s >>= fun x => result (f x.1) x.2 := by
  rcases hrun : w.run s with ⟨x, t⟩
  cases x with
  | ok a =>
    rw [result_of_run hrun, result, bind_run hrun]
    rfl
  | error fault =>
    simp only [ExceptT.run] at hrun
    simp only [result, ExceptT.run, Bind.bind, ExceptT.bind, ExceptT.mk, StateT.bind, hrun]
    rfl

@[simp] theorem result_pure (a : α) (s : Run) : result (pure a) s = .ok (a, s) := rfl

@[simp] theorem result_get (s : Run) : result get s = .ok (s, s) := rfl

@[simp] theorem result_modify (f : Run → Run) (s : Run) : result (modify f) s = .ok ((), f s) :=
  rfl

@[simp] theorem result_set (t s : Run) : result (set t) s = .ok ((), t) := rfl

@[simp] theorem result_throw (fault : PageFault) (s : Run) :
    result (throw fault : Work α) s = .error fault := rfl

@[simp] theorem result_lift (x : Except PageFault α) (s : Run) :
    result (liftM x) s = x.map fun a => (a, s) := by
  cases x <;> rfl

theorem result_schedule (g : Guide) (parent : Text) (d : Dependency) (s : Run) :
    result (schedule g parent d) s =
      if s.isSettled parent d then .ok ((), s)
      else if (s.trail parent).contains d.fullName then
        (g.fetcher.resolve (d.link.getD []) d.source).map fun location =>
          ((), s.enqueue ⟨d, location, s.trail parent⟩)
      else if s.isKnown d then .ok ((), s)
      else (g.fetcher.resolve (d.link.getD []) d.source).map fun location =>
        ((), if s.repository.visited.has location then s
          else (s.visit location).enqueue ⟨d, location, s.trail parent⟩) := by
  rw [schedule, result_bind, result_get, ok_bind]
  cases hsettled : s.isSettled parent d with
  | true => rfl
  | false =>
    cases hpath : (s.trail parent).contains d.fullName with
    | true =>
      rw [trail] at hpath
      simp only [hpath, Bool.false_eq_true, ↓reduceIte, result_bind, result_lift]
      cases g.fetcher.resolve (d.link.getD []) d.source <;> rfl
    | false =>
      rw [trail] at hpath
      cases hknown : s.isKnown d with
      | true =>
        simp only [hpath, Bool.false_eq_true, ↓reduceIte]
        rfl
      | false =>
        simp only [hpath, Bool.false_eq_true, ↓reduceIte, Bool.not_false, result_bind, result_lift]
        cases g.fetcher.resolve (d.link.getD []) d.source with
        | error fault => rfl
        | ok location =>
          simp only [Except.map, ok_bind]
          cases s.repository.visited.has location <;> rfl

end Results

/-! Work under both guides. -/

/-- Both works give the same and leave runs that are alike, or both fail. -/
def InStep {α : Type} (R : Text → Text → Prop) (F : PageFault → PageFault → Prop) (g g' : Guide)
    (w w' : Work α) (s t : Run) : Prop :=
  EndAlike F (fun x y => y.1 = x.1 ∧ x.2.Alike R F g g' y.2) (result w s) (result w' t)

namespace InStep

variable {α β γ δ : Type} {w w' : Work α}

theorem pure (h : s.Alike R F g g' t) (a : α) : InStep R F g g' (pure a) (Pure.pure a) s t :=
  .ok ⟨rfl, h⟩

theorem modify {f f' : Run → Run} (h : (f s).Alike R F g g' (f' t)) :
    InStep R F g g' (modify f) (modify f') s t :=
  .ok ⟨rfl, h⟩

theorem bind {f f' : α → Work β} (h : InStep R F g g' w w' s t)
    (hstep : ∀ a s t, s.Alike R F g g' t → InStep R F g g' (f a) (f' a) s t) :
    InStep R F g g' (w >>= f) (w' >>= f') s t := by
  unfold InStep
  rw [result_bind, result_bind]
  apply EndAlike.bind h
  rintro ⟨a, s⟩ ⟨b, t⟩ ⟨rfl, hst⟩
  exact hstep _ s t hst

theorem get {f f' : Run → Work β} (h : InStep R F g g' (f s) (f' t) s t) :
    InStep R F g g' (get >>= f) (MonadState.get >>= f') s t := by
  unfold InStep
  rw [result_bind, result_bind]
  exact h

theorem forM {Q : γ → δ → Prop} {f : γ → Work Unit} {f' : δ → Work Unit} {l : List γ}
    {l' : List δ} (hl : List.Forall₂ Q l l') (h : s.Alike R F g g' t)
    (hstep : ∀ x y s t, Q x y → s.Alike R F g g' t → InStep R F g g' (f x) (f' y) s t) :
    InStep R F g g' (l.forM f) (l'.forM f') s t := by
  induction hl generalizing s t with
  | nil => exact .pure h ()
  | cons hx _ ih => exact (hstep _ _ s t hx h).bind fun _ _ _ ht => ih ht

theorem foldlM {Q : γ → δ → Prop} {f : α → γ → Work α} {f' : α → δ → Work α} {l : List γ}
    {l' : List δ} (hl : List.Forall₂ Q l l') (h : s.Alike R F g g' t) (a : α)
    (hstep : ∀ a x y s t, Q x y → s.Alike R F g g' t → InStep R F g g' (f a x) (f' a y) s t) :
    InStep R F g g' (l.foldlM f a) (l'.foldlM f' a) s t := by
  induction hl generalizing a s t with
  | nil => exact .pure h a
  | cons hx _ ih =>
    rw [List.foldlM_cons, List.foldlM_cons]
    exact (hstep a _ _ s t hx h).bind fun b _ _ ht => ih ht b

end InStep

end Run

/-- References that lead to counterparts, as far as they lead anywhere. -/
structure Dependency.Alike (R : Text → Text → Prop) (F : PageFault → PageFault → Prop)
    (g g' : Guide) (d d' : Dependency) : Prop where
  fullName : d'.fullName = d.fullName
  link : d'.link = d.link
  resolve : d.isLinked = true → EndAlike F R
    (g.fetcher.resolve (d.link.getD []) d.source) (g'.fetcher.resolve (d.link.getD []) d'.source)

namespace Guide.Mirrors

variable {R : Text → Text → Prop} {F : PageFault → PageFault → Prop} {g g' : Guide} {s t : Run}

theorem uses_alike (hg : g.Mirrors R F g') (name : Text) (d : Declaration)
    {kept kept' : Option PageLinks} (h : Option.Rel (PageLinks.Alike R F g g') kept kept') :
    List.Forall₂ (Dependency.Alike R F g g') (g.uses name d kept) (g'.uses name d kept') := by
  cases h with
  | none =>
    rw [show g'.uses name d none = g.uses name d none by rw [Guide.uses, Guide.uses, hg.registry],
      List.forall₂_same]
    intro x hx
    refine ⟨rfl, rfl, fun hlinked => ?_⟩
    rw [unlinked_of_uses_none hx] at hlinked
    cases hlinked
  | @some p p' hp =>
    rw [hg.uses name d hp, List.forall₂_map_right_iff, List.forall₂_same]
    intro x hx
    refine ⟨rfl, rfl, fun hlinked => ?_⟩
    obtain ⟨hsource, target, htarget, hlink⟩ := link_of_uses_some hx hlinked
    rw [hlink, hsource]
    exact hp.resolve target htarget

theorem schedule (hg : g.Mirrors R F g') (h : s.Alike R F g g' t) (parent : Text)
    {d d' : Dependency} (hd : d.Alike R F g g' d') :
    Run.InStep R F g g' (Run.schedule g parent d) (Run.schedule g' parent d') s t := by
  unfold Run.InStep
  rw [Run.result_schedule, Run.result_schedule, h.isSettled parent hd.fullName hd.link, h.trail,
    hd.fullName, h.isKnown hd.fullName, hd.link]
  cases hsettled : s.isSettled parent d with
  | true => exact .ok ⟨rfl, h⟩
  | false =>
    -- Only what is linked gets here, and only its link has a counterpart.
    have hresolve := hd.resolve (Run.unsettled hsettled).1
    have hitem {a b : Text} (hab : R a b) :
        Item.Alike R ⟨d, a, s.trail parent⟩ ⟨d', b, s.trail parent⟩ := ⟨hd.fullName, hab, rfl⟩
    rw [if_neg Bool.false_ne_true, if_neg Bool.false_ne_true]
    split
    · exact hresolve.map fun a b hab => ⟨rfl, h.enqueue (hitem hab)⟩
    split
    · exact .ok ⟨rfl, h⟩
    · refine hresolve.map fun a b hab => ⟨rfl, ?_⟩
      simp only [h.visited.has hg.pairing hab]
      split
      · exact h
      · exact (h.visit hg.pairing hab).enqueue (hitem hab)

theorem scan (hg : g.Mirrors R F g') (h : s.Alike R F g g' t) (name : Text) (d : Declaration) :
    Run.InStep R F g g' (Run.scan g name d) (Run.scan g' name d) s t := by
  unfold Run.InStep
  by_cases hscanned : name ∈ s.resolver.scanned.keys
  · rw [Run.result_of_run (Run.scan_run_of_scanned hscanned),
      Run.result_of_run (Run.scan_run_of_scanned (h.scanned ▸ hscanned))]
    exact .ok ⟨rfl, h⟩
  · have hroot' : g'.settings.documentRoot = none := hg.settings ▸ hg.root
    obtain ⟨links, hrun⟩ := Run.scan_run_of_page d hscanned fun u hu =>
      hu ▸ Run.pageOf_run hg.root name u
    obtain ⟨links', hrun'⟩ := Run.scan_run_of_page (s := t) d (h.scanned ▸ hscanned) fun u hu =>
      hu ▸ Run.pageOf_run hroot' name u
    rw [Run.result_congr hrun, Run.result_congr hrun']
    exact Run.InStep.forM (hg.uses_alike name d (h.pages.get? name)) (h.begin name links links')
      fun x y u v hxy hu => hg.schedule hu name hxy

theorem discover (hg : g.Mirrors R F g') (h : s.Alike R F g g' t) :
    Run.InStep R F g g' (Run.discover g) (Run.discover g') s t := by
  apply Run.InStep.get
  rw [h.declarations]
  exact .forM (List.forall₂_same.mpr fun _ _ => rfl) h fun x y u v hxy hu =>
    hxy ▸ hg.scan hu x.1 x.2

theorem roundsFrom (hg : g.Mirrors R F g') (left : Nat) (h : s.Alike R F g g' t) :
    Run.InStep R F g g' (Run.roundsFrom g left) (Run.roundsFrom g' left) s t := by
  induction left generalizing s t with
  | zero =>
    apply Run.InStep.get
    rw [h.pending.isEmpty]
    split
    · exact .pure h ()
    · exact .modify ((h.onStats _).warn _ _)
  | succ left ih =>
    apply Run.InStep.get
    rw [h.pending.isEmpty]
    split
    · exact .pure h ()
    · exact (Run.InStep.modify (h.round hg)).bind fun _ _ _ hround =>
        (hg.discover hround).bind fun _ _ _ => ih

theorem resolveAll (hg : g.Mirrors R F g') (h : s.Alike R F g g' t) :
    Run.InStep R F g g' (Run.resolveAll g) (Run.resolveAll g') s t := by
  apply (hg.discover h).bind
  intro _ s t h
  apply Run.InStep.get
  rw [hg.settings, h.stats]
  apply (hg.roundsFrom _ h).bind
  intro _ s t h
  apply Run.InStep.get
  rw [h.circular, h.stats]
  split
  · exact .pure h _
  · exact (Run.InStep.modify (h.warn _ _)).bind fun _ _ _ h => .pure h _

/-! Enumerations, and the session. -/

theorem collectFrom (hg : g.Mirrors R F g') (h : s.Alike R F g g' t) (count : Nat) {a b : Text}
    (hab : R a b) :
    Run.InStep R F g g' (Run.collectFrom g count a) (Run.collectFrom g' count b) s t := by
  have hnoted : (s.noteFetch a).Alike R F g g' (t.noteFetch b) := { h with }
  apply (Run.InStep.modify hnoted).bind
  intro _ s t h
  have hfetch := hg.fetch a b hab
  generalize g.fetcher.fetch a = x, g'.fetcher.fetch b = y at hfetch ⊢
  cases hfetch with
  | error hfault =>
    simp only [hg.isExpected hfault]
    split
    · exact (Run.InStep.modify (h.warn _ _)).bind fun _ _ _ h => .pure h _
    · exact .error hfault
  | @ok p p' hp =>
    simp only [hp.namespaceInfo]
    cases p.namespaceInfo with
    | none => exact .pure h _
    | some info =>
      obtain ⟨hcount, hadded⟩ := h.addEnums count info.enums
      apply Run.InStep.get
      exact .ok ⟨hcount, hadded⟩

theorem collectEnums (hg : g.Mirrors R F g') (h : s.Alike R F g g' t) :
    Run.InStep R F g g' (Run.collectEnums g) (Run.collectEnums g') s t :=
  .get (.foldlM h.discovered h 0 fun count _ _ _ _ hab hu => hg.collectFrom hu count hab)

theorem seed (hg : g.Mirrors R F g') (h : s.Alike R F g g' t) {p p' : ParsedPage}
    (hp : p.Alike R F g g' p') : (s.seed p).2.Alike R F g g' (t.seed p').2 := by
  have hvisited := h.visit hg.pairing hp.source
  unfold Run.seed
  rw [hp.declaration, hp.isNamespace]
  cases p.declaration with
  | some d => exact (hvisited.record d hp.kept []).store d
  | none =>
    simp only
    split
    · exact (hvisited.discover hg.pairing hp.source).warn _ _
    · exact hvisited.warn _ _

theorem sessionFrom (hg : g.Mirrors R F g') (h : s.Alike R F g g' t) {p p' : ParsedPage}
    (hp : p.Alike R F g g' p') (collects : Bool) :
    Run.InStep R F g g' (Run.sessionFrom g p collects) (Run.sessionFrom g' p' collects) s t := by
  apply (Run.InStep.modify (hg.seed h hp)).bind
  intro _ s t h
  apply (hg.resolveAll h).bind
  intro stats s t h
  cases collects with
  | false => exact .pure h _
  | true => exact (hg.collectEnums h).bind fun _ _ _ h => .pure h _

end Guide.Mirrors

/-- The same outcome of a session, at counterparts of the locations. -/
structure SessionResult.Alike (R : Text → Text → Prop) (r r' : SessionResult) : Prop where
  stats : r'.stats = r.stats
  enumsAdded : r'.enumsAdded = r.enumsAdded
  declarations : r'.repository.declarations = r.repository.declarations
  merged : r'.repository.merged = r.repository.merged
  enums : r'.repository.enums = r.repository.enums
  circular : r'.circular = r.circular
  visited : List.Forall₂ R r.repository.visited.inOrder r'.repository.visited.inOrder
  discovered : List.Forall₂ R r.repository.discovered.inOrder r'.repository.discovered.inOrder

theorem SessionResult.Alike.imp {R R' : Text → Text → Prop} {r r' : SessionResult}
    (h : r.Alike R r') (hR : ∀ a b, R a b → R' a b) : r.Alike R' r' :=
  { h with visited := h.visited.imp hR, discovered := h.discovered.imp hR }

theorem resolveDocument_eq (g : Guide) (location : Text) (collects : Bool) :
    resolveDocument g location collects = do
      let page ← g.fetcher.fetch location
      let x ← Run.result (Run.sessionFrom g page collects) (.start g.settings.roundLimit)
      return ⟨x.2, x.1.1, x.1.2⟩ := by
  rw [resolveDocument]
  congr 1
  funext page
  rw [Run.result]
  split <;> rename_i h <;> rw [h] <;> rfl

/-- Sessions from counterparts end alike. -/
theorem Guide.Mirrors.resolveDocument {R : Text → Text → Prop} {F : PageFault → PageFault → Prop}
    {g g' : Guide} (hg : g.Mirrors R F g') {a b : Text} (hab : R a b) (collects : Bool) :
    EndAlike F (SessionResult.Alike R) (resolveDocument g a collects)
      (TypeAtlas.resolveDocument g' b collects) := by
  rw [resolveDocument_eq, resolveDocument_eq]
  apply (hg.fetch a b hab).bind
  intro p p' hp
  rw [hg.settings]
  apply EndAlike.bind (hg.sessionFrom (Run.alike_start _) hp collects)
  rintro ⟨given, s⟩ ⟨given', t⟩ ⟨rfl, h⟩
  exact .ok ⟨rfl, rfl, h.declarations, h.merged, h.enums, congrArg Names.sorted h.circular,
    h.visited, h.discovered⟩

end TypeAtlas
