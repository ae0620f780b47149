import TypeAtlas.Proofs.Resolution.Completion
import TypeAtlas.Proofs.Resolution.Fetching

/-!
Pages that are looked for by name. A page is looked for only if a declaration comes without it;
where every page that can be read is kept, the root to guess locations from makes no difference.
-/

namespace TypeAtlas

/-- The same guide, without a root to guess locations from. -/
def Guide.rootless (g : Guide) : Guide :=
  { g with settings := { g.settings with documentRoot := none } }

namespace Run

variable {g : Guide} {s : Run}

theorem bind_run_congr {α β : Type} {w w' : Work α} {f f' : α → Work β} {P : α → Run → Prop}
    {F : PageFault → Prop} (h : w.run s = w'.run s) (hends : Ends w s P F)
    (hf : ∀ a t, P a t → (f a).run t = (f' a).run t) :
    (w >>= f).run s = (w' >>= f').run s := by
  unfold Ends at hends
  rcases hrun : w.run s with ⟨result, t⟩
  rw [hrun] at h hends
  cases result with
  | ok a => rw [bind_run hrun, bind_run h.symm, hf a t hends]
  | error fault =>
    simp only [ExceptT.run] at hrun h
    simp only [ExceptT.run, Bind.bind, ExceptT.bind, ExceptT.mk, StateT.bind, hrun, ← h]
    rfl

theorem forM_run_congr {α : Type} {f f' : α → Work Unit} {l : List α} {I : Run → Prop}
    {F : PageFault → Prop} (h : I s) (hsame : ∀ x ∈ l, ∀ s, I s → (f x).run s = (f' x).run s)
    (hends : ∀ x ∈ l, ∀ s, I s → Ends (f x) s (fun _ t => I t) F) :
    (l.forM f).run s = (l.forM f').run s := by
  induction l generalizing s with
  | nil => rfl
  | cons x l ih =>
    have hx := List.mem_cons_self (a := x) (l := l)
    apply bind_run_congr (hsame x hx s h) (hends x hx s h)
    intro _ t ht
    exact ih ht (fun y hy => hsame y (List.mem_cons_of_mem x hy))
      fun y hy => hends y (List.mem_cons_of_mem x hy)

theorem scan_rootless {name : Text} (d : Declaration) {kept : PageLinks}
    (hpage : s.resolver.pages.get? name = some kept) :
    (scan g name d).run s = (scan g.rootless name d).run s := by
  by_cases hscanned : name ∈ s.resolver.scanned.keys
  · rw [scan_run_of_scanned hscanned, scan_run_of_scanned hscanned]
  · let opened : Run :=
      { s with resolver := { s.resolver with scanned := s.resolver.scanned.add name } }
    have hmodify : (modify fun s => { s with resolver := { s.resolver with
        scanned := s.resolver.scanned.add name } } : Work Unit).run s = (.ok (), opened) := rfl
    have hpageOf (g : Guide) : (pageOf g name).run opened = (.ok (some kept), opened) := by
      rw [pageOf, bind_run (get_run opened),
        show opened.resolver.pages.get? name = some kept from hpage]
      rfl
    have hnew : ¬ s.resolver.scanned.has name = true := by rwa [Names.has_iff]
    rw [scan, bind_run (get_run s), if_neg hnew, bind_run hmodify, bind_run (hpageOf g)]
    rw [scan, bind_run (get_run s), if_neg hnew, bind_run hmodify, bind_run (hpageOf g.rootless)]
    rfl

namespace Followable

theorem discover_rootless (h : Followable g s) :
    (discover g).run s = (discover g.rootless).run s := by
  rw [discover, bind_run (get_run s), discover, bind_run (get_run s)]
  apply forM_run_congr (I := Leaves s) (F := g.HasBadLink) ⟨.refl s, rfl⟩
  · rintro ⟨name, d⟩ hentry u hu
    obtain ⟨kept, hkept⟩ := Keyed.mem_keys_iff.mp (h.kept name (List.mem_map_of_mem hentry))
    rw [← hu.1.pages] at hkept
    exact scan_rootless d hkept
  · rintro ⟨name, d⟩ hentry u hu
    have hname : name ∈ u.repository.declarations.keys := by
      rw [hu.1.declarations]
      exact List.mem_map_of_mem hentry
    exact ((h.leaves hu).ends_scan d hname).imp (fun _ t ht => hu.trans ht) fun _ hfault => hfault

theorem roundsFrom_rootless (hkeeps : Keeps g) (left : Nat) (h : Followable g s) :
    (roundsFrom g left).run s = (roundsFrom g.rootless left).run s := by
  induction left generalizing s with
  | zero =>
    rw [roundsFrom, bind_run (get_run s), roundsFrom, bind_run (get_run s)]
    cases s.resolver.pending.entries.isEmpty <;> rfl
  | succ left ih =>
    rw [roundsFrom, bind_run (get_run s), roundsFrom, bind_run (get_run s)]
    cases s.resolver.pending.entries.isEmpty with
    | true => simp only [↓reduceIte]
    | false =>
      have hround (g : Guide) : (modify (Run.round g) : Work Unit).run s =
          (.ok (), Run.round g s) := rfl
      have hsame : Run.round g s = Run.round g.rootless s := round_congr fun _ _ => rfl
      have hfollowable := h.round hkeeps
      simp only [Bool.false_eq_true, ↓reduceIte]
      rw [bind_run (hround g), bind_run (hround g.rootless), ← hsame]
      exact bind_run_congr hfollowable.discover_rootless hfollowable.ends_discover
        fun _ t ht => ih ht

/-- Where all pages are kept, the root to guess locations from makes no difference. -/
theorem resolveAll_rootless (hkeeps : Keeps g) (h : Followable g s) :
    (resolveAll g).run s = (resolveAll g.rootless).run s := by
  apply bind_run_congr h.discover_rootless h.ends_discover
  intro _ t ht
  rw [bind_run (get_run t), bind_run (get_run t)]
  apply bind_run_congr (ht.roundsFrom_rootless hkeeps _) (ht.ends_roundsFrom hkeeps _)
  exact fun _ _ _ => rfl

end Followable

end Run

end TypeAtlas
