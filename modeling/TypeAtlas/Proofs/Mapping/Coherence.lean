import Mathlib.Data.List.Basic
import TypeAtlas.Mapping.Mapper

/-!
Conversion with and without a memory. More depth never changes what a conversion gives, so one that
ends gives the same from some depth on; what is remembered is coherent with a registry when every
entry is what the registry would give anew. Remembered conversion keeps this, and answers as plain
conversion does.
-/

namespace TypeAtlas

/-- From some depth on, the result is `a`. -/
def Gives {α : Type} (p : Nat → Option α) (a : α) : Prop := ∃ n, ∀ k, n ≤ k → p k = some a

namespace Gives

variable {α β : Type} {p : Nat → Option α} {a b : α}

theorem const (a : α) : Gives (fun _ => some a) a := ⟨0, fun _ _ => rfl⟩

theorem bind {q : α → Nat → Option β} {b : β} (h : Gives p a) (h' : Gives (q a) b) :
    Gives (fun k => (p k).bind (q · k)) b := by
  obtain ⟨m, hm⟩ := h
  obtain ⟨n, hn⟩ := h'
  refine ⟨max m n, fun k hk => ?_⟩
  simp only [hm k (by omega), Option.bind_some, hn k (by omega)]

theorem succ (h : Gives p a) : Gives (fun k => p (k + 1)) a := by
  obtain ⟨n, hn⟩ := h
  exact ⟨n, fun k hk => hn (k + 1) (by omega)⟩

theorem unique (h : Gives p a) (h' : Gives p b) : a = b := by
  obtain ⟨m, hm⟩ := h
  obtain ⟨n, hn⟩ := h'
  have ha := hm (max m n) (by omega)
  have hb := hn (max m n) (by omega)
  exact Option.some.inj (ha.symm.trans hb)

end Gives

/-! More depth. -/

theorem mapM_mono {α β : Type} {f g : α → Option β} (h : ∀ a b, f a = some b → g a = some b)
    {l : List α} {bs : List β} (hl : l.mapM f = some bs) : l.mapM g = some bs := by
  induction l generalizing bs with
  | nil => exact hl
  | cons a l ih =>
    rw [List.mapM_cons, Option.bind_eq_bind, Option.bind_eq_some_iff] at hl
    obtain ⟨b, hb, hl⟩ := hl
    obtain ⟨rest, hrest, hl⟩ := Option.bind_eq_some_iff.mp hl
    rw [List.mapM_cons, h a b hb, ih hrest]
    exact hl

namespace Registry

variable {r : Registry}

section

variable {again again' : Text → Option Text} (h : ∀ raw t, again raw = some t → again' raw = some t)
include h

theorem convertArguments_mono {t : TypeTree} {args : List Text}
    (ht : convertArguments again t = some args) : convertArguments again' t = some args :=
  mapM_mono (fun (a : TypeTree) => h a.fullName) ht

theorem resolveGenericsStep_mono {t u : Text} (ht : r.resolveGenericsStep again t = some u) :
    r.resolveGenericsStep again' t = some u := by
  unfold resolveGenericsStep at ht ⊢
  split at ht
  · split at ht
    · rename_i hgeneric
      rw [if_pos hgeneric]
      obtain ⟨args, hargs, hu⟩ := Option.bind_eq_some_iff.mp ht
      rw [convertArguments_mono h hargs]
      exact hu
    · rename_i hplain
      rw [if_neg hplain]
      exact ht
  · exact ht

theorem convertCleaned_mono {ruleFor : TypeTree → Option (Option GenericRule)} {clean u : Text}
    (ht : r.convertCleaned ruleFor again clean = some u) :
    r.convertCleaned ruleFor again' clean = some u := by
  unfold convertCleaned at ht ⊢
  split at ht
  · split at ht
    · rename_i hgeneric
      rw [if_pos hgeneric]
      obtain ⟨args, hargs, hu⟩ := Option.bind_eq_some_iff.mp ht
      rw [convertArguments_mono h hargs]
      exact hu
    · rename_i hplain
      rw [if_neg hplain]
      exact ht
  · exact ht

theorem convertStep_mono {ruleFor : TypeTree → Option (Option GenericRule)} {raw u : Text}
    (ht : r.convertStep ruleFor again raw = some u) :
    r.convertStep ruleFor again' raw = some u := by
  simp only [convertStep] at ht ⊢
  split at ht
  · exact resolveGenericsStep_mono h ht
  · exact convertCleaned_mono h ht

end

theorem convert_succ {n : Nat} {raw t : Text} (h : r.convert n raw = some t) :
    r.convert (n + 1) raw = some t := by
  induction n generalizing raw t with
  | zero => cases h
  | succ n ih => exact convertStep_mono (fun _ _ => ih) h

theorem convert_mono {m n : Nat} (hmn : m ≤ n) {raw t : Text} (h : r.convert m raw = some t) :
    r.convert n raw = some t := by
  induction hmn with
  | refl => exact h
  | step _ ih => exact convert_succ ih

theorem gives_convert {n : Nat} {raw t : Text} (h : r.convert n raw = some t) :
    Gives (r.convert · raw) t := ⟨n, fun _ hk => convert_mono hk h⟩

end Registry

/-! Coherence. -/

theorem GenericRule.covers_eq (rule : GenericRule) (name : Text) :
    rule.covers name = isNamedBy name rule.base? := rfl

/-- What is remembered is what the registry would give anew. -/
structure Caches.Coherent (c : Caches) (r : Registry) : Prop where
  memo : ∀ raw t, c.memo.get? raw = some t → Gives (r.convert · raw) t
  builtins : ∀ t answer, c.builtins.get? t = some answer → answer = r.isBuiltin t
  bases : ∀ pattern base, c.bases.get? pattern = some base →
    base = Pattern.ofText (GenericRule.baseText pattern)

namespace Caches

variable {c : Caches} {r : Registry}

theorem coherent_empty (r : Registry) : empty.Coherent r := ⟨nofun, nofun, nofun⟩

theorem Coherent.remember (h : c.Coherent r) {raw t : Text} (ht : Gives (r.convert · raw) t) :
    (c.remember raw t).Coherent r := by
  refine ⟨?_, h.builtins, h.bases⟩
  intro raw' t' hget
  change (c.memo.set raw t).get? raw' = some t' at hget
  rw [Keyed.get?_set] at hget
  split at hget
  · rename_i hraw
    cases hget
    exact hraw ▸ ht
  · exact h.memo raw' t' hget

theorem Coherent.noteBuiltin (h : c.Coherent r) (t : Text) :
    (c.noteBuiltin t (r.isBuiltin t)).Coherent r := by
  refine ⟨h.memo, ?_, h.bases⟩
  intro t' answer hget
  change (c.builtins.set t (r.isBuiltin t)).get? t' = some answer at hget
  rw [Keyed.get?_set] at hget
  split at hget
  · rename_i ht
    cases hget
    rw [ht]
  · exact h.builtins t' answer hget

theorem Coherent.baseOf (h : c.Coherent r) (rule : GenericRule) :
    (c.baseOf rule).1 = rule.base? ∧ (c.baseOf rule).2.Coherent r := by
  unfold Caches.baseOf
  split
  · rename_i base hget
    exact ⟨h.bases rule.pattern base hget, h⟩
  · refine ⟨rfl, h.memo, h.builtins, ?_⟩
    intro pattern base hget
    rw [Keyed.get?_set] at hget
    split at hget
    · rename_i hpattern
      cases hget
      rw [hpattern]
      rfl
    · exact h.bases pattern base hget

theorem Coherent.firstRule (h : c.Coherent r) (t : TypeTree) (rules : List GenericRule) :
    (c.firstRule t rules).1 = rules.find? (fun rule =>
        rule.covers t.base || rule.covers t.qualifiedName) ∧
      (c.firstRule t rules).2.Coherent r := by
  induction rules generalizing c with
  | nil => exact ⟨rfl, h⟩
  | cons rule rules ih =>
    obtain ⟨hbase, hcoherent⟩ := h.baseOf rule
    simp only [Caches.firstRule, hbase, List.find?_cons, ← GenericRule.covers_eq]
    cases rule.covers t.base || rule.covers t.qualifiedName with
    | true => exact ⟨rfl, hcoherent⟩
    | false => exact ih hcoherent

theorem Coherent.recallRule (h : c.Coherent r) (t : TypeTree) :
    (r.recallRule t c).1 = r.genericRule? t ∧ (r.recallRule t c).2.Coherent r := by
  unfold Registry.recallRule Registry.genericRule?
  split
  · exact h.firstRule t r.genericRules
  · exact ⟨rfl, h⟩

end Caches

/-! Answers that cannot fail. -/

/-- From coherent caches, work answers `a` and keeps them coherent. -/
def Answers {α : Type} (r : Registry) (work : StateM Caches α) (a : α) : Prop :=
  ∀ c : Caches, c.Coherent r → (work.run c).1 = a ∧ (work.run c).2.Coherent r

namespace Answers

variable {α β : Type} {r : Registry}

theorem pure (a : α) : Answers r (Pure.pure a) a := fun _ h => ⟨rfl, h⟩

theorem bind {work : StateM Caches α} {next : α → StateM Caches β} {a : α} {b : β}
    (h : Answers r work a) (h' : Answers r (next a) b) : Answers r (work >>= next) b := by
  intro c hc
  obtain ⟨ha, hcoherent⟩ := h c hc
  have hnext := h' (work.run c).2 hcoherent
  rw [← ha] at hnext
  exact hnext

theorem ruleFor (t : TypeTree) : Answers r (r.ruleFor t) (r.genericRule? t) :=
  fun _ h => h.recallRule t

theorem hasTreeStep (t : TypeTree) :
    Answers r (r.hasTreeStep r.ruleFor t)
      (Id.run (r.hasTreeStep (fun tree => Pure.pure (r.genericRule? tree)) t)) :=
  (ruleFor t).bind (pure _)

theorem isBuiltinStep (t : Text) : Answers r (r.isBuiltinStep r.ruleFor t) (r.isBuiltin t) := by
  unfold Registry.isBuiltin Registry.isBuiltinStep
  split
  · exact hasTreeStep _
  · exact pure _

theorem canConvertStep (raw : Text) :
    Answers r (r.canConvertStep r.ruleFor raw) (r.canConvert raw) := by
  simp only [Registry.canConvert, Registry.canConvertStep]
  split
  · exact pure _
  · split
    · exact hasTreeStep _
    · exact pure _

end Answers

/-! Conversions. -/

/-- From coherent caches, work gives only what plain conversion gives from some depth on, and all
that plain conversion gives with depth `n`; and it keeps the caches coherent. -/
structure Recalls {α : Type} (r : Registry) (n : Nat) (work : Recall α) (plain : Nat → Option α) :
    Prop where
  sound : ∀ (c : Caches) a c', c.Coherent r → work.run c = some (a, c') →
    Gives plain a ∧ c'.Coherent r
  complete : ∀ (c : Caches) a, c.Coherent r → plain n = some a → ∃ c', work.run c = some (a, c')

namespace Recalls

variable {α β : Type} {r : Registry} {n : Nat}

theorem pure (a : α) : Recalls r n (Pure.pure a) fun _ => some a where
  sound c a' c' hc hrun := by
    cases hrun
    exact ⟨.const a, hc⟩
  complete c a' _ ha := by
    cases ha
    exact ⟨c, rfl⟩

theorem bind {work : Recall α} {plain : Nat → Option α} {next : α → Recall β}
    {follow : Nat → α → Option β} (h : Recalls r n work plain)
    (h' : ∀ a, Recalls r n (next a) (follow · a)) :
    Recalls r n (work >>= next) fun k => plain k >>= follow k where
  sound c b c' hc hrun := by
    rw [StateT.run_bind] at hrun
    obtain ⟨⟨a, d⟩, hwork, hnext⟩ := Option.bind_eq_some_iff.mp hrun
    obtain ⟨ha, hd⟩ := h.sound c a d hc hwork
    obtain ⟨hb, hc'⟩ := (h' a).sound d b c' hd hnext
    exact ⟨ha.bind hb, hc'⟩
  complete c b hc hb := by
    obtain ⟨a, ha, hb⟩ := Option.bind_eq_some_iff.mp hb
    obtain ⟨d, hwork⟩ := h.complete c a hc ha
    obtain ⟨c', hnext⟩ := (h' a).complete d b (h.sound c a d hc hwork).2 hb
    refine ⟨c', ?_⟩
    rw [StateT.run_bind, hwork]
    exact hnext

theorem mapM {f : α → Recall β} {g : Nat → α → Option β} (h : ∀ a, Recalls r n (f a) (g · a))
    (l : List α) : Recalls r n (l.mapM f) fun k => l.mapM (g k) := by
  induction l with
  | nil =>
    simp only [List.mapM_nil]
    exact pure []
  | cons a l ih =>
    simp only [List.mapM_cons]
    exact (h a).bind fun b => ih.bind fun rest => pure (b :: rest)

theorem ruleFor (t : TypeTree) :
    Recalls r n (r.ruleFor t) fun _ => Pure.pure (r.genericRule? t) where
  sound c rule? c' hc hrun := by
    have hrecall : r.recallRule t c = (rule?, c') := Option.some.inj hrun
    obtain ⟨hrule, hcoherent⟩ := hc.recallRule t
    rw [hrecall] at hrule hcoherent
    exact ⟨hrule ▸ .const _, hcoherent⟩
  complete c rule? hc hrule := by
    cases hrule
    exact ⟨(r.recallRule t c).2, by rw [← (hc.recallRule t).1]; rfl⟩

section

variable {again : Text → Recall Text} {plain : Nat → Text → Option Text}
  (h : ∀ raw, Recalls r n (again raw) (plain · raw))
include h

theorem convertArguments (t : TypeTree) :
    Recalls r n (Registry.convertArguments again t) fun k =>
      Registry.convertArguments (plain k) t :=
  mapM (fun (a : TypeTree) => h a.fullName) t.arguments

theorem resolveGenericsStep (t : Text) :
    Recalls r n (r.resolveGenericsStep again t) fun k => r.resolveGenericsStep (plain k) t := by
  unfold Registry.resolveGenericsStep
  split
  · split
    · exact (convertArguments h _).bind fun args => pure _
    · exact pure t
  · exact pure t

theorem convertCleaned (clean : Text) :
    Recalls r n (r.convertCleaned r.ruleFor again clean) fun k =>
      r.convertCleaned (fun t => Pure.pure (r.genericRule? t)) (plain k) clean := by
  unfold Registry.convertCleaned
  split
  · split
    · exact (convertArguments h _).bind fun args => (ruleFor _).bind fun rule? => pure _
    · split
      · exact pure _
      · exact pure _
  · exact pure _

theorem convertStep (raw : Text) :
    Recalls r n (r.convertStep r.ruleFor again raw) fun k =>
      r.convertStep (fun t => Pure.pure (r.genericRule? t)) (plain k) raw := by
  simp only [Registry.convertStep]
  split
  · exact resolveGenericsStep h _
  · exact convertCleaned h _

end

/-- What is known already is given at any depth, without a look at the registry. -/
theorem known (raw : Text) {c : Caches} {t : Text} (hget : c.memo.get? raw = some t) :
    (r.remembered (n + 1) raw).run c = some (t, c) := by
  simp [Registry.remembered, hget]

theorem anew (raw : Text) {c : Caches} (hget : c.memo.get? raw = none) :
    (r.remembered (n + 1) raw).run c =
      ((r.convertStep r.ruleFor (r.remembered n) raw).run c).bind
        fun p => some (p.1, p.2.remember raw p.1) := by
  simp only [Registry.remembered, StateT.run_bind, StateT.run_get, pure_bind, hget,
    StateT.run_modify, StateT.run_pure]
  rfl

theorem remembered (n : Nat) (raw : Text) :
    Recalls r n (r.remembered n raw) (r.convert · raw) := by
  induction n generalizing raw with
  | zero => exact ⟨nofun, nofun⟩
  | succ n ih =>
    have hstep := convertStep ih raw
    constructor
    · intro c t c' hc hrun
      cases hget : c.memo.get? raw with
      | some kept =>
        rw [known raw hget] at hrun
        cases hrun
        exact ⟨hc.memo raw t hget, hc⟩
      | none =>
        rw [anew raw hget] at hrun
        obtain ⟨⟨t, d⟩, hanew, heq⟩ := Option.bind_eq_some_iff.mp hrun
        cases heq
        obtain ⟨⟨m, hm⟩, hd⟩ := hstep.sound c t d hc hanew
        have hplain : r.convert (m + 1) raw = some t := hm m (Nat.le_refl m)
        have hgives := Registry.gives_convert hplain
        exact ⟨hgives, hd.remember hgives⟩
    · intro c t hc ht
      cases hget : c.memo.get? raw with
      | some kept =>
        have hkept : kept = t := (hc.memo raw kept hget).unique (Registry.gives_convert ht)
        exact ⟨c, by rw [known raw hget, hkept]⟩
      | none =>
        obtain ⟨d, hrun⟩ := hstep.complete c t hc ht
        exact ⟨d.remember raw t, by rw [anew raw hget, hrun]; rfl⟩

end Recalls

end TypeAtlas
