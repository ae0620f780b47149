import TypeAtlas.Proofs.Mapping.Coherence
import TypeAtlas.Proofs.Outcome

/-!
Whatever is asked of a mapper in use, and however its registry has changed on the way, what it
remembers never shows: a mapper that begins with the present registry gives the same answers.
-/

namespace TypeAtlas

/-- What can be asked of a mapper. -/
inductive Query
  | convert (raw : Text)
  | canConvert (raw : Text)
  | typeInfo (raw : Text)
  | isBuiltin (t : Text)
  | genericRule (t : TypeTree)
  | resolveGenerics (t : Text)

inductive Answer
  | text (t : Text)
  | truth (b : Bool)
  | info (i : TypeInfo)
  | rule (rule? : Option GenericRule)
  deriving DecidableEq

/-- What changes the registry of a mapper, or makes it forget. -/
inductive Change
  | register (d : Definition)
  | addRule (rule : CustomRule)
  | load (c : MappingConfig)
  | clearCache

/-- A question may nest conversions as deeply as it says. -/
inductive Step
  | ask (depth : Nat) (q : Query)
  | change (c : Change)

namespace Registry

variable (r : Registry)

def infoOf (canConvert : Bool) (raw target : Text) : TypeInfo :=
  ⟨canConvert, target, (r.definitionOf? raw).map (·.category)⟩

/-- The answer of the registry, with nothing remembered. -/
def answer (depth : Nat) : Query → Option Answer
  | .convert raw => (r.convert depth raw).map Answer.text
  | .canConvert raw => some (.truth (r.canConvert raw))
  | .typeInfo raw => (r.convert depth raw).map fun t => .info (r.infoOf (r.canConvert raw) raw t)
  | .isBuiltin t => some (.truth (r.isBuiltin t))
  | .genericRule t => some (.rule (r.genericRule? t))
  | .resolveGenerics t => (r.resolveGenerics depth t).map Answer.text

end Registry

namespace Mapper

def answer (s : Mapper) (depth : Nat) : Query → Except MapperError (Answer × Mapper)
  | .convert raw => (s.convertWithin depth raw).map fun (t, s) => (.text t, s)
  | .canConvert raw => let (b, s) := s.canConvert raw; .ok (.truth b, s)
  | .typeInfo raw => (s.typeInfoWithin depth raw).map fun (i, s) => (.info i, s)
  | .isBuiltin t => let (b, s) := s.isBuiltin t; .ok (.truth b, s)
  | .genericRule t => let (rule?, s) := s.genericRule? t; .ok (.rule rule?, s)
  | .resolveGenerics t => (s.resolveGenericsWithin depth t).map fun (t, s) => (.text t, s)

def change (s : Mapper) : Change → Mapper
  | .register d => s.register d
  | .addRule rule => s.addRule rule
  | .load c => s.load c
  | .clearCache => s.clearCache

def perform (s : Mapper) : Step → Except MapperError Mapper
  | .ask depth q => (s.answer depth q).map Prod.snd
  | .change c => .ok (s.change c)

/-- Performs some steps; a question that nests too deeply ends the run. -/
def performAll (s : Mapper) : List Step → Except MapperError Mapper
  | [] => .ok s
  | step :: rest => do (← s.perform step).performAll rest

/-- A mapper on a registry, with nothing remembered that the registry would not give anew. -/
structure On (s : Mapper) (r : Registry) : Prop where
  registry : s.registry = r
  coherent : s.caches.Coherent r

variable {s : Mapper} {r : Registry}

theorem on_attach (r : Registry) (generation : Nat) : (attach r generation).On r :=
  ⟨rfl, Caches.coherent_empty r⟩

theorem on_change (s : Mapper) (c : Change) : (s.change c).On (s.change c).registry := by
  cases c <;> exact ⟨rfl, Caches.coherent_empty _⟩

/-- A result gives only what plain work gives from some depth on, and all that it gives with depth
`n`; the mapper stays on its registry. -/
structure Mirrors {α : Type} (r : Registry) (n : Nat) (result : Except MapperError (α × Mapper))
    (plain : Nat → Option α) : Prop where
  sound : ∀ a v, result = .ok (a, v) → Gives plain a ∧ v.On r
  complete : ∀ a, plain n = some a → ∃ v, result = .ok (a, v)

namespace Mirrors

variable {α β : Type} {n : Nat}

theorem ok {a : α} {v : Mapper} (h : v.On r) : Mirrors r n (.ok (a, v)) fun _ => some a where
  sound b w hresult := by
    cases hresult
    exact ⟨.const a, h⟩
  complete b hb := by
    cases hb
    exact ⟨v, rfl⟩

theorem map {result : Except MapperError (α × Mapper)} {plain : Nat → Option α}
    (h : Mirrors r n result plain) (f : α → β) :
    Mirrors r n (result.map fun p => (f p.1, p.2)) fun k => (plain k).map f where
  sound b v hresult := by
    cases result with
    | error e => cases hresult
    | ok p =>
      cases hresult
      obtain ⟨⟨m, hm⟩, hv⟩ := h.sound p.1 p.2 rfl
      refine ⟨⟨m, fun k hk => ?_⟩, hv⟩
      simp only [hm k hk, Option.map_some]
  complete b hb := by
    obtain ⟨a, ha, rfl⟩ := Option.map_eq_some_iff.mp hb
    obtain ⟨v, rfl⟩ := h.complete a ha
    exact ⟨v, rfl⟩

theorem run (h : s.On r) {conversion : Recall Text} {plain : Nat → Option Text}
    (hrecalls : Recalls r n conversion plain) : Mirrors r n (s.run conversion) plain where
  sound t v hresult := by
    unfold Mapper.run at hresult
    split at hresult
    · rename_i t' c' hrun
      cases hresult
      obtain ⟨hgives, hcoherent⟩ := hrecalls.sound s.caches t c' h.coherent hrun
      exact ⟨hgives, h.registry, hcoherent⟩
    · cases hresult
  complete t ht := by
    obtain ⟨c', hrun⟩ := hrecalls.complete s.caches t h.coherent ht
    exact ⟨{ s with caches := c' }, by rw [Mapper.run, hrun]⟩

end Mirrors

theorem consult_on {α : Type} (h : s.On r) {work : StateM Caches α} {a : α}
    (hwork : Answers r work a) :
    (s.consult work).1 = a ∧ (s.consult work).2.On r := by
  obtain ⟨ha, hcoherent⟩ := hwork s.caches h.coherent
  exact ⟨ha, h.registry, hcoherent⟩

theorem canConvert_on (h : s.On r) (raw : Text) :
    (s.canConvert raw).1 = r.canConvert raw ∧ (s.canConvert raw).2.On r := by
  rw [Mapper.canConvert, h.registry]
  exact consult_on h (.canConvertStep raw)

theorem genericRule?_on (h : s.On r) (t : TypeTree) :
    (s.genericRule? t).1 = r.genericRule? t ∧ (s.genericRule? t).2.On r := by
  rw [Mapper.genericRule?, h.registry]
  exact consult_on h (.ruleFor t)

theorem isBuiltin_on (h : s.On r) (t : Text) :
    (s.isBuiltin t).1 = r.isBuiltin t ∧ (s.isBuiltin t).2.On r := by
  unfold Mapper.isBuiltin
  split
  · rename_i known hget
    exact ⟨h.coherent.builtins t known hget, h⟩
  · rw [h.registry]
    obtain ⟨ha, hon⟩ := consult_on h (.isBuiltinStep t)
    have hnoted := hon.coherent.noteBuiltin t
    rw [← ha] at hnoted
    exact ⟨ha, hon.registry, hnoted⟩

theorem convertWithin_mirrors (h : s.On r) (n : Nat) (raw : Text) :
    Mirrors r n (s.convertWithin n raw) (r.convert · raw) := by
  rw [convertWithin, h.registry]
  exact .run h (.remembered n raw)

theorem resolveGenericsWithin_mirrors (h : s.On r) (n : Nat) (t : Text) :
    Mirrors r n (s.resolveGenericsWithin n t) (r.resolveGenerics · t) := by
  rw [resolveGenericsWithin, h.registry]
  exact .run h (.resolveGenericsStep (.remembered n) t)

theorem typeInfoWithin_mirrors (h : s.On r) (n : Nat) (raw : Text) :
    Mirrors r n (s.typeInfoWithin n raw) fun k =>
      (r.convert k raw).map (r.infoOf (r.canConvert raw) raw) := by
  obtain ⟨ha, hon⟩ := canConvert_on h raw
  have hconvert := convertWithin_mirrors hon n raw
  have hinfo : s.typeInfoWithin n raw = ((s.canConvert raw).2.convertWithin n raw).map
      fun p => (r.infoOf (r.canConvert raw) raw p.1, p.2) := by
    change ((s.canConvert raw).2.convertWithin n raw).bind
      (fun p => .ok (p.2.registry.infoOf (s.canConvert raw).1 raw p.1, p.2)) = _
    rw [ha]
    cases hresult : (s.canConvert raw).2.convertWithin n raw with
    | error e => rfl
    | ok p => rw [← (hconvert.sound p.1 p.2 hresult).2.registry]; rfl
  rw [hinfo]
  exact hconvert.map _

theorem answer_mirrors (h : s.On r) (n : Nat) (q : Query) :
    Mirrors r n (s.answer n q) (r.answer · q) := by
  cases q with
  | convert raw => exact (convertWithin_mirrors h n raw).map Answer.text
  | canConvert raw =>
    obtain ⟨ha, hon⟩ := canConvert_on h raw
    simp only [Mapper.answer, ha]
    exact .ok hon
  | typeInfo raw =>
    have hinfo := (typeInfoWithin_mirrors h n raw).map Answer.info
    simp only [Option.map_map] at hinfo
    exact hinfo
  | isBuiltin t =>
    obtain ⟨ha, hon⟩ := isBuiltin_on h t
    simp only [Mapper.answer, ha]
    exact .ok hon
  | genericRule t =>
    obtain ⟨ha, hon⟩ := genericRule?_on h t
    simp only [Mapper.answer, ha]
    exact .ok hon
  | resolveGenerics t => exact (resolveGenericsWithin_mirrors h n t).map Answer.text

theorem perform_on (h : s.On s.registry) {step : Step} {v : Mapper}
    (hstep : s.perform step = .ok v) : v.On v.registry := by
  cases step with
  | ask n q =>
    obtain ⟨⟨a, w⟩, hanswer, rfl⟩ := ok_of_map hstep
    obtain ⟨-, hw⟩ := (answer_mirrors h n q).sound a w hanswer
    exact ⟨rfl, hw.registry.symm ▸ hw.coherent⟩
  | change c =>
    cases hstep
    exact on_change s c

theorem performAll_on (h : s.On s.registry) {steps : List Step} {u : Mapper}
    (hrun : s.performAll steps = .ok u) : u.On u.registry := by
  induction steps generalizing s with
  | nil =>
    cases hrun
    exact h
  | cons step rest ih =>
    obtain ⟨v, hstep, hrest⟩ := ok_of_bind hrun
    exact ih (perform_on h hstep) hrest

/-- Mappers on one registry give the same answers, if at some depth then at every depth from some
on. -/
theorem answer_agrees {s' : Mapper} (h : s.On r) (h' : s'.On r) {n : Nat} {q : Query} {a : Answer}
    {v : Mapper} (hanswer : s.answer n q = .ok (a, v)) :
    ∃ m, ∀ k, m ≤ k → ∃ w, s'.answer k q = .ok (a, w) := by
  obtain ⟨m, hm⟩ := ((answer_mirrors h n q).sound a v hanswer).1
  exact ⟨m, fun k hk => (answer_mirrors h' k q).complete a (hm k hk)⟩

end Mapper

/-- Any run of questions and changes leaves a mapper whose conversions, answers and bases are those
its registry would give anew; and a new mapper on that registry answers every question as it does,
if one of them answers it at all. -/
theorem answers_anew (r : Registry) (generation : Nat) (steps : List Step) (u : Mapper)
    (hrun : (Mapper.attach r generation).performAll steps = .ok u) :
    u.caches.Coherent u.registry ∧ ∀ (anew : Nat) (q : Query) (a : Answer),
      (∀ n v, u.answer n q = .ok (a, v) →
        ∃ m, ∀ k, m ≤ k → ∃ w, (Mapper.attach u.registry anew).answer k q = .ok (a, w)) ∧
      (∀ n w, (Mapper.attach u.registry anew).answer n q = .ok (a, w) →
        ∃ m, ∀ k, m ≤ k → ∃ v, u.answer k q = .ok (a, v)) := by
  have hu : u.On u.registry := Mapper.performAll_on (Mapper.on_attach r generation) hrun
  refine ⟨hu.coherent, fun anew q a => ⟨?_, ?_⟩⟩
  · intro n v hanswer
    exact Mapper.answer_agrees hu (Mapper.on_attach u.registry anew) hanswer
  · intro n w hanswer
    exact Mapper.answer_agrees (Mapper.on_attach u.registry anew) hu hanswer

namespace Sample

/-- Lists become arrays; no name is defined. -/
def lists : Registry := .ofConfig ⟨[], [⟨"^List<(.+)>$", "$1[]", none⟩], [], []⟩

/-- A name is defined between two conversions of a list of it. -/
def steps : List Step :=
  [.ask 2 (.convert "List<Name>"), .ask 0 (.isBuiltin "Name"),
    .change (.register ⟨"Name", "string", "text", none, []⟩), .ask 2 (.typeInfo "Name")]

end Sample

theorem answers_anew_sample : ∃ u v,
    (Mapper.attach Sample.lists 1).performAll Sample.steps = .ok u ∧
      u.answer 2 (.convert "List<Name>") = .ok (.text "string[]", v) ∧
      ∃ m, ∀ k, m ≤ k → ∃ w, (Mapper.attach u.registry 1).answer k (.convert "List<Name>") =
        .ok (.text "string[]", w) := by
  have hlast : (((Mapper.attach Sample.lists 1).performAll Sample.steps).toOption.bind fun u =>
      (u.answer 2 (.convert "List<Name>")).toOption.bind fun p => some p.1) =
        some (.text "string[]") := by decide +kernel
  obtain ⟨u, hrun, hlast⟩ := Option.bind_eq_some_iff.mp hlast
  obtain ⟨⟨a, v⟩, hanswer, hlast⟩ := Option.bind_eq_some_iff.mp hlast
  cases hlast
  obtain ⟨_, hanew⟩ := answers_anew Sample.lists 1 Sample.steps u (ok_of_toOption hrun)
  exact ⟨u, v, ok_of_toOption hrun, ok_of_toOption hanswer,
    (hanew 1 _ _).1 2 v (ok_of_toOption hanswer)⟩

end TypeAtlas
