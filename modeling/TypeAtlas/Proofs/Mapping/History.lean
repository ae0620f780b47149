import TypeAtlas.Proofs.Mapping.Transparency

/-!
The registry of a mapper in use. Questions leave it as it is, so that after any run it is what the
changes alone make of it.
-/

namespace TypeAtlas

namespace Registry

def change (r : Registry) : Change → Registry
  | .register d => r.register d
  | .addRule rule => r.addRule rule
  | .load c => ofConfig c
  | .clearCache => r

def after (r : Registry) : Step → Registry
  | .ask .. => r
  | .change c => r.change c

end Registry

namespace Mapper

variable {s u : Mapper}

theorem registry_change (s : Mapper) (c : Change) :
    (s.change c).registry = s.registry.change c := by
  cases c <;> rfl

theorem registry_perform (h : s.On s.registry) {step : Step} (hstep : s.perform step = .ok u) :
    u.registry = s.registry.after step := by
  cases step with
  | ask n q =>
    obtain ⟨⟨a, w⟩, hanswer, rfl⟩ := ok_of_map hstep
    exact ((answer_mirrors h n q).sound a w hanswer).2.registry
  | change c =>
    cases hstep
    exact registry_change s c

theorem registry_performAll (h : s.On s.registry) {steps : List Step}
    (hrun : s.performAll steps = .ok u) : u.registry = steps.foldl Registry.after s.registry := by
  induction steps generalizing s with
  | nil =>
    cases hrun
    rfl
  | cons step rest ih =>
    obtain ⟨v, hstep, hrest⟩ := ok_of_bind hrun
    rw [List.foldl_cons, ← registry_perform h hstep]
    exact ih (perform_on h hstep) hrest

/-- Questions alone leave the registry as it is. -/
theorem registry_askAll (h : s.On s.registry) {questions : List (Nat × Query)}
    (hrun : s.performAll (questions.map fun q => .ask q.1 q.2) = .ok u) :
    u.registry = s.registry := by
  rw [registry_performAll h hrun, List.foldl_map]
  exact List.foldl_fixed questions

/-- A mapper that begins with some registry, after some run of questions and changes. -/
def Reached (u : Mapper) : Prop :=
  ∃ r generation steps, (attach r generation).performAll steps = .ok u

theorem Reached.on (h : u.Reached) : u.On u.registry := by
  obtain ⟨r, generation, steps, hrun⟩ := h
  exact performAll_on (on_attach r generation) hrun

end Mapper

end TypeAtlas
