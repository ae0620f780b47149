/-!
Outcomes of work that may fail. A result is taken apart here once, so that no proof about such work
has to treat its failures.
-/

namespace TypeAtlas

variable {ε α β : Type}

theorem ok_of_bind {x : Except ε α} {f : α → Except ε β} {b : β} (h : x >>= f = .ok b) :
    ∃ a, x = .ok a ∧ f a = .ok b := by
  cases x with
  | error e => cases h
  | ok a => exact ⟨a, rfl, h⟩

theorem ok_of_map {x : Except ε α} {f : α → β} {b : β} (h : x.map f = .ok b) :
    ∃ a, x = .ok a ∧ f a = b := by
  cases x with
  | error e => cases h
  | ok a =>
    cases h
    exact ⟨a, rfl, rfl⟩

theorem ok_of_toOption {x : Except ε α} {a : α} (h : x.toOption = some a) : x = .ok a := by
  cases x with
  | error e => cases h
  | ok b =>
    cases h
    rfl

theorem exists_ok_of_isSome {x : Except ε α} (h : x.toOption.isSome = true) : ∃ a, x = .ok a := by
  obtain ⟨a, ha⟩ := Option.isSome_iff_exists.mp h
  exact ⟨a, ok_of_toOption ha⟩

theorem exists_ok_of_fst {x : Except ε (α × β)} {a : α} (h : x.toOption.map Prod.fst = some a) :
    ∃ b, x = .ok (a, b) := by
  obtain ⟨⟨a', b⟩, hx, rfl⟩ := Option.map_eq_some_iff.mp h
  exact ⟨b, ok_of_toOption hx⟩

theorem ok_bind (a : α) (f : α → Except ε β) : (Except.ok a >>= f) = f a := rfl

/-- Both succeed, with results that `P` relates, or both fail, with faults that `F` relates. -/
inductive EndAlike (F : ε → ε → Prop) (P : α → β → Prop) : Except ε α → Except ε β → Prop
  | ok {a : α} {b : β} (h : P a b) : EndAlike F P (.ok a) (.ok b)
  | error {e e' : ε} (h : F e e') : EndAlike F P (.error e) (.error e')

namespace EndAlike

variable {α' β' : Type} {F G : ε → ε → Prop} {P : α → β → Prop} {Q : α' → β' → Prop}
  {x : Except ε α} {y : Except ε β}

theorem imp {P' : α → β → Prop} (h : EndAlike F P x y) (hF : ∀ e e', F e e' → G e e')
    (hP : ∀ a b, P a b → P' a b) : EndAlike G P' x y := by
  cases h with
  | ok h => exact .ok (hP _ _ h)
  | error h => exact .error (hF _ _ h)

theorem with_results (h : EndAlike F P x y) :
    EndAlike F (fun a b => P a b ∧ x = .ok a ∧ y = .ok b) x y := by
  cases h with
  | ok h => exact .ok ⟨h, rfl, rfl⟩
  | error h => exact .error h

theorem bind {f : α → Except ε α'} {g : β → Except ε β'} (h : EndAlike F P x y)
    (hstep : ∀ a b, P a b → EndAlike F Q (f a) (g b)) : EndAlike F Q (x >>= f) (y >>= g) := by
  cases h with
  | ok h => exact hstep _ _ h
  | error h => exact .error h

theorem map {f : α → α'} {g : β → β'} (h : EndAlike F P x y)
    (hstep : ∀ a b, P a b → Q (f a) (g b)) : EndAlike F Q (x.map f) (y.map g) := by
  cases h with
  | ok h => exact .ok (hstep _ _ h)
  | error h => exact .error h

end EndAlike

end TypeAtlas
