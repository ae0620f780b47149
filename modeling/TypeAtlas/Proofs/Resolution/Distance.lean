import Mathlib.Data.Set.Function
import TypeAtlas.Proofs.Resolution.Course

/-!
How far a name is from the seed. Declarations lead to the names they refer to by links; the distance
of a name is the length of the shortest way to it.
-/

namespace TypeAtlas

/-- A seed among pages that are found by name. -/
structure Atlas where
  guide : Guide
  page : Text → Text
  seed : ParsedPage
  start : Declaration

namespace Atlas

variable {a : Atlas} {j k n : Nat} {name other : Text}

def root (a : Atlas) : Text := a.start.fullName

/-- The declaration on the page of a name, and where that page leads. -/
def held (a : Atlas) (name : Text) : Option (Declaration × Option PageLinks) :=
  if name = a.root then some (a.start, a.seed.kept)
  else match a.guide.fetcher.fetch (a.page name) with
    | .ok p => p.declaration.map (·, p.kept)
    | .error _ => none

def Declared (a : Atlas) (name : Text) : Prop := ∃ d kept, a.held name = some (d, kept)

/-- The declaration of `name` refers to `other` by a link. -/
def LeadsTo (a : Atlas) (name other : Text) : Prop :=
  ∃ d kept, a.held name = some (d, kept) ∧
    ∃ x ∈ a.guide.uses name d kept, x.isLinked = true ∧ x.fullName = other

/-- A way of `k` links from the root. -/
inductive Walk (a : Atlas) : Nat → Text → Prop
  | start : Walk a 0 a.root
  | step {k : Nat} {name other : Text} (h : Walk a k name) (hl : a.LeadsTo name other) :
      Walk a (k + 1) other

def Within (a : Atlas) (k : Nat) (name : Text) : Prop := ∃ j ≤ k, a.Walk j name

def Distance (a : Atlas) (k : Nat) (name : Text) : Prop :=
  a.Walk k name ∧ ∀ j < k, ¬ a.Walk j name

/-- A name some page refers to by a link. -/
def Linked (a : Atlas) (name : Text) : Prop :=
  ∃ p d, (p = a.seed ∨ ∃ location, a.guide.fetcher.fetch location = .ok p) ∧
    p.declaration = some d ∧ ∃ x ∈ a.guide.uses d.fullName d p.kept, x.isLinked = true ∧
      x.fullName = name

/-- A name that is the root or linked. -/
def Named (a : Atlas) (name : Text) : Prop := name = a.root ∨ a.Linked name

/-- Every link to a name leads to one and the same page, which is not the page of a namespace;
different names have different pages; and the page of a name declares this name, unless it cannot
be had or declares nothing. -/
structure Consistent (a : Atlas) : Prop where
  seed : a.seed.declaration = some a.start
  source : a.seed.source = a.page a.root
  leads : ∀ p d, (p = a.seed ∨ ∃ location, a.guide.fetcher.fetch location = .ok p) →
    p.declaration = some d → ∀ x ∈ a.guide.uses d.fullName d p.kept, x.isLinked = true →
      a.guide.Leads x (a.page x.fullName)
  notNamespace : ∀ name, a.Linked name → Location.isNamespacePage (a.page name) = false
  injective : Set.InjOn a.page {name | a.Named name}
  declares : ∀ name, a.Linked name → ∀ p d, a.guide.fetcher.fetch (a.page name) = .ok p →
    p.declaration = some d → d.fullName = name
  reports : ∀ name, a.Linked name → ∀ told path,
    a.guide.fetcher.fetch (a.page name) ≠ .error (.unexplained (.cycle told path))

/-! Ways and distances. -/

theorem within_zero_iff : a.Within 0 name ↔ name = a.root := by
  constructor
  · rintro ⟨j, hj, h⟩
    cases h with
    | start => rfl
    | step => omega
  · rintro rfl
    exact ⟨0, Nat.le_refl 0, .start⟩

theorem within_root (k : Nat) : a.Within k a.root := ⟨0, Nat.zero_le k, .start⟩

theorem Within.mono (h : a.Within j name) (hjk : j ≤ k) : a.Within k name := by
  obtain ⟨i, hi, h⟩ := h
  exact ⟨i, Nat.le_trans hi hjk, h⟩

theorem Within.step (h : a.Within k name) (hl : a.LeadsTo name other) : a.Within (k + 1) other := by
  obtain ⟨i, hi, h⟩ := h
  exact ⟨i + 1, by omega, h.step hl⟩

theorem within_succ (h : a.Within (k + 1) other) :
    a.Within k other ∨ ∃ name, a.Within k name ∧ a.LeadsTo name other := by
  obtain ⟨j, hj, h⟩ := h
  cases h with
  | start => exact .inl (within_root k)
  | step h hl => exact .inr ⟨_, ⟨_, by omega, h⟩, hl⟩

theorem distance_succ_iff :
    a.Distance (k + 1) name ↔ a.Within (k + 1) name ∧ ¬ a.Within k name := by
  constructor
  · rintro ⟨h, hshorter⟩
    refine ⟨⟨k + 1, Nat.le_refl _, h⟩, ?_⟩
    rintro ⟨j, hj, hwalk⟩
    exact hshorter j (by omega) hwalk
  · rintro ⟨⟨j, hj, h⟩, hfar⟩
    have hj' : j = k + 1 := by
      by_contra hne
      exact hfar ⟨j, by omega, h⟩
    subst hj'
    exact ⟨h, fun j hj hwalk => hfar ⟨j, by omega, hwalk⟩⟩

/-- Where one more link leads to nothing new, no number of links does. -/
theorem within_of_stable (hstable : ∀ name, a.Within (n + 1) name → a.Within n name)
    (h : a.Within k name) : a.Within n name := by
  obtain ⟨j, _, hwalk⟩ := h
  clear * - hstable hwalk
  induction hwalk with
  | start => exact within_root n
  | step _ hl ih => exact hstable _ (ih.step hl)

/-! What consistency says about the names on the way. -/

theorem held_of_ne (h : name ≠ a.root) : a.held name =
    match a.guide.fetcher.fetch (a.page name) with
    | .ok p => p.declaration.map (·, p.kept)
    | .error _ => none := if_neg h

namespace Consistent

variable {d : Declaration} {kept : Option PageLinks} {x : Dependency}

theorem page_of_held (ha : a.Consistent) (hname : a.Named name)
    (h : a.held name = some (d, kept)) :
    ∃ p, (p = a.seed ∨ ∃ location, a.guide.fetcher.fetch location = .ok p) ∧
      p.declaration = some d ∧ p.kept = kept ∧ d.fullName = name := by
  by_cases hroot : name = a.root
  · rw [held, if_pos hroot] at h
    cases h
    exact ⟨a.seed, .inl rfl, ha.seed, rfl, hroot.symm⟩
  · rw [held_of_ne hroot] at h
    cases hfetch : a.guide.fetcher.fetch (a.page name) with
    | error fault =>
      rw [hfetch] at h
      cases h
    | ok p =>
      rw [hfetch] at h
      obtain ⟨d', hd, heq⟩ := Option.map_eq_some_iff.mp h
      cases heq
      exact ⟨p, .inr ⟨_, hfetch⟩, hd, rfl,
        ha.declares name (hname.resolve_left hroot) p d hfetch hd⟩

theorem leads_of_held (ha : a.Consistent) (hname : a.Named name)
    (h : a.held name = some (d, kept)) (hx : x ∈ a.guide.uses name d kept)
    (hlinked : x.isLinked = true) :
    a.guide.Leads x (a.page x.fullName) ∧ a.Linked x.fullName := by
  obtain ⟨p, hp, hd, rfl, hfull⟩ := ha.page_of_held hname h
  rw [← hfull] at hx
  exact ⟨ha.leads p d hp hd x hx hlinked, p, d, hp, hd, x, hx, hlinked, rfl⟩

theorem linked_of_leadsTo (ha : a.Consistent) (hname : a.Named name) (h : a.LeadsTo name other) :
    a.Linked other := by
  obtain ⟨d, kept, hheld, x, hx, hlinked, rfl⟩ := h
  exact (ha.leads_of_held hname hheld hx hlinked).2

theorem named_of_walk (ha : a.Consistent) (h : a.Walk k name) : a.Named name := by
  induction h with
  | start => exact .inl rfl
  | step _ hl ih => exact .inr (ha.linked_of_leadsTo ih hl)

theorem named (ha : a.Consistent) (h : a.Within k name) : a.Named name := by
  obtain ⟨j, _, h⟩ := h
  exact ha.named_of_walk h

end Consistent

end Atlas

end TypeAtlas
