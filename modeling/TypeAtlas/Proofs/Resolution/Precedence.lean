import Mathlib.Data.List.Induction
import TypeAtlas.Page.Basic
import TypeAtlas.Proofs.Resolution.Linking

/-!
Which of several links a dependency gets. Whole texts and last names of links stand in one table, in
which a later link replaces an earlier one: a dependency gets the last link that goes by its full
name, be that the text of the link or only the last name in it. A full name with a scope is no last
name of another text, so there the exact text decides.
-/

namespace TypeAtlas

/-! The last name in a text. -/

namespace Text

variable {separator t before after : Text}

theorem cutLast?_drop (h : cutLast? separator t = none) (n : Nat) :
    cutLast? separator (t.drop n) = none := by
  induction n generalizing t with
  | zero => exact h
  | succ n ih =>
    cases t with
    | nil => exact h
    | cons c r =>
      rw [cutLast?] at h
      split at h
      · cases h
      · rename_i hnone
        exact ih hnone

/-- The separator does not come again behind its last occurrence. -/
theorem cutLast?_behind (hne : separator ≠ []) (h : cutLast? separator t = some (before, after)) :
    cutLast? separator after = none := by
  induction t generalizing before with
  | nil =>
    rw [cutLast?, if_neg (by simpa using hne)] at h
    cases h
  | cons c r ih =>
    rw [cutLast?] at h
    split at h
    · rename_i hlater
      cases h
      exact ih hlater
    · rename_i hnone
      split at h
      · cases h
        cases separator with
        | nil => exact absurd rfl hne
        | cons s separator => exact cutLast?_drop hnone separator.length
      · cases h

end Text

theorem lastName_lastName (t : Text) : lastName (lastName t) = lastName t := by
  unfold lastName
  cases hcut : Text.cutLast? "::" t with
  | none => simp only [hcut]
  | some parts =>
    obtain ⟨scope, name⟩ := parts
    have hbehind : Text.cutLast? "::" name = none := Text.cutLast?_behind (by decide) hcut
    by_cases hempty : name.isEmpty = true
    · simp only [hempty, if_true, hcut]
    · simp only [hempty, Bool.false_eq_true, if_false, hbehind]

theorem eq_nil_of_lastName {t : Text} (h : lastName t = []) : t = [] := by
  unfold lastName at h
  split at h
  · split at h
    · exact h
    · rename_i hne
      exact absurd (List.isEmpty_iff.mpr h) hne
  · exact h

/-! The table of links. -/

/-- The text of the link, with its blanks collapsed, is the name. -/
def IsTitled (name : Text) (link : Text × Text) : Prop := Text.collapse link.1 = name

/-- The link goes by the name: that is its text or the last name in its text. -/
def GoesBy (name : Text) (link : Text × Text) : Prop :=
  IsTitled name link ∨ lastName (Text.collapse link.1) = name

instance (name : Text) (link : Text × Text) : Decidable (IsTitled name link) :=
  inferInstanceAs (Decidable (_ = _))

instance (name : Text) (link : Text × Text) : Decidable (GoesBy name link) :=
  inferInstanceAs (Decidable (_ ∨ _))

theorem GoesBy.titled {name : Text} {link : Text × Text} (h : GoesBy name link)
    (hscope : lastName name ≠ name) : IsTitled name link := by
  rcases h with h | h
  · exact h
  · rw [← h] at hscope
    exact absurd (lastName_lastName _) hscope

namespace LinkTable

theorem get?_add_eq (t : LinkTable) (link : Text × Text) (name : Text) :
    (t.add link.1 link.2).get? name = if GoesBy name link then some link.2 else t.get? name := by
  simp only [add]
  split
  · rename_i hone
    have heq : lastName (Text.collapse link.1) = Text.collapse link.1 := by
      rcases Bool.or_eq_true_iff.mp hone with hempty | heq
      · have hnil := List.isEmpty_iff.mp hempty
        rw [hnil, eq_nil_of_lastName hnil]
      · exact of_decide_eq_true heq
    have hgoes : name = Text.collapse link.1 ↔ GoesBy name link := by
      rw [GoesBy, IsTitled, heq, or_self, eq_comm]
    rw [Keyed.get?_set]
    exact if_congr hgoes rfl rfl
  · have hgoes : name = lastName (Text.collapse link.1) ∨ name = Text.collapse link.1 ↔
        GoesBy name link := by
      rw [GoesBy, IsTitled, or_comm, eq_comm, @eq_comm _ name]
    rw [Keyed.get?_set, Keyed.get?_set, ← ite_or]
    exact if_congr hgoes rfl rfl

/-- A name leads where the last link leads that goes by it. -/
theorem get?_ofLinks (links : List (Text × Text)) (name : Text) :
    (ofLinks links).get? name = (links.reverse.find? fun l => GoesBy name l).map Prod.snd := by
  induction links using List.reverseRecOn with
  | nil => rfl
  | append_singleton links link ih =>
    have hadd : ofLinks (links ++ [link]) = (ofLinks links).add link.1 link.2 := by
      rw [ofLinks, List.foldl_concat]
      rfl
    rw [hadd, get?_add_eq, List.reverse_concat, ih]
    by_cases hgoes : GoesBy name link
    · rw [if_pos hgoes, List.find?_cons_of_pos (by simpa using hgoes)]
      rfl
    · rw [if_neg hgoes, List.find?_cons_of_neg (by simpa using hgoes)]

/-- If any link goes by a name, the last one that does stands somewhere in the list. -/
theorem exists_last {links : List (Text × Text)} {name : Text} (h : ∃ l ∈ links, GoesBy name l) :
    ∃ front l back, links = front ++ l :: back ∧ GoesBy name l ∧ (∀ k ∈ back, ¬GoesBy name k) ∧
      (ofLinks links).get? name = some l.2 := by
  obtain ⟨l, hfind⟩ : ∃ l, (links.reverse.find? fun l => GoesBy name l) = some l := by
    rw [← Option.isSome_iff_exists, List.find?_isSome]
    obtain ⟨l, hl, hgoes⟩ := h
    exact ⟨l, List.mem_reverse.mpr hl, by simpa using hgoes⟩
  obtain ⟨hgoes, back, front, hsplit, hback⟩ := List.find?_eq_some_iff_append.mp hfind
  refine ⟨front.reverse, l, back.reverse, ?_, by simpa using hgoes, ?_, ?_⟩
  · have hreverse := congrArg List.reverse hsplit
    simpa using hreverse
  · intro k hk
    simpa using hback k (List.mem_reverse.mp hk)
  · rw [get?_ofLinks, hfind]
    rfl

end LinkTable

/-- The link leads to a page about a type. -/
def IsTypeLink (link : Text × Text) : Prop := Page.typeMarkers.any (Text.includes · link.2) = true

theorem Page.isTypeLink {p : Page} {link : Text × Text} (h : link ∈ p.links) : IsTypeLink link := by
  obtain ⟨s, -, hs⟩ := List.mem_filterMap.mp h
  simp only [linkOf?] at hs
  split at hs
  · rename_i hmarked
    cases hs
    exact (Bool.and_eq_true_iff.mp hmarked).2
  · cases hs

theorem IsTypeLink.ne_nil {link : Text × Text} (h : IsTypeLink link) : link.2 ≠ [] := by
  intro hnil
  rw [IsTypeLink, hnil] at h
  revert h
  decide

namespace Dependency

/-- The full name is the first text that is looked up. -/
theorem link_attach {t : LinkTable} {x : Dependency} {target : Text}
    (h : t.get? x.fullName = some target) (hne : target ≠ []) (primary : Option Text) :
    (x.attach primary t).link = some target := by
  have hfirst : linkIn? t x.fullName = some target := by
    rw [linkIn?, h, Option.bind_some, if_neg (by simpa using hne)]
  have hlink : x.linkTo? primary t = some target := by
    simp only [linkTo?, linkTexts, List.cons_append, List.findSome?_cons, hfirst]
  rw [attach, hlink]
  rfl

end Dependency

/-- A dependency whose full name is the text of some link on the page gets the last link there that
goes by the name. It is one of exactly that text if the name has a scope, or if no link that has the
name only for its last name stands behind all links of that text. -/
theorem exact_text_linked (links : List (Text × Text)) (hlinks : ∀ l ∈ links, IsTypeLink l)
    (primary : Option Text) (c : Context) (ds : List Dependency) (x : Dependency)
    (hx : x ∈ (c.attach primary (.ofLinks links) ds).2)
    (hexact : ∃ l ∈ links, IsTitled x.fullName l) :
    (∃ front l back, links = front ++ l :: back ∧ x.link = some l.2 ∧ GoesBy x.fullName l ∧
      ∀ k ∈ back, ¬GoesBy x.fullName k) ∧
    ((lastName x.fullName ≠ x.fullName ∨ ∀ front k back, links = front ++ k :: back →
        GoesBy x.fullName k → ∃ l ∈ k :: back, IsTitled x.fullName l) →
      ∃ l ∈ links, IsTitled x.fullName l ∧ x.link = some l.2) := by
  obtain ⟨known, hattach⟩ := Context.attach_eq primary (.ofLinks links) c ds
  rw [hattach] at hx
  obtain ⟨y, -, rfl⟩ := List.mem_map.mp hx
  obtain ⟨e, he, htitled⟩ := hexact
  obtain ⟨front, l, back, hsplit, hgoes, hlast, hget⟩ :=
    LinkTable.exists_last ⟨e, he, .inl htitled⟩
  have hl : l ∈ links := hsplit ▸ List.mem_append_right front List.mem_cons_self
  have hlink : (y.attach primary (.ofLinks links)).link = some l.2 :=
    Dependency.link_attach (x := y) hget (hlinks l hl).ne_nil primary
  refine ⟨⟨front, l, back, hsplit, hlink, hgoes, hlast⟩, ?_⟩
  rintro (hscope | hbehind)
  · exact ⟨l, hl, hgoes.titled hscope, hlink⟩
  · obtain ⟨k, hk, htitled⟩ := hbehind front l back hsplit hgoes
    rcases List.mem_cons.mp hk with rfl | hk
    · exact ⟨k, hl, htitled, hlink⟩
    · exact absurd (.inl htitled) (hlast k hk)

namespace Sample

def anchor (text target : Text) : Markup.Outline :=
  [⟨0, .element ⟨"a", [("class", "el"), ("href", target)]⟩⟩, ⟨1, .text text⟩]

/-- A page that names a class and, behind it, the class of that name in a scope. -/
def overview : Page :=
  ⟨"docs/class_a.html", anchor "B" "class_b.html" ++ anchor "ns::B" "class_ns_1_1_b.html"⟩

def overviewLinks : List (Text × Text) :=
  [("B", "class_b.html"), ("ns::B", "class_ns_1_1_b.html")]

theorem links_overview : overview.links = overviewLinks := by decide

/-- Inherits both classes. -/
def heir : Declaration := ⟨"A", [], "A", ["B", "ns::B"], [], [], [], [], [], none, false⟩

/-- The dependencies of the heir with the links of the page. -/
def linked : List Dependency :=
  ((Context.start 1).attach none (.ofLinks overview.links)
    (Dependency.ofDeclaration .empty "docs/class_a.html" heir)).2

theorem linked_eq : linked =
    [⟨"B", "B", "docs/class_a.html", .parent, none, some "class_ns_1_1_b.html"⟩,
      ⟨"B", "ns::B", "docs/class_a.html", .parent, some "ns", some "class_ns_1_1_b.html"⟩] := by
  rw [linked, links_overview]
  decide +kernel

end Sample

theorem exact_text_linked_sample : ∃ x ∈ Sample.linked, x.fullName = "ns::B" ∧
    (∀ l ∈ Sample.overview.links, IsTypeLink l) ∧
    ∃ l ∈ Sample.overview.links, IsTitled x.fullName l ∧ x.link = some l.2 := by
  have hlinks : ∀ l ∈ Sample.overview.links, IsTypeLink l := fun l hl => Page.isTypeLink hl
  obtain ⟨x, hx, hname⟩ : ∃ x ∈ Sample.linked, x.fullName = "ns::B" := by
    rw [Sample.linked_eq]
    decide
  have hexact : ∃ l ∈ Sample.overview.links, IsTitled x.fullName l := by
    rw [Sample.links_overview, hname]
    decide
  have hscope : lastName x.fullName ≠ x.fullName := by
    rw [hname]
    decide
  exact ⟨x, hx, hname, hlinks, (exact_text_linked Sample.overview.links hlinks none _ _ x hx
    hexact).2 (.inl hscope)⟩

/-- There is a link whose text is the full name, and the dependency gets the link of another text,
of which the name is only the last one. -/
theorem exact_text_passed_over : ∃ x ∈ Sample.linked,
    (∃ l ∈ Sample.overview.links, IsTitled x.fullName l) ∧
    ¬∃ l ∈ Sample.overview.links, IsTitled x.fullName l ∧ x.link = some l.2 := by
  rw [Sample.linked_eq, Sample.links_overview]
  decide

end TypeAtlas
