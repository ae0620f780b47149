import Mathlib.Data.List.Basic
import TypeAtlas.Location.Basic

/-!
Local locations inside a directory. A location is put below a directory as it is spelled; reading
it, the directory it stands in, and a link found there agree with what they are outside of the
directory.
-/

namespace TypeAtlas

namespace Text

variable {separator : Char}

theorem join_append (mark : Text) (before : List Text) {parts : List Text} (h : parts ≠ []) :
    join mark (before ++ parts) = before.flatMap (· ++ mark) ++ join mark parts := by
  induction before with
  | nil => rfl
  | cons part before ih =>
    obtain ⟨next, rest, hrest⟩ := List.exists_cons_of_ne_nil
      (List.append_ne_nil_of_right_ne_nil before h)
    rw [List.cons_append, hrest, join_cons_cons, ← hrest, ih, List.flatMap_cons,
      List.append_assoc, List.append_assoc]

theorem fields_append {field : Text} (t : Text) (h : separator ∉ field) :
    fields separator (field ++ separator :: t) = field :: fields separator t := by
  induction field with
  | nil => exact if_pos rfl
  | cons c field ih =>
    rw [List.mem_cons, not_or] at h
    rw [List.cons_append, fields, if_neg (Ne.symm h.1), ih h.2]

theorem fields_of_not_mem {t : Text} (h : separator ∉ t) : fields separator t = [t] := by
  induction t with
  | nil => rfl
  | cons c t ih =>
    rw [List.mem_cons, not_or] at h
    rw [fields, if_neg (Ne.symm h.1), ih h.2]

theorem not_mem_of_mem_fields {t field : Text} (h : field ∈ fields separator t) :
    separator ∉ field := by
  induction t generalizing field with
  | nil =>
    rw [List.mem_singleton.mp h]
    exact List.not_mem_nil
  | cons c t ih =>
    rw [fields] at h
    split at h
    · rcases List.mem_cons.mp h with rfl | h
      · exact List.not_mem_nil
      · exact ih h
    · rename_i hc
      split at h
      · rw [List.mem_singleton.mp h, List.mem_singleton]
        exact Ne.symm hc
      · rename_i first rest ht
        rw [ht] at ih
        rcases List.mem_cons.mp h with rfl | h
        · rw [List.mem_cons, not_or]
          exact ⟨Ne.symm hc, ih List.mem_cons_self⟩
        · exact ih (List.mem_cons_of_mem first h)

end Text

namespace Path

/-- The names that a path leads through. -/
def IsPart (part : Text) : Prop := part ≠ [] ∧ part ≠ "." ∧ '/' ∉ part

/-- A path as it comes from text. -/
structure IsRead (p : Path) : Prop where
  root : p.root = [] ∨ p.root = "/" ∨ p.root = "//"
  parts : ∀ part ∈ p.parts, IsPart part

theorem keeps_iff {part : Text} :
    (!part.isEmpty && part != ".") = true ↔ part ≠ [] ∧ part ≠ "." := by
  rw [Bool.and_eq_true, Bool.not_eq_true', List.isEmpty_eq_false_iff, bne_iff_ne]

theorem isRead_ofText (t : Text) : (ofText t).IsRead := by
  constructor
  · unfold ofText rootOf
    split
    · exact .inl rfl
    · exact .inr (.inr rfl)
    · exact .inr (.inl rfl)
  · intro part hpart
    obtain ⟨hfield, hkept⟩ := List.mem_filter.mp hpart
    obtain ⟨hempty, hdot⟩ := keeps_iff.mp hkept
    exact ⟨hempty, hdot, Text.not_mem_of_mem_fields hfield⟩

theorem IsRead.parent {p : Path} (h : p.IsRead) : p.parent.IsRead :=
  ⟨h.root, fun part hpart => h.parts part (List.dropLast_subset p.parts hpart)⟩

theorem IsRead.join {p q : Path} (hp : p.IsRead) (hq : q.IsRead) : (p.join q).IsRead := by
  unfold Path.join
  split
  · exact ⟨hp.root, fun part hpart =>
      (List.mem_append.mp hpart).elim (hp.parts part) (hq.parts part)⟩
  · exact hq

theorem join_of_rootless (p : Path) {q : Path} (h : q.root = []) :
    p.join q = ⟨p.root, p.parts ++ q.parts⟩ := by
  rw [join, h]
  rfl

/-! Reading what was written. -/

theorem parts_append {part : Text} (h : IsPart part) (t : Text) :
    (ofText (part ++ '/' :: t)).parts = part :: (ofText t).parts := by
  unfold ofText
  rw [Text.fields_append t h.2.2, List.filter_cons_of_pos]
  exact keeps_iff.mpr ⟨h.1, h.2.1⟩

theorem rootOf_cons {c : Char} (h : c ≠ '/') (t : Text) : rootOf (c :: t) = [] := by
  simp [rootOf, h]

theorem ofText_of_isPart {part : Text} (h : IsPart part) : ofText part = ⟨[], [part]⟩ := by
  obtain ⟨c, rest, rfl⟩ := List.exists_cons_of_ne_nil h.1
  have hroot : rootOf (c :: rest) = [] :=
    rootOf_cons (fun hc => h.2.2 (hc ▸ List.mem_cons_self)) rest
  unfold ofText
  rw [hroot, Text.fields_of_not_mem h.2.2, List.filter_cons_of_pos]
  · rfl
  · exact keeps_iff.mpr ⟨h.1, h.2.1⟩

/-- What stands in front of the locations inside a directory. -/
def lead (p : Path) : Text := p.root ++ p.parts.flatMap (· ++ "/".toList)

theorem parts_flatMap {parts : List Text} (h : ∀ part ∈ parts, IsPart part) (t : Text) :
    (ofText (parts.flatMap (· ++ "/".toList) ++ t)).parts = parts ++ (ofText t).parts := by
  induction parts with
  | nil => rfl
  | cons part parts ih =>
    rw [List.forall_mem_cons] at h
    rw [List.flatMap_cons, List.append_assoc, List.append_assoc, List.cons_append, ← ih h.2]
    exact parts_append h.1 _

theorem head_of_rootless {c : Char} {t : Text} (h : rootOf (c :: t) = []) : c ≠ '/' := by
  rintro rfl
  unfold rootOf at h
  split at h
  · rename_i hlength
    simp at hlength
  · cases h
  · cases h

theorem rootOf_flatMap {parts : List Text} (h : ∀ part ∈ parts, IsPart part) {t : Text}
    (ht : rootOf t = []) : rootOf (parts.flatMap (· ++ "/".toList) ++ t) = [] := by
  cases parts with
  | nil => exact ht
  | cons part parts =>
    have hpart := h part List.mem_cons_self
    obtain ⟨c, rest, rfl⟩ := List.exists_cons_of_ne_nil hpart.1
    exact rootOf_cons (fun hc => hpart.2.2 (hc ▸ List.mem_cons_self)) _

theorem rootOf_append {root t : Text} (hroot : root = [] ∨ root = "/" ∨ root = "//")
    (h : rootOf t = []) : rootOf (root ++ t) = root := by
  cases t with
  | nil => rcases hroot with rfl | rfl | rfl <;> rfl
  | cons c t =>
    have hc := head_of_rootless h
    rcases hroot with rfl | rfl | rfl
    · exact h
    · simp [rootOf, hc]
    · simp [rootOf, hc]

/-- A location below a path is read as what it is, joined to the path. -/
theorem ofText_lead {p : Path} (hp : p.IsRead) {t : Text} (ht : (ofText t).root = []) :
    ofText (p.lead ++ t) = p.join (ofText t) := by
  have hroot : rootOf (p.lead ++ t) = p.root := by
    rw [lead, List.append_assoc]
    exact rootOf_append hp.root (rootOf_flatMap hp.parts ht)
  have hparts : (ofText (p.lead ++ t)).parts = p.parts ++ (ofText t).parts := by
    rw [lead, List.append_assoc, ← parts_flatMap hp.parts t]
    rcases hp.root with hp | hp | hp <;> rw [hp] <;> rfl
  rw [join_of_rootless p ht, ← hroot, ← hparts]
  rfl

theorem render_of_parts {p : Path} (h : p.parts ≠ []) :
    p.render = p.root ++ Text.join "/" p.parts := by
  rw [render, List.isEmpty_eq_false_iff.mpr h, Bool.and_false]
  rfl

/-- What is written below a path is written as what is joined to it. -/
theorem lead_append_render (p : Path) {q : Path} (hq : q.root = []) (hparts : q.parts ≠ []) :
    p.lead ++ q.render = (p.join q).render := by
  have hjoined : (Path.mk p.root (p.parts ++ q.parts)).parts ≠ [] :=
    List.append_ne_nil_of_right_ne_nil p.parts hparts
  rw [join_of_rootless p hq, render_of_parts hparts, render_of_parts hjoined, hq, lead,
    Text.join_append _ _ hparts, List.append_assoc]
  rfl

theorem ofText_render {p : Path} (h : p.IsRead) : ofText p.render = p := by
  obtain ⟨root, parts⟩ := p
  rcases parts.eq_nil_or_concat' with rfl | ⟨before, part, rfl⟩
  · rcases h.root with hroot | hroot | hroot <;> cases hroot <;> rfl
  · have hpart : IsPart part := h.parts part (by simp)
    have hread := ofText_of_isPart hpart
    have hrootless : (ofText part).root = [] := by rw [hread]
    have hbefore : IsRead ⟨root, before⟩ :=
      ⟨h.root, fun x hx => h.parts x (List.mem_append_left _ hx)⟩
    have hjoin : (Path.mk root before).join (ofText part) = ⟨root, before ++ [part]⟩ := by
      rw [join_of_rootless _ hrootless, hread]
    have hrender : (ofText part).render = part := by simp [hread, render, Text.join]
    have hlead := lead_append_render ⟨root, before⟩ hrootless (by simp [hread])
    rw [hrender, hjoin] at hlead
    rw [← hlead, ofText_lead hbefore hrootless, hjoin]

theorem render_ne_nil {p : Path} (h : p.IsRead) : p.render ≠ [] := by
  intro hrender
  have hread := ofText_render h
  rw [hrender] at hread
  rw [← hread] at hrender
  cases hrender

theorem lead_of_parts {p : Path} (h : p.parts ≠ []) : p.lead = p.render ++ "/".toList := by
  obtain ⟨before, part, hparts⟩ := p.parts.eq_nil_or_concat'.resolve_left h
  rw [lead, render_of_parts h, hparts, Text.join_append _ _ (by simp)]
  simp [Text.join]

end Path

namespace Location

open TypeAtlas.Path (ofText isRead_ofText join_of_rootless ofText_render)

/-- A location inside a directory, spelled as it is. -/
def below (dir location : Text) : Text :=
  if location = "." then Path.normalize dir else (ofText dir).lead ++ location

/-- Where the document at `location` says that a local link leads. -/
def linked (target location : Text) : Text :=
  ((ofText location).parent.join (ofText (withoutFragment target))).render

theorem below_dot (location : Text) : below "." location = location := by
  unfold below
  split
  · rename_i h
    rw [h]
    decide
  · rfl

theorem join_dot (p : Path) : p.join (ofText ".") = p := by
  rw [join_of_rootless p rfl]
  exact congrArg _ (List.append_nil p.parts)

theorem ofText_below (dir : Text) {location : Text} (h : (ofText location).root = []) :
    ofText (below dir location) = (ofText dir).join (ofText location) := by
  unfold below
  split
  · rename_i hdot
    rw [hdot, join_dot, Path.normalize, ofText_render (isRead_ofText dir)]
  · exact Path.ofText_lead (isRead_ofText dir) h

theorem below_render (dir : Text) {p : Path} (hp : p.IsRead) (h : p.root = []) :
    below dir p.render = ((ofText dir).join p).render := by
  unfold below
  split
  · rename_i hdot
    rw [← ofText_render hp, hdot, join_dot, Path.normalize]
  · rename_i hdot
    apply Path.lead_append_render _ h
    intro hparts
    apply hdot
    rw [Path.render, h, hparts]
    rfl

theorem normalize_below (dir : Text) {location : Text} (h : (ofText location).root = []) :
    Path.normalize (below dir location) = below dir (Path.normalize location) := by
  rw [Path.normalize, ofText_below dir h, Path.normalize,
    below_render dir (isRead_ofText location) h]

theorem linked_rootless {location target : Text} (h : (ofText location).root = [])
    (htarget : (ofText (withoutFragment target)).root = []) :
    ((ofText location).parent.join (ofText (withoutFragment target))).root = [] := by
  rw [join_of_rootless _ htarget]
  exact h

/-- A link of a document inside a directory leads inside the directory. -/
theorem linked_below (dir : Text) {location target : Text} (h : (ofText location).root = [])
    (hparts : (ofText location).parts ≠ [])
    (htarget : (ofText (withoutFragment target)).root = []) :
    linked target (below dir location) = below dir (linked target location) := by
  have hjoin := (isRead_ofText location).parent.join (isRead_ofText (withoutFragment target))
  rw [linked, ofText_below dir h, linked, below_render dir hjoin (linked_rootless h htarget),
    join_of_rootless _ (linked_rootless h htarget), join_of_rootless _ h,
    join_of_rootless _ htarget, join_of_rootless _ htarget, Path.parent, Path.parent,
    List.dropLast_append_of_ne_nil hparts, List.append_assoc]

theorem normalize_ne_lead_append (dir : Text) {location : Text} (h : location ≠ [])
    (hdot : location ≠ ".") : Path.normalize dir ≠ (ofText dir).lead ++ location := by
  intro heq
  by_cases hparts : (ofText dir).parts = []
  · rw [Path.normalize, Path.render, Path.lead, hparts, List.isEmpty_nil, Bool.and_true] at heq
    split at heq
    · rename_i hroot
      rw [List.isEmpty_iff.mp hroot] at heq
      exact hdot heq.symm
    · exact h (List.self_eq_append_right.mp heq)
  · rw [Path.lead_of_parts hparts, List.append_assoc] at heq
    exact h (List.append_eq_nil_iff.mp (List.self_eq_append_right.mp heq)).2

/-- No two locations are the same one inside a directory. -/
theorem below_inj {dir a b : Text} (ha : a ≠ []) (hb : b ≠ []) :
    below dir a = below dir b ↔ a = b := by
  constructor
  · intro h
    by_cases hadot : a = "."
    · by_cases hbdot : b = "."
      · rw [hadot, hbdot]
      · rw [below, if_pos hadot, below, if_neg hbdot] at h
        exact absurd h (normalize_ne_lead_append dir hb hbdot)
    · by_cases hbdot : b = "."
      · rw [below, if_neg hadot, below, if_pos hbdot] at h
        exact absurd h.symm (normalize_ne_lead_append dir ha hadot)
      · rw [below, if_neg hadot, below, if_neg hbdot] at h
        exact List.append_cancel_left h
  · exact fun h => h ▸ rfl

end Location

end TypeAtlas
