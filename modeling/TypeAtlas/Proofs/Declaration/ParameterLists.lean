import Mathlib.Data.List.Basic
import TypeAtlas.Declaration.ParameterList

/-!
Parameter lists written and read again. Where each written parameter closes its brackets and shelters
its commas, the list is cut at the commas that were put between the parameters and nowhere else; and
of each part the first equals sign and the last blank before it tell the type, the name and the value.
-/

namespace TypeAtlas

/-- How many brackets are open behind a text. -/
def nesting (t : Text) : Int := t.countP isOpening - t.countP isClosing

/-- No comma of the text stands outside of all brackets. -/
def Sheltered (t : Text) : Prop :=
  ∀ before after, t = before ++ ',' :: after → nesting before ≠ 0

theorem sheltered_iff {t : Text} :
    Sheltered t ↔ ∀ i < t.length, t[i]? = some ',' → nesting (t.take i) ≠ 0 := by
  constructor
  · intro h i hi hcomma
    apply h (t.take i) (t.drop (i + 1))
    rw [List.getElem?_eq_getElem hi, Option.some.injEq] at hcomma
    rw [← hcomma, ← List.drop_eq_getElem_cons hi, List.take_append_drop]
  · rintro h before after rfl
    have hnesting := h before.length (by simp) (by simp)
    rwa [List.take_left] at hnesting

instance (t : Text) : Decidable (Sheltered t) := decidable_of_iff _ sheltered_iff.symm

theorem nestingAfter_eq (n : Int) (c : Char) : nestingAfter n c = n + nesting [c] := by
  unfold nestingAfter nesting
  cases hopening : isOpening c with
  | true =>
    have hclosing : isClosing c = false := by
      simp only [isOpening, Bool.or_eq_true, decide_eq_true_eq] at hopening
      rcases hopening with (rfl | rfl) | rfl <;> decide
    simp [hopening, hclosing]
  | false =>
    cases hclosing : isClosing c with
    | true => simp [hopening, hclosing, Int.sub_eq_add_neg]
    | false => simp [hopening, hclosing]

theorem nesting_cons (c : Char) (t : Text) : nesting (c :: t) = nesting [c] + nesting t := by
  simp only [nesting, List.countP_cons, List.countP_nil]
  omega

/-! Cutting at commas. -/

theorem foldr_ontoFirst (part first : Text) (others : List Text) :
    part.foldr ontoFirst (first :: others) = (part ++ first) :: others := by
  induction part with
  | nil => rfl
  | cons c part ih =>
    rw [List.foldr_cons, ih]
    rfl

/-- A sheltered text goes to the part that begins with it. -/
theorem commaParts_append {n : Int} {part : Text}
    (h : ∀ before after, part = before ++ ',' :: after → n + nesting before ≠ 0) (rest : Text) :
    commaParts n (part ++ rest) = part.foldr ontoFirst (commaParts (n + nesting part) rest) := by
  induction part generalizing n with
  | nil =>
    have hnone : n + nesting [] = n := Int.add_zero n
    rw [hnone]
    rfl
  | cons c part ih =>
    have hstays : ¬ (decide (c = ',') && decide (n = 0)) = true := by
      rw [Bool.and_eq_true, decide_eq_true_iff, decide_eq_true_iff]
      rintro ⟨rfl, rfl⟩
      exact h [] part rfl rfl
    have hrest := ih (n := nestingAfter n c) (by
      intro before after hpart
      have hne := h (c :: before) after (by rw [hpart]; rfl)
      rwa [nesting_cons, ← Int.add_assoc, ← nestingAfter_eq] at hne)
    rw [List.cons_append, commaParts, if_neg hstays, hrest, nesting_cons, ← Int.add_assoc,
      ← nestingAfter_eq]
    rfl

theorem commaParts_sheltered {part : Text} (h : Sheltered part) (hnesting : nesting part = 0)
    (rest : Text) : commaParts 0 (part ++ rest) = part.foldr ontoFirst (commaParts 0 rest) := by
  have hpart := commaParts_append (n := 0) (by
    intro before after heq
    rw [Int.zero_add]
    exact h before after heq) rest
  rwa [hnesting] at hpart

theorem commaParts_join {part : Text} {parts : List Text}
    (h : ∀ p ∈ part :: parts, Sheltered p ∧ nesting p = 0) :
    commaParts 0 (Text.join ", " (part :: parts)) = part :: parts.map (' ' :: ·) := by
  obtain ⟨hsheltered, hnesting⟩ := h part List.mem_cons_self
  induction parts generalizing part with
  | nil =>
    have hwhole : Text.join ", " [part] = part ++ [] := by simp [Text.join]
    rw [hwhole, commaParts_sheltered hsheltered hnesting]
    exact (foldr_ontoFirst part [] []).trans (by rw [List.append_nil]; rfl)
  | cons next parts ih =>
    obtain ⟨hnext, hclosed⟩ := h next (List.mem_cons_of_mem part List.mem_cons_self)
    have hrest := ih (fun p hp => h p (List.mem_cons_of_mem part hp)) hnext hclosed
    have hcomma (rest : Text) :
        commaParts 0 (", ".toList ++ rest) = [] :: ontoFirst ' ' (commaParts 0 rest) := rfl
    rw [Text.join_cons_cons, commaParts_sheltered hsheltered hnesting, hcomma, foldr_ontoFirst,
      hrest, List.append_nil]
    rfl

theorem splitParameters_join {parts : List Text}
    (h : ∀ p ∈ parts, Sheltered p ∧ nesting p = 0 ∧ p.strip = p ∧ p ≠ []) :
    splitParameters (Text.join ", " parts) = parts := by
  cases parts with
  | nil => rfl
  | cons part parts =>
    have hstrip : ∀ p ∈ part :: parts, p.strip = p := fun p hp => (h p hp).2.2.1
    have hstripped : (part :: parts.map (' ' :: ·)).map Text.strip = part :: parts := by
      rw [List.map_cons, List.map_map, hstrip part List.mem_cons_self]
      congr 1
      refine (List.map_congr_left ?_).trans (List.map_id parts)
      intro p hp
      exact (Text.strip_cons_blank (by decide) p).trans (hstrip p (List.mem_cons_of_mem part hp))
    rw [splitParameters, commaParts_join fun p hp => ⟨(h p hp).1, (h p hp).2.1⟩, hstripped]
    apply List.filter_eq_self.mpr
    intro p hp
    simpa using (h p hp).2.2.2

/-! Cutting at the first equals sign. -/

namespace Text

theorem cut?_of_not_mem {separator : Char} {t : Text} (h : separator ∉ t) :
    cut? [separator] t = none := by
  induction t with
  | nil => rfl
  | cons c t ih =>
    rw [List.mem_cons, not_or] at h
    simp [cut?, h.1, ih h.2]

theorem cut?_first {separator : Char} {before : Text} (h : separator ∉ before) (after : Text) :
    cut? [separator] (before ++ separator :: after) = some (before, after) := by
  induction before with
  | nil => simp [cut?]
  | cons c before ih =>
    rw [List.mem_cons, not_or] at h
    simp [cut?, h.1, ih h.2]

end Text

/-! One parameter. -/

theorem isWord_of_endsType {c : Char} (h : Parameter.endsType c = true) : isWord c = false := by
  simp only [Parameter.endsType, Bool.or_eq_true, decide_eq_true_eq] at h
  rcases h with ((h | rfl) | rfl) | rfl
  · exact isWord_of_isBlank h
  · decide
  · decide
  · decide

namespace Parameter

/-- A value as it is written behind a name. -/
def writtenValue : Option Text → Text
  | none => []
  | some value => " = ".toList ++ value

def written (p : Parameter) : Text := p.type ++ ' ' :: p.name ++ writtenValue p.value

/-- What a parameter has to be like to be told from what is written of it. -/
structure IsPlain (p : Parameter) : Prop where
  stripped : p.type.strip = p.type
  typed : p.type ≠ []
  more : p.type ≠ "const".toList
  unassigned : '=' ∉ p.type
  unbroken : '\n' ∉ p.type
  named : isName p.name = true
  valued : ∀ value ∈ p.value, value.strip = value ∧ value ≠ []
  closed : nesting p.written = 0
  sheltered : Sheltered p.written

instance (p : Parameter) : Decidable p.IsPlain :=
  decidable_of_iff (p.type.strip = p.type ∧ p.type ≠ [] ∧ p.type ≠ "const".toList ∧
      '=' ∉ p.type ∧ '\n' ∉ p.type ∧ isName p.name = true ∧
      (∀ value ∈ p.value, value.strip = value ∧ value ≠ []) ∧
      nesting p.written = 0 ∧ Sheltered p.written)
    ⟨fun ⟨a, b, c, d, e, f, g, h, i⟩ => ⟨a, b, c, d, e, f, g, h, i⟩,
      fun ⟨a, b, c, d, e, f, g, h, i⟩ => ⟨a, b, c, d, e, f, g, h, i⟩⟩

variable {p : Parameter}

/-- The name is found behind the blank that was put there. -/
theorem IsPlain.nameSplit? (h : p.IsPlain) :
    nameSplit? (p.type ++ ' ' :: p.name) = some (p.type, p.name) := by
  have hword := isWord_of_isName h.named
  have hends : ∀ c ∈ p.name.reverse, (!endsType c) = true := by
    intro c hc
    rw [Bool.not_eq_true', ← Bool.not_eq_true]
    intro hend
    have hno := isWord_of_endsType hend
    rw [hword c (List.mem_reverse.mp hc)] at hno
    cases hno
  have hname : ((p.type ++ ' ' :: p.name).reverse.takeWhile (!endsType ·)).reverse = p.name := by
    rw [List.reverse_append, List.reverse_cons, List.append_assoc,
      List.takeWhile_append_of_pos hends]
    simp [endsType, isBlank]
  have htype : (p.type ++ ' ' :: p.name).take
      ((p.type ++ ' ' :: p.name).length - p.name.length) = p.type ++ [' '] := by
    rw [List.append_cons, List.length_append, Nat.add_sub_cancel_right]
    exact List.take_left
  have hlines : p.type.any isLineFeed = false := by
    rw [List.any_eq_false]
    intro c hc hline
    rw [isLineFeed, decide_eq_true_iff] at hline
    exact h.unbroken (hline ▸ hc)
  have hstrip : (p.type ++ [' ']).strip = p.type :=
    (Text.strip_concat_blank (by decide) p.type).trans h.stripped
  have hmore : (p.type.isEmpty || decide (p.type = "const".toList)) = false := by
    rw [Bool.or_eq_false_iff, List.isEmpty_eq_false_iff, decide_eq_false_iff_not]
    exact ⟨h.typed, h.more⟩
  simp only [Parameter.nameSplit?, hname, htype, hstrip, List.dropLast_concat, hlines, h.named,
    hmore]
  simp

/-- The declared part neither begins nor ends with a blank. -/
theorem IsPlain.strip_declared (h : p.IsPlain) :
    (p.type ++ ' ' :: p.name).strip = p.type ++ ' ' :: p.name := by
  rw [Text.strip_eq_self_iff]
  constructor
  · rw [List.head?_append_of_ne_nil p.type h.typed]
    exact (Text.strip_eq_self_iff.mp h.stripped).1
  · have hword := isWord_of_isName h.named
    have hne : p.name ≠ [] := by
      intro hnil
      have hnamed := h.named
      rw [hnil] at hnamed
      cases hnamed
    intro c hc
    rw [List.getLast?_append_of_ne_nil _ (List.cons_ne_nil ' ' p.name),
      List.getLast?_cons_of_ne_nil hne] at hc
    rw [← Bool.not_eq_true]
    intro hblank
    have hno := isWord_of_isBlank hblank
    rw [hword c (List.mem_of_mem_getLast? hc)] at hno
    cases hno

theorem IsPlain.strip_written (h : p.IsPlain) : p.written.strip = p.written := by
  cases hvalue : p.value with
  | none =>
    rw [written, hvalue, writtenValue, List.append_nil]
    exact h.strip_declared
  | some value =>
    obtain ⟨hstrip, hne⟩ := h.valued value hvalue
    have hdeclared := Text.strip_eq_self_iff.mp h.strip_declared
    rw [written, hvalue, writtenValue, Text.strip_eq_self_iff]
    constructor
    · rw [List.head?_append_of_ne_nil _ (by simp)]
      exact hdeclared.1
    · rw [List.getLast?_append_of_ne_nil _ (by simp), List.getLast?_append_of_ne_nil _ hne]
      exact (Text.strip_eq_self_iff.mp hstrip).2

/-- What is declared, and the value with the blanks around it, are told by the first equals sign. -/
theorem IsPlain.cut_written (h : p.IsPlain) : ∃ declared value : Text,
    (Text.cut? "=" p.written).getD (p.written, []) = (declared, value) ∧
      declared.strip = p.type ++ ' ' :: p.name ∧ someText value.strip = p.value := by
  have hdeclared : '=' ∉ p.type ++ ' ' :: p.name := by
    have hname : '=' ∉ p.name := fun hmem => absurd (isWord_of_isName h.named '=' hmem) (by decide)
    simp [h.unassigned, hname]
  cases hvalue : p.value with
  | none =>
    have hwritten : p.written = p.type ++ ' ' :: p.name := by
      rw [written, hvalue, writtenValue, List.append_nil]
    refine ⟨p.type ++ ' ' :: p.name, [], ?_, h.strip_declared, rfl⟩
    rw [hwritten]
    exact congrArg (Option.getD · _) (Text.cut?_of_not_mem hdeclared)
  | some value =>
    obtain ⟨hstrip, hne⟩ := h.valued value hvalue
    have hwritten : p.written = (p.type ++ ' ' :: p.name ++ [' ']) ++ '=' :: ' ' :: value := by
      rw [written, hvalue, writtenValue]
      simp
    have hspaced : '=' ∉ p.type ++ ' ' :: p.name ++ [' '] := by
      rw [List.mem_append, not_or]
      exact ⟨hdeclared, by decide⟩
    refine ⟨p.type ++ ' ' :: p.name ++ [' '], ' ' :: value, ?_, ?_, ?_⟩
    · rw [hwritten]
      exact congrArg (Option.getD · _) (Text.cut?_first hspaced (' ' :: value))
    · rw [Text.strip_concat_blank (by decide), h.strip_declared]
    · rw [Text.strip_cons_blank (by decide), hstrip, someText]
      simp [hne]

/-- A written parameter is read wherever it stands; only its description is not written. -/
theorem IsPlain.ofText?_written (h : p.IsPlain) (position : Int) :
    ofText? p.written position = some { p with description := none } := by
  obtain ⟨declared, value, hcut, hdeclared, hvalue⟩ := h.cut_written
  have hvoid : ((p.type ++ ' ' :: p.name).isEmpty ||
      decide (p.type ++ ' ' :: p.name = "void".toList)) = false := by
    rw [Bool.or_eq_false_iff, List.isEmpty_eq_false_iff, decide_eq_false_iff_not]
    refine ⟨by simp, ?_⟩
    intro hvoid
    have hspace : ' ' ∈ "void".toList := hvoid ▸ by simp
    exact absurd hspace (by decide)
  simp only [ofText?, hcut, hdeclared, hvalue, hvoid, h.nameSplit?]
  rfl

theorem map_ofText?_written {ps : List Parameter} (h : ∀ p ∈ ps, p.IsPlain) (start : Nat) :
    ((ps.map written).zipIdx start).map (fun (part, position) => ofText? part position) =
      ps.map fun p => some { p with description := none } := by
  induction ps generalizing start with
  | nil => rfl
  | cons p ps ih =>
    have hrest := ih (fun q hq => h q (List.mem_cons_of_mem p hq)) (start + 1)
    rw [List.map_cons, List.zipIdx_cons, List.map_cons, hrest]
    exact congrArg (· :: _) ((h p List.mem_cons_self).ofText?_written start)

end Parameter

open Parameter in
/-- Parameters that are written one after the other, with a comma and a space between them, are cut
apart again just there, and each part gives its type, its name and its value back. -/
theorem parameters_read_back (ps : List Parameter) (h : ∀ p ∈ ps, p.IsPlain) :
    splitParameters (Text.join ", " (ps.map written)) = ps.map written ∧
      ((splitParameters (Text.join ", " (ps.map written))).zipIdx 1).map
        (fun (part, position) => ofText? part position) =
          (ps.map fun p => some { p with description := none }) ∧
      Parameter.all (Text.join ", " (ps.map written)) =
        ps.map fun p => { p with description := none } := by
  have hparts : splitParameters (Text.join ", " (ps.map written)) = ps.map written := by
    apply splitParameters_join
    intro part hpart
    obtain ⟨p, hp, rfl⟩ := List.mem_map.mp hpart
    have hplain := h p hp
    exact ⟨hplain.sheltered, hplain.closed, hplain.strip_written, by simp [written]⟩
  have hread := map_ofText?_written h 1
  rw [hparts]
  refine ⟨rfl, hread, ?_⟩
  calc Parameter.all (Text.join ", " (ps.map written))
      = (((ps.map written).zipIdx 1).map fun (part, position) =>
          ofText? part position).filterMap id := by
        rw [Parameter.all, hparts, List.filterMap_map]
        rfl
    _ = ps.map fun p => { p with description := none } := by
        rw [hread, List.filterMap_map]
        exact congrFun List.filterMap_eq_map' ps

namespace Sample

/-- Commas inside brackets of every kind, further equals signs, and brackets that are no pair. -/
def parameters : List Parameter :=
  [⟨"table", "const QMap<int, QString> &", none, none⟩,
    ⟨"f", "int (*)(int, int[2])", some "pick(1, 2) == at[0, 1]", none⟩,
    ⟨"n_1", "T", some "a > b, c(d = 3", none⟩]

end Sample

open Parameter in
theorem parameters_read_back_sample :
    (∀ p ∈ Sample.parameters, p.IsPlain) ∧
    splitParameters (Text.join ", " (Sample.parameters.map written)) =
      Sample.parameters.map written ∧
    ((splitParameters (Text.join ", " (Sample.parameters.map written))).zipIdx 1).map
      (fun (part, position) => ofText? part position) = Sample.parameters.map some ∧
    Parameter.all (Text.join ", " (Sample.parameters.map written)) = Sample.parameters := by
  have hplain : ∀ p ∈ Sample.parameters, p.IsPlain := by decide
  obtain ⟨hparts, hread, hall⟩ := parameters_read_back Sample.parameters hplain
  exact ⟨hplain, hparts, hread, hall⟩

end TypeAtlas
