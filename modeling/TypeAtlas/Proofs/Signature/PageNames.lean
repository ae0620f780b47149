import TypeAtlas.Signature.Canonical
import TypeAtlas.Text.Ascii

/-!
Page names of classes. In an escaped name an underscore always goes with the character behind it, and
no capital is left; so the name can be read off its page name, also where case is ignored.
-/

namespace TypeAtlas

/-- What a character stands for behind an underscore. -/
def unescapeChar (c : Char) : Char := if c = '1' then ':' else c.toUpper

/-- The name that was escaped. -/
def unescapeName : Text → Text
  | [] => []
  | '_' :: c :: r => unescapeChar c :: unescapeName r
  | c :: r => c :: unescapeName r

theorem unescapeName_cons {c : Char} (h : c ≠ '_') (r : Text) :
    unescapeName (c :: r) = c :: unescapeName r := by
  rw [unescapeName]
  rintro d r' rfl
  exact absurd rfl h

/-! ASCII characters. -/

theorem forall_ascii {P : Char → Prop} (h : ∀ n < 128, P (Char.ofNat n)) {c : Char}
    (hc : isAscii c = true) : P c := by
  have hlt : c.toNat < 128 := by simpa [isAscii] using hc
  have hc := h c.toNat hlt
  rwa [Char.ofNat_toNat] at hc

/-- An ASCII character that is no capital letter. -/
def isSmall (c : Char) : Bool := isAscii c && c.toLower == c

theorem isSmall_iff {c : Char} : isSmall c = true ↔ isAscii c = true ∧ c.toLower = c := by
  simp [isSmall]

theorem lowered_ascii {c : Char} (hc : isAscii c = true) : lowered c = [c.toLower] :=
  forall_ascii (P := fun c => lowered c = [c.toLower]) (by decide) hc

/-- The small form of a capital tells the capital. -/
theorem unescapeChar_toLower {c : Char} (hc : isAscii c = true) :
    isCapital c = true → unescapeChar c.toLower = c :=
  forall_ascii (P := fun c => isCapital c = true → unescapeChar c.toLower = c) (by decide) hc

theorem small_escapeChar {c : Char} (hc : isAscii c = true) : (escapeChar c).all isSmall = true :=
  forall_ascii (P := fun c => (escapeChar c).all isSmall = true) (by decide) hc

/-- An escaped character is read back, whatever follows. -/
theorem unescapeName_escapeChar {c : Char} (hc : isAscii c = true) (r : Text) :
    unescapeName (escapeChar c ++ r) = c :: unescapeName r := by
  unfold escapeChar
  split
  · rename_i hcolon
    subst hcolon
    rfl
  · split
    · rename_i hunderscore
      subst hunderscore
      rfl
    · rename_i hunderscore
      split
      · rename_i hcapital
        rw [lowered_ascii hc]
        exact congrArg (· :: unescapeName r) (unescapeChar_toLower hc hcapital)
      · exact unescapeName_cons hunderscore r

/-! Whole names. -/

namespace Text

/-- Among ASCII characters the place in a word has no say in the small form. -/
theorem lowerFrom_ascii {t : Text} (h : ∀ c ∈ t, isAscii c = true) (inWord : Bool) :
    lowerFrom inWord t = t.map Char.toLower := by
  induction t generalizing inWord with
  | nil => rfl
  | cons c t ih =>
    have hc := h c List.mem_cons_self
    have hsigma : c ≠ capitalSigma := by
      rintro rfl
      exact absurd hc (by decide)
    rw [lowerFrom, ih fun d hd => h d (List.mem_cons_of_mem c hd), lowered_ascii hc]
    simp [hsigma]

theorem lower_of_small {t : Text} (h : t.all isSmall = true) : lower t = t := by
  have hsmall : ∀ c ∈ t, isAscii c = true ∧ c.toLower = c :=
    fun c hc => isSmall_iff.mp (List.all_eq_true.mp h c hc)
  rw [lower, lowerFrom_ascii fun c hc => (hsmall c hc).1]
  exact (List.map_congr_left fun c hc => (hsmall c hc).2).trans (List.map_id' t)

end Text

section Names

variable {name : Text} (h : ∀ c ∈ name, isAscii c = true)
include h

theorem small_escapeName : (escapeName name).all isSmall = true := by
  rw [escapeName, List.all_flatMap]
  exact List.all_eq_true.mpr fun c hc => small_escapeChar (h c hc)

theorem lower_escapeName : Text.lower (escapeName name) = escapeName name :=
  Text.lower_of_small (small_escapeName h)

theorem lower_pageName : Text.lower (pageName name) = pageName name := by
  apply Text.lower_of_small
  have hclass : "class".toList.all isSmall = true := by decide
  have hhtml : ".html".toList.all isSmall = true := by decide
  unfold pageName
  rw [List.all_append, List.all_append, hclass, small_escapeName h, hhtml]
  rfl

theorem unescapeName_escapeName : unescapeName (escapeName name) = name := by
  induction name with
  | nil => rfl
  | cons c name ih =>
    have hrest := ih fun d hd => h d (List.mem_cons_of_mem c hd)
    rw [escapeName] at hrest ⊢
    rw [List.flatMap_cons, unescapeName_escapeChar (h c List.mem_cons_self), hrest]

end Names

/-- The small letters of an escaped ASCII name give the name back. So different names have different
pages, also where file names ignore case. -/
theorem pageNames_apart (name : Text) (h : ∀ c ∈ name, isAscii c = true) :
    unescapeName (Text.lower (escapeName name)) = name ∧
      ∀ other : Text, (∀ c ∈ other, isAscii c = true) → other ≠ name →
        pageName other ≠ pageName name ∧
          Text.lower (pageName other) ≠ Text.lower (pageName name) := by
  have hname := unescapeName_escapeName h
  refine ⟨(congrArg unescapeName (lower_escapeName h)).trans hname, ?_⟩
  intro other hother hne
  have hpages : pageName other ≠ pageName name := by
    intro heq
    have hescaped : escapeName other = escapeName name :=
      List.append_cancel_left (List.append_cancel_right heq)
    apply hne
    rw [← unescapeName_escapeName hother, hescaped, hname]
  rw [lower_pageName hother, lower_pageName h]
  exact ⟨hpages, hpages⟩

/-- A name that imitates the escaped form of another one. -/
theorem pageNames_apart_imitated :
    (∀ c ∈ "N::A_1".toList, isAscii c = true) ∧
    unescapeName (Text.lower (escapeName "N::A_1")) = "N::A_1".toList ∧
    Text.lower (pageName "_n_1_1_a__1") ≠ Text.lower (pageName "N::A_1") := by
  have hname : ∀ c ∈ "N::A_1".toList, isAscii c = true := List.all_eq_true.mp (by decide)
  have himitated : ∀ c ∈ "_n_1_1_a__1".toList, isAscii c = true := List.all_eq_true.mp (by decide)
  obtain ⟨hback, hapart⟩ := pageNames_apart "N::A_1" hname
  exact ⟨hname, hback, (hapart "_n_1_1_a__1" himitated (by decide)).2⟩

end TypeAtlas
