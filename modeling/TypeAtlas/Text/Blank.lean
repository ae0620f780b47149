import TypeAtlas.Text.Basic

/-!
White space. One class of characters serves stripping, splitting into words, and the blank of
patterns: the separators of Unicode together with the control characters that separate lines and
records.
-/

namespace TypeAtlas

def isBlank (c : Char) : Bool :=
  let n := c.toNat
  (9 ≤ n && n ≤ 13) || (28 ≤ n && n ≤ 32) || n == 0x85 || n == 0xa0 || n == 0x1680 ||
    (0x2000 ≤ n && n ≤ 0x200a) || n == 0x2028 || n == 0x2029 || n == 0x202f || n == 0x205f ||
    n == 0x3000

/-- A blank that separates no records. -/
def isWhite (c : Char) : Bool := isBlank c && !(28 ≤ c.toNat && c.toNat ≤ 31)

namespace Text

def strip (t : Text) : Text := trim isBlank t

theorem head_strip (t : Text) : ∀ c ∈ t.strip.head?, isBlank c = false := by
  intro c hc
  have hpart : t.strip <+: t.dropWhile isBlank := by
    have hsuffix := List.dropWhile_suffix isBlank (l := (t.dropWhile isBlank).reverse)
    rw [← List.reverse_prefix, List.reverse_reverse] at hsuffix
    exact hsuffix
  obtain ⟨rest, hrest⟩ := hpart
  have hhead := List.head?_dropWhile_not isBlank t
  rw [← hrest, List.head?_append, hc] at hhead
  simpa using hhead

theorem getLast_strip (t : Text) : ∀ c ∈ t.strip.getLast?, isBlank c = false := by
  intro c hc
  have hhead := List.head?_dropWhile_not isBlank (t.dropWhile isBlank).reverse
  rw [strip, trim, dropEndWhile, List.getLast?_reverse] at hc
  rw [hc] at hhead
  simpa using hhead

/-- Text is stripped when it neither begins nor ends with a blank. -/
theorem strip_eq_self_iff {t : Text} : t.strip = t ↔
    (∀ c ∈ t.head?, isBlank c = false) ∧ ∀ c ∈ t.getLast?, isBlank c = false := by
  have hkept {u : Text} (hu : ∀ c ∈ u.head?, isBlank c = false) : u.dropWhile isBlank = u := by
    cases u with
    | nil => rfl
    | cons c u => exact List.dropWhile_cons_of_neg (by simp [hu c rfl])
  constructor
  · intro h
    rw [← h]
    exact ⟨head_strip t, getLast_strip t⟩
  · rintro ⟨hfront, hback⟩
    have hback := hkept (u := t.reverse) (by rwa [List.head?_reverse])
    rw [strip, trim, hkept hfront, dropEndWhile, hback, List.reverse_reverse]

theorem strip_cons_blank {c : Char} (hc : isBlank c = true) (t : Text) :
    strip (c :: t) = strip t := by
  rw [strip, trim, List.dropWhile_cons_of_pos hc]
  rfl

theorem strip_concat_blank {c : Char} (hc : isBlank c = true) (t : Text) :
    strip (t ++ [c]) = strip t := by
  have hback (u : Text) : dropEndWhile isBlank (u ++ [c]) = dropEndWhile isBlank u := by
    rw [dropEndWhile, List.reverse_concat, List.dropWhile_cons_of_pos hc]
    rfl
  rw [strip, strip, trim, trim, List.dropWhile_append]
  split
  · rename_i hempty
    rw [List.isEmpty_iff.mp hempty, List.dropWhile_cons_of_pos hc]
    rfl
  · exact hback _

def words (t : Text) : List Text := runs (fun c => !isBlank c) t

/-- Words with a single space between them. -/
def collapse (t : Text) : Text := join " " (words t)

end Text

end TypeAtlas
