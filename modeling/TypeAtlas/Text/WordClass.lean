import TypeAtlas.Text.Blank
import TypeAtlas.Text.LetterTable

/-!
Word characters: letters, numerals and the underscore. A word is a maximal run of them.
-/

namespace TypeAtlas

def inRanges (ranges : List (Nat × Nat)) (c : Char) : Bool :=
  ranges.any fun (first, last) => first ≤ c.toNat && c.toNat ≤ last

def isWord (c : Char) : Bool :=
  if c.toNat < 128 then c.isAlphanum || c == '_' else inRanges letterRanges c

def isDecimal (c : Char) : Bool :=
  if c.toNat < 128 then c.isDigit else inRanges digitRanges c

def isLetter (c : Char) : Bool :=
  if c.toNat < 128 then c.isAlpha
  else inRanges letterRanges c && !inRanges digitRanges c && !inRanges numeralRanges c

/-- An ASCII letter or the underscore. -/
def isNameStart (c : Char) : Bool := c.isAlpha || c == '_'

/-- A name starts with an ASCII letter or an underscore and goes on with word characters. -/
def isName : Text → Bool
  | [] => false
  | c :: r => isNameStart c && r.all isWord

def blankRanges : List (Nat × Nat) :=
  [(9, 13), (28, 32), (0x85, 0x85), (0xa0, 0xa0), (0x1680, 0x1680), (0x2000, 0x200a),
    (0x2028, 0x2029), (0x202f, 0x202f), (0x205f, 0x205f), (0x3000, 0x3000)]

theorem mem_blankRanges {c : Char} (h : isBlank c = true) :
    ∃ r ∈ blankRanges, r.1 ≤ c.toNat ∧ c.toNat ≤ r.2 := by
  have hone {n : Nat} (hn : (n, n) ∈ blankRanges) (h : c.toNat = n) :
      ∃ r ∈ blankRanges, r.1 ≤ c.toNat ∧ c.toNat ≤ r.2 :=
    ⟨(n, n), hn, Nat.le_of_eq h.symm, Nat.le_of_eq h⟩
  simp only [isBlank, Bool.or_eq_true, Bool.and_eq_true, decide_eq_true_eq, beq_iff_eq] at h
  rcases h with (((((((((h | h) | h) | h) | h) | h) | h) | h) | h) | h) | h
  · exact ⟨(9, 13), by decide, h⟩
  · exact ⟨(28, 32), by decide, h⟩
  · exact hone (by decide) h
  · exact hone (by decide) h
  · exact hone (by decide) h
  · exact ⟨(0x2000, 0x200a), by decide, h⟩
  · exact ⟨(0x2028, 0x2029), by decide, by omega⟩
  · exact ⟨(0x2028, 0x2029), by decide, by omega⟩
  · exact hone (by decide) h
  · exact hone (by decide) h
  · exact hone (by decide) h

theorem blankRanges_apart :
    (letterRanges.all fun l => blankRanges.all fun b => l.2 < b.1 || b.2 < l.1) = true := by
  decide +kernel

theorem toNat_of_isAlphanum {c : Char} (h : c.isAlphanum = true) :
    48 ≤ c.toNat ∧ c.toNat < 128 := by
  delta Char.isAlphanum Char.isAlpha Char.isUpper Char.isLower Char.isDigit at h
  simp only [Bool.or_eq_true, Bool.and_eq_true, decide_eq_true_eq, UInt32.le_iff_toNat_le,
    ge_iff_le] at h
  have hc : c.toNat = c.val.toNat := rfl
  have hz : 'z'.val.toNat = 122 := rfl
  have hZ : 'Z'.val.toNat = 90 := rfl
  have hA : 'A'.val.toNat = 65 := rfl
  have ha : 'a'.val.toNat = 97 := rfl
  have h0 : '0'.val.toNat = 48 := rfl
  have h9 : '9'.val.toNat = 57 := rfl
  omega

/-- A blank ends a word. -/
theorem isWord_of_isBlank {c : Char} (h : isBlank c = true) : isWord c = false := by
  obtain ⟨b, hb, hfirst, hlast⟩ := mem_blankRanges h
  unfold isWord
  split
  · rename_i hlt
    have hsmall : c.toNat ≤ 32 := by
      simp only [isBlank, Bool.or_eq_true, Bool.and_eq_true, decide_eq_true_eq, beq_iff_eq] at h
      omega
    rw [Bool.or_eq_false_iff, beq_eq_false_iff_ne]
    constructor
    · cases ha : c.isAlphanum with
      | false => rfl
      | true =>
        have := toNat_of_isAlphanum ha
        omega
    · rintro rfl
      exact absurd hsmall (by decide)
  · rw [inRanges, List.any_eq_false]
    intro l hl hin
    have hapart := List.all_eq_true.mp (List.all_eq_true.mp blankRanges_apart l hl) b hb
    simp only [Bool.and_eq_true, Bool.or_eq_true, decide_eq_true_eq] at hin hapart
    omega

theorem isWord_of_isNameStart {c : Char} (h : isNameStart c = true) : isWord c = true := by
  simp only [isNameStart, Bool.or_eq_true, beq_iff_eq] at h
  rcases h with h | rfl
  · have ha : c.isAlphanum = true := by simp [Char.isAlphanum, h]
    rw [isWord, if_pos (toNat_of_isAlphanum ha).2, ha, Bool.true_or]
  · decide

theorem isWord_of_isName {n : Text} (h : isName n = true) : ∀ c ∈ n, isWord c = true := by
  cases n with
  | nil => exact nofun
  | cons c n =>
    rw [isName, Bool.and_eq_true, List.all_eq_true] at h
    exact List.forall_mem_cons.mpr ⟨isWord_of_isNameStart h.1, h.2⟩

namespace Text

def wordRuns (t : Text) : List Text := runs isWord t

/-- The text without the words listed; `run` is the word being read, reversed. -/
def eraseWordsFrom (erased : List Text) (run : Text) : Text → Text
  | [] => if run.reverse ∈ erased then [] else run.reverse
  | c :: r =>
    if isWord c then eraseWordsFrom erased (c :: run) r
    else (if run.reverse ∈ erased then [] else run.reverse) ++ c :: eraseWordsFrom erased [] r

def eraseWords (erased : List Text) (t : Text) : Text := eraseWordsFrom erased [] t

end Text

end TypeAtlas
