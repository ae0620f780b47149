import TypeAtlas.Proofs.Signature.Spelling
import TypeAtlas.Signature.Canonical

/-!
Writing a tree and reading it again. The canonical name gives the tree without its qualifiers, and
the signature gives it with those of the root. So a canonical name stands for all trees that differ
in qualifiers only, and the canonical form of a text is a fixed point.
-/

namespace TypeAtlas

namespace TypeTree

/-- The tree without the qualifiers inside its arguments. -/
def bareInside : TypeTree → TypeTree
  | mk scope base arguments isArray qualifiers =>
    mk scope base (arguments.map bare) isArray qualifiers

mutual
theorem fullName_bare (t : TypeTree) : t.bare.fullName = t.fullName := by
  match t with
  | mk scope base arguments isArray qualifiers =>
    have hempty : (bareAll arguments).isEmpty = arguments.isEmpty := by
      cases arguments <;> rfl
    simp only [bare, fullName, hempty, fullNames_bareAll arguments]

theorem fullNames_bareAll (ts : List TypeTree) : fullNames (bareAll ts) = fullNames ts := by
  match ts with
  | [] => rfl
  | t :: ts => rw [bareAll, fullNames, fullNames, fullName_bare t, fullNames_bareAll ts]
end

theorem bare_bareInside (t : TypeTree) : t.bareInside.bare = t.bare := by
  have hbare (t : TypeTree) : t.bare.bare = t.bare := by
    induction t using byArguments with
    | h scope base arguments isArray qualifiers ih =>
      simp only [bare, bareAll_eq_map, List.map_map]
      congr 1
      exact List.map_congr_left ih
  obtain ⟨scope, base, arguments, isArray, qualifiers⟩ := t
  simp only [bareInside, bare, bareAll_eq_map, List.map_map]
  congr 1
  exact List.map_congr_left fun a _ => hbare a

theorem fullName_bareInside (t : TypeTree) : t.bareInside.fullName = t.fullName := by
  rw [← fullName_bare, bare_bareInside, fullName_bare]

theorem signature_bareInside (t : TypeTree) : t.bareInside.signature = t.signature := by
  have hqualifiers : t.bareInside.qualifiers = t.qualifiers := by
    obtain ⟨scope, base, arguments, isArray, qualifiers⟩ := t
    rfl
  rw [signature, signature, fullName_bareInside, hqualifiers]

end TypeTree

/-! The tokens of a signature. -/

namespace Token

def constMark : Token := ⟨.const, "const", 0⟩
def pointerMark : Token := ⟨.asterisk, "*", 0⟩
def referenceMark : Token := ⟨.ampersand, "&", 0⟩

end Token

def markIf (condition : Bool) (t : Token) : List Token := if condition then [t] else []

theorem takeConst_joinNames (isConst : Bool) (n : Text) (names : List Text) (rest : List Token) :
    takeConst (markIf isConst .constMark ++ (Token.joinNames (n :: names) ++ rest)) =
      (isConst, Token.joinNames (n :: names) ++ rest) := by
  rw [joinNames_cons]
  cases isConst <;> rfl

section Written

variable {runs : List (List Token)} {tail : List Token} (hruns : ∀ run ∈ runs, Passes run)
  (isConst : Bool) (htail : ∀ x ∈ tail.head?, x.isSeparator = false ∧ x.kind ≠ .leftAngle)
include hruns htail

/-- The parts of a signature are those that were written, less empty arguments. -/
theorem parts_written {names : List Text} (hnames : names ≠ []) :
    ∃ p, parts? (markIf isConst .constMark ++ (Token.joinNames names ++ Token.inAngles runs ++
        tail)) = some p ∧
      p.name :: p.names = names ∧ p.runs = runs.filter (!·.isEmpty) ∧
      p.isArray = (takeArray tail).1 ∧
      p.qualifiers = trailingQualifiers isConst (takeArray tail).2 := by
  obtain ⟨n, names, rfl⟩ := List.exists_cons_of_ne_nil hnames
  have hbehind : ∀ x ∈ (Token.inAngles runs ++ tail).head?, x.isSeparator = false := by
    intro x hx
    cases runs with
    | nil => exact (htail x hx).1
    | cons run runs =>
      cases hx
      rfl
  have harguments := takeArguments_inAngles hruns fun x hx => (htail x hx).2
  refine ⟨⟨n, names, runs.filter (!·.isEmpty), (takeArray tail).1,
    trailingQualifiers isConst (takeArray tail).2⟩, ?_, rfl, rfl, rfl, rfl⟩
  rw [List.append_assoc, parts?, takeConst_joinNames]
  simp only [qualifiedName_joinNames hbehind, Option.map_some, harguments]

theorem readTokens_written (scope : List Text) (base : Text) :
    readTokens (markIf isConst .constMark ++ (Token.joinNames (scope ++ [base]) ++
      Token.inAngles runs ++ tail)) =
        some (.mk scope base (runs.filterMap readTokens) (takeArray tail).1
          (trailingQualifiers isConst (takeArray tail).2)) := by
  have hnames : scope ++ [base] ≠ [] := by simp
  obtain ⟨p, hp, hnames, hfilled, harray, hqualifiers⟩ :=
    parts_written hruns isConst htail hnames
  rw [readTokens_of_parts hp, p.tree_of_names hnames, hfilled, filterMap_readTokens_filled, harray,
    hqualifiers]

end Written

theorem readTokens_marked (t : TypeTree) (isConst : Bool) {marks : List Token} (h : AreMarks marks)
    (harguments : ∀ a ∈ t.arguments, readTokens a.spelling = some a.bare) :
    readTokens (markIf isConst .constMark ++ (t.spelling ++ marks)) =
      some (.mk t.scope t.base (t.arguments.map TypeTree.bare) t.isArray
        (trailingQualifiers isConst marks)) := by
  obtain ⟨scope, base, arguments, isArray, qualifiers⟩ := t
  have hruns : ∀ run ∈ arguments.map TypeTree.spelling, Passes run := by
    intro run hr
    obtain ⟨a, -, rfl⟩ := List.mem_map.mp hr
    exact passes_spelling a
  have htail : ∀ x ∈ (Token.arraySuffix isArray ++ marks).head?,
      x.isSeparator = false ∧ x.kind ≠ .leftAngle := by
    intro x hx
    cases isArray with
    | true =>
      cases hx
      decide
    | false => rcases h x (List.mem_of_mem_head? hx) with hk | hk <;> simp [Token.isSeparator, hk]
  have hread : (arguments.map TypeTree.spelling).filterMap readTokens =
      arguments.map TypeTree.bare := by
    rw [List.filterMap_map]
    exact (List.filterMap_congr harguments).trans (congrFun List.filterMap_eq_map' _)
  rw [TypeTree.spelling, TypeTree.spellings_eq_map, List.append_assoc (_ ++ _),
    readTokens_written hruns isConst htail, hread, takeArray_arraySuffix isArray h]
  rfl

theorem readTokens_spelling (t : TypeTree) : readTokens t.spelling = some t.bare := by
  induction t using TypeTree.byArguments with
  | h scope base arguments isArray qualifiers ih =>
    have h := readTokens_marked (.mk scope base arguments isArray qualifiers) false areMarks_nil ih
    rw [List.append_nil] at h
    rw [TypeTree.bare, TypeTree.bareAll_eq_map]
    exact h

/-! The signature of a tree. -/

theorem parse?_of_gist {t : Text} {ts : List Token} (h : gist t = ts.map Piece.token) :
    parse? t = readTokens ts := by
  have htokens : (ts.map Piece.token).filterMap Piece.token? = ts := by
    rw [List.filterMap_map]
    exact List.filterMap_some
  have hstrays : Harmless (ts.map Piece.token) := by
    intro s hs
    obtain ⟨p, hp, he⟩ := List.mem_filterMap.mp hs
    obtain ⟨x, -, rfl⟩ := List.mem_map.mp hp
    cases he
  rw [parse?_eq_readPieces, h, readPieces, if_pos hstrays, htokens]

theorem parse?_fullName {t : TypeTree} (h : t.Named) : parse? t.fullName = some t.bare := by
  have hgist := spells_fullName h [] parted_nil
  rw [List.append_nil, gist_nil, List.append_nil] at hgist
  rw [parse?_of_gist hgist, readTokens_spelling]

theorem gist_const (rest : Text) :
    gist ("const ".toList ++ rest) = .token .constMark :: gist rest := by
  have hparted : Parted (' ' :: rest) := parted_cons (by decide)
  have hword := gist_word (w := "const".toList) (by decide) hparted
  rw [gist_blank (by decide)] at hword
  exact hword

theorem spells_marks (isPointer isReference : Bool) :
    Spells (Text.onlyIf isPointer "*" ++ Text.onlyIf isReference "&")
      (markIf isPointer .pointerMark ++ markIf isReference .referenceMark) := by
  have hpointer : Spells "*" [.pointerMark] := spells_sign (c := '*') rfl
  have hreference : Spells "&" [.referenceMark] := spells_sign (c := '&') rfl
  cases isPointer <;> cases isReference
  · exact spells_nil
  · exact hreference
  · exact hpointer
  · exact hpointer.append hreference fun rest _ => parted_cons (by decide)

theorem parted_marks (isPointer isReference : Bool) {rest : Text} (h : Parted rest) :
    Parted (Text.onlyIf isPointer "*" ++ Text.onlyIf isReference "&" ++ rest) := by
  cases isPointer <;> cases isReference
  · exact h
  · exact parted_cons (by decide)
  · exact parted_cons (by decide)
  · exact parted_cons (by decide)

theorem gist_signature {t : TypeTree} (h : t.Named) :
    gist t.signature = (markIf t.qualifiers.isConst .constMark ++ (t.spelling ++
      (markIf t.qualifiers.isPointer .pointerMark ++
        markIf t.qualifiers.isReference .referenceMark))).map Piece.token := by
  have hmarked := (spells_fullName h).append
    (spells_marks t.qualifiers.isPointer t.qualifiers.isReference)
    (fun rest => parted_marks _ _) [] parted_nil
  rw [List.append_nil, gist_nil, List.append_nil] at hmarked
  rw [TypeTree.signature, List.append_assoc, List.append_assoc]
  cases t.qualifiers.isConst with
  | true => exact (gist_const _).trans (congrArg (Piece.token .constMark :: ·) hmarked)
  | false => exact hmarked

theorem trailingQualifiers_marks (isConst isPointer isReference : Bool) :
    trailingQualifiers isConst (markIf isPointer .pointerMark ++
      markIf isReference .referenceMark) = ⟨isConst, isPointer, isReference⟩ := by
  cases isConst <;> cases isPointer <;> cases isReference <;> rfl

theorem parse?_signature {t : TypeTree} (h : t.Named) : parse? t.signature = some t.bareInside := by
  have hmarks : AreMarks (markIf t.qualifiers.isPointer .pointerMark ++
      markIf t.qualifiers.isReference .referenceMark) := by
    intro x hx
    rcases List.mem_append.mp hx with hx | hx
    · left
      unfold markIf at hx
      split at hx <;> simp_all [Token.pointerMark]
    · right
      unfold markIf at hx
      split at hx <;> simp_all [Token.referenceMark]
  rw [parse?_of_gist (gist_signature h), readTokens_marked t _ hmarks
    fun a _ => readTokens_spelling a, trailingQualifiers_marks]
  obtain ⟨scope, base, arguments, isArray, qualifiers⟩ := t
  rfl

/-! Stripped text. -/

theorem exists_strip (t : Text) : ∃ before after : Text, t = before ++ (t.strip ++ after) ∧
    (∀ c ∈ before, isBlank c = true) ∧ ∀ c ∈ after, isBlank c = true := by
  refine ⟨t.takeWhile isBlank, ((t.dropWhile isBlank).reverse.takeWhile isBlank).reverse, ?_,
    List.all_eq_true.mp List.all_takeWhile, ?_⟩
  · rw [Text.strip, Text.trim, Text.dropEndWhile, ← List.reverse_append,
      List.takeWhile_append_dropWhile, List.reverse_reverse, List.takeWhile_append_dropWhile]
  · intro c hc
    exact List.all_eq_true.mp List.all_takeWhile c (List.mem_reverse.mp hc)

theorem gist_blanks {blanks : Text} (h : ∀ c ∈ blanks, isBlank c = true) (rest : Text) :
    gist (blanks ++ rest) = gist rest := by
  induction blanks with
  | nil => rfl
  | cons c blanks ih =>
    rw [List.cons_append, gist_blank (h c List.mem_cons_self),
      ih fun d hd => h d (List.mem_cons_of_mem c hd)]

theorem gist_strip (t : Text) : gist t.strip = gist t := by
  obtain ⟨before, after, ht, hbefore, hafter⟩ := exists_strip t
  conv_rhs => rw [ht, gist_blanks hbefore]
  unfold gist pieces
  rw [scan_append_blanks _ hafter]

theorem parse?_strip (t : Text) : parse? t.strip = parse? t := by
  rw [parse?_eq_readPieces, gist_strip, ← parse?_eq_readPieces]

theorem strip_strip (t : Text) : t.strip.strip = t.strip :=
  Text.strip_eq_self_iff.mpr ⟨Text.head_strip t, Text.getLast_strip t⟩

theorem canonicalSignature_canonicalSignature (t : Text) :
    canonicalSignature (canonicalSignature t) = canonicalSignature t := by
  cases h : parse? t with
  | none =>
    have hstrip : parse? t.strip = none := (parse?_strip t).trans h
    simp only [canonicalSignature, h, hstrip, strip_strip]
  | some tree =>
    simp only [canonicalSignature, h, parse?_signature (named_of_parse? h),
      TypeTree.signature_bareInside]

/-- A tree that was read is read again, without its qualifiers from its canonical name and with
those of the root from its signature; trees that were read share a canonical name exactly when they
agree up to qualifiers; and the canonical form of any text is its own canonical form. -/
theorem parse?_written (t : Text) :
    (∀ tree, parse? t = some tree →
      parse? tree.fullName = some tree.bare ∧ parse? tree.signature = some tree.bareInside ∧
        ∀ u other, parse? u = some other →
          (tree.fullName = other.fullName ↔ tree.bare = other.bare)) ∧
      canonicalSignature (canonicalSignature t) = canonicalSignature t := by
  refine ⟨?_, canonicalSignature_canonicalSignature t⟩
  intro tree h
  have hname := parse?_fullName (named_of_parse? h)
  refine ⟨hname, parse?_signature (named_of_parse? h), ?_⟩
  intro u other hu
  constructor
  · intro heq
    rw [heq, parse?_fullName (named_of_parse? hu)] at hname
    exact (Option.some.inj hname).symm
  · intro heq
    rw [← TypeTree.fullName_bare, heq, TypeTree.fullName_bare]

/-- Qualifiers inside the arguments, a dropped array suffix and a stray digit. -/
theorem parse?_written_array :
    ∃ tree other,
      parse? "const std.map<Key*, const list<int[2]>, 7, B<int &>>[3] const *" = some tree ∧
      parse? "std.map<Key,list<int[]>,B<int>>[]" = some other ∧
      parse? tree.fullName = some tree.bare ∧ parse? tree.signature = some tree.bareInside ∧
      (tree.fullName = other.fullName ↔ tree.bare = other.bare) := by
  obtain ⟨tree, h⟩ := Option.isSome_iff_exists.mp (show (parse?
    "const std.map<Key*, const list<int[2]>, 7, B<int &>>[3] const *").isSome by decide +kernel)
  obtain ⟨other, hother⟩ := Option.isSome_iff_exists.mp (show (parse?
    "std.map<Key,list<int[]>,B<int>>[]").isSome by decide +kernel)
  obtain ⟨hname, hsignature, hshared⟩ := (parse?_written _).1 tree h
  exact ⟨tree, other, h, hother, hname, hsignature, hshared _ other hother⟩

end TypeAtlas
