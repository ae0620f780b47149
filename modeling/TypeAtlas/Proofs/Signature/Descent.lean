import Mathlib.Data.List.Basic
import TypeAtlas.Proofs.Signature.Stretch

/-!
A tree is read off the tokens of a signature alone: where the reader goes back to the text of an
argument, it finds the tokens of the argument again. Places do not matter, and neither does which
separator joins two names.
-/

namespace TypeAtlas

/-- A token as far as a reader of trees looks at it. -/
def Token.essence (t : Token) : Token :=
  if t.isSeparator then ⟨.scope, "::", 0⟩ else ⟨t.kind, t.image, 0⟩

def Piece.essence : Piece → Piece
  | token t => .token t.essence
  | stray s => .stray ⟨0, s.char⟩

namespace Token

theorem essence_isSeparator (t : Token) : t.essence.isSeparator = t.isSeparator := by
  unfold essence
  split
  · rename_i h
    rw [h]
    rfl
  · rfl

theorem essence_kind {t : Token} {kind : TokenKind} (hs : kind ≠ .scope) (hd : kind ≠ .dot) :
    t.essence.kind = kind ↔ t.kind = kind := by
  unfold essence
  split
  · rename_i h
    simp only [isSeparator, Bool.or_eq_true, decide_eq_true_eq] at h
    constructor
    · intro he
      exact absurd he.symm hs
    · rintro rfl
      rcases h with h | h
      · exact absurd h hs
      · exact absurd h hd
  · exact Iff.rfl

theorem essence_image {t : Token} (h : t.kind = .identifier) : t.essence.image = t.image := by
  simp [essence, isSeparator, h]

end Token

/-! The steps of the reader, by what they do on a token of a kind. -/

section Runs

variable {depth : Nat} {run rest : List Token} {t : Token}

theorem argumentRuns_leftAngle (h : t.kind = .leftAngle) :
    argumentRuns depth run (t :: rest) = argumentRuns (depth + 1) (t :: run) rest := by
  cases t
  cases h
  rfl

theorem argumentRuns_rightAngle (h : t.kind = .rightAngle) :
    argumentRuns (depth + 1) run (t :: rest) = argumentRuns depth (t :: run) rest := by
  cases t
  cases h
  rfl

theorem argumentRuns_close (h : t.kind = .rightAngle) :
    argumentRuns 0 run (t :: rest) = ([run.reverse], rest) := by
  cases t
  cases h
  rfl

theorem argumentRuns_comma (h : t.kind = .comma) :
    argumentRuns 0 run (t :: rest) =
      (run.reverse :: (argumentRuns 0 [] rest).1, (argumentRuns 0 [] rest).2) := by
  cases t
  cases h
  rfl

theorem argumentRuns_innerComma (h : t.kind = .comma) :
    argumentRuns (depth + 1) run (t :: rest) = argumentRuns (depth + 1) (t :: run) rest := by
  cases t
  cases h
  rfl

theorem argumentRuns_other (hl : t.kind ≠ .leftAngle) (hr : t.kind ≠ .rightAngle)
    (hc : t.kind ≠ .comma) :
    argumentRuns depth run (t :: rest) = argumentRuns depth (t :: run) rest := by
  cases hk : t.kind <;> cases depth <;> simp_all [argumentRuns]

theorem closeBrackets_left (h : t.kind = .leftBracket) :
    closeBrackets depth (t :: rest) = closeBrackets (depth + 1) rest := by
  cases t
  cases h
  rfl

theorem closeBrackets_right (h : t.kind = .rightBracket) :
    closeBrackets (depth + 1) (t :: rest) = closeBrackets depth rest := by
  cases t
  cases h
  rfl

theorem closeBrackets_last (h : t.kind = .rightBracket) :
    closeBrackets 0 (t :: rest) = some rest := by
  cases t
  cases h
  rfl

theorem closeBrackets_other (hl : t.kind ≠ .leftBracket) (hr : t.kind ≠ .rightBracket) :
    closeBrackets depth (t :: rest) = closeBrackets depth rest := by
  cases hk : t.kind <;> cases depth <;> simp_all [closeBrackets]

end Runs

/-- A run is a stretch of the tokens, with what was open before. -/
theorem infix_of_argumentRuns {depth : Nat} {open_ ts run : List Token}
    (h : run ∈ (argumentRuns depth open_ ts).1) : run <:+: open_.reverse ++ ts := by
  have hpush : ∀ {t : Token} {open_ rest run : List Token},
      run <:+: (t :: open_).reverse ++ rest → run <:+: open_.reverse ++ t :: rest := by
    intro t open_ rest run h
    simpa using h
  fun_induction argumentRuns depth open_ ts with
  | case1 => simp at h
  | case2 depth open_ t rest _ ih => exact hpush (ih h)
  | case3 open_ t rest =>
    rw [List.mem_singleton.mp h]
    exact (List.prefix_append _ _).isInfix
  | case4 open_ t rest _ _ ih => exact hpush (ih h)
  | case5 open_ t rest _ runs rest' hruns ih =>
    rcases List.mem_cons.mp h with rfl | h
    · exact (List.prefix_append _ _).isInfix
    · have hi := ih (by rw [hruns]; exact h)
      exact (hi.trans (List.suffix_cons t rest).isInfix).trans (List.suffix_append _ _).isInfix
  | case6 depth open_ t rest _ _ _ _ ih => exact hpush (ih h)

theorem qualifiedRest_suffix (ts : List Token) : (qualifiedRest ts).2 <:+ ts := by
  fun_induction qualifiedRest ts with
  | case1 separator name rest _ names rest' h ih =>
    rw [h] at ih
    exact (ih.trans (List.suffix_cons _ _)).trans (List.suffix_cons _ _)
  | case2 => exact List.suffix_rfl
  | case3 => exact List.suffix_rfl

theorem takeConst_suffix (ts : List Token) : (takeConst ts).2 <:+ ts := by
  cases ts with
  | nil => exact List.suffix_rfl
  | cons t ts =>
    simp only [takeConst]
    split
    · exact List.suffix_cons t ts
    · exact List.suffix_rfl

/-- An argument is a stretch of the tokens, and not all of them. -/
theorem infix_of_parts {ts run : List Token} {p : SignatureParts} (h : parts? ts = some p)
    (hr : run ∈ p.runs) : run <:+: ts ∧ run.length < ts.length := by
  simp only [parts?, Option.map_eq_some_iff] at h
  obtain ⟨⟨name, names, rest⟩, hn, rfl⟩ := h
  have hconst := takeConst_suffix ts
  cases hts : (takeConst ts).2 with
  | nil => simp [hts, qualifiedName?] at hn
  | cons t tail =>
    rw [hts] at hn hconst
    simp only [qualifiedName?] at hn
    split at hn
    · simp only [Option.some.injEq, Prod.mk.injEq] at hn
      obtain ⟨-, -, rfl⟩ := hn
      have hrest := qualifiedRest_suffix tail
      have hrun := (List.mem_filter.mp hr).1
      cases hq : (qualifiedRest tail).2 with
      | nil => simp [hq, takeArguments] at hrun
      | cons angle inner =>
        simp only [hq, takeArguments] at hrun hrest
        split at hrun
        · have hi := infix_of_argumentRuns hrun
          have hin : run <:+: t :: tail :=
            ((hi.trans (List.suffix_cons angle inner).isInfix).trans hrest.isInfix).trans
              (List.suffix_cons t tail).isInfix
          refine ⟨hin.trans hconst.isInfix, ?_⟩
          have h1 := hi.length_le
          have h2 := hrest.length_le
          have h3 := hconst.length_le
          simp only [List.reverse_nil, List.nil_append, List.length_cons] at h1 h2 h3
          omega
        · simp at hrun
    · simp at hn

/-- Reads the tokens of a signature, its arguments from their tokens. -/
def readTokens (ts : List Token) : Option TypeTree :=
  match _h : parts? ts with
  | some p => some (p.tree (p.runs.attach.filterMap fun ⟨run, _hr⟩ => readTokens run))
  | none => none
  termination_by ts.length
  decreasing_by exact (infix_of_parts _h _hr).2

theorem readTokens_of_parts {ts : List Token} {p : SignatureParts} (h : parts? ts = some p) :
    readTokens ts = some (p.tree (p.runs.filterMap readTokens)) := by
  rw [readTokens]
  split
  · rename_i q hq
    obtain rfl : q = p := Option.some.inj (hq.symm.trans h)
    rw [List.filterMap_subtype (g := readTokens) (fun _ _ => rfl), List.unattach_attach]
  · rename_i hq
    rw [hq] at h
    cases h

theorem readTokens_of_none {ts : List Token} (h : parts? ts = none) : readTokens ts = none := by
  rw [readTokens]
  split
  · rename_i q hq
    rw [hq] at h
    cases h
  · rfl

/-- Empty arguments make no difference. -/
theorem filterMap_readTokens_filled (runs : List (List Token)) :
    (runs.filter (!·.isEmpty)).filterMap readTokens = runs.filterMap readTokens := by
  rw [List.filterMap_filter]
  apply List.filterMap_congr
  intro run _
  cases run with
  | nil => exact (readTokens_of_none rfl).symm
  | cons t run => rfl

/-! Reading sees nothing but the essence of a token. -/

theorem qualifiedRest_map (ts : List Token) :
    qualifiedRest (ts.map Token.essence) =
      ((qualifiedRest ts).1, (qualifiedRest ts).2.map Token.essence) := by
  fun_induction qualifiedRest ts with
  | case1 separator name rest h names rest' hrest ih =>
    simp only [Bool.and_eq_true, decide_eq_true_eq] at h
    rw [hrest] at ih
    have hname : name.essence.kind = .identifier :=
      (Token.essence_kind (by decide) (by decide)).mpr h.2
    simp [qualifiedRest, Token.essence_isSeparator, h.1, hname, ih, Token.essence_image h.2]
  | case2 separator name rest h =>
    have hname : name.essence.kind = .identifier ↔ name.kind = .identifier :=
      Token.essence_kind (by decide) (by decide)
    simp only [Bool.and_eq_true, decide_eq_true_eq] at h
    simp only [List.map_cons, qualifiedRest, Token.essence_isSeparator, Bool.and_eq_true,
      decide_eq_true_eq, hname, if_neg h]
  | case3 rest h =>
    match rest with
    | [] => rfl
    | [t] => rfl
    | a :: b :: rest => exact absurd rfl (h a b rest)

theorem argumentRuns_map (depth : Nat) (run ts : List Token) :
    argumentRuns depth (run.map Token.essence) (ts.map Token.essence) =
      ((argumentRuns depth run ts).1.map (List.map Token.essence),
        (argumentRuns depth run ts).2.map Token.essence) := by
  induction ts generalizing depth run with
  | nil => rfl
  | cons t ts ih =>
    have hkind {kind : TokenKind} (hs : kind ≠ .scope) (hd : kind ≠ .dot) :
        t.kind = kind → t.essence.kind = kind := (Token.essence_kind hs hd).mpr
    have hpush (depth : Nat) := ih depth (t :: run)
    simp only [List.map_cons] at hpush ⊢
    by_cases hl : t.kind = .leftAngle
    · rw [argumentRuns_leftAngle hl, argumentRuns_leftAngle (hkind (by decide) (by decide) hl),
        hpush]
    by_cases hr : t.kind = .rightAngle
    · have hr' := hkind (by decide) (by decide) hr
      cases depth with
      | zero => simp [argumentRuns_close hr, argumentRuns_close hr']
      | succ depth => rw [argumentRuns_rightAngle hr, argumentRuns_rightAngle hr', hpush]
    by_cases hc : t.kind = .comma
    · have hc' := hkind (by decide) (by decide) hc
      cases depth with
      | zero =>
        have hnew := ih 0 []
        simp only [List.map_nil] at hnew
        simp [argumentRuns_comma hc, argumentRuns_comma hc', hnew]
      | succ depth => rw [argumentRuns_innerComma hc, argumentRuns_innerComma hc', hpush]
    · rw [argumentRuns_other hl hr hc, argumentRuns_other, hpush]
      · rwa [ne_eq, Token.essence_kind (by decide) (by decide)]
      · rwa [ne_eq, Token.essence_kind (by decide) (by decide)]
      · rwa [ne_eq, Token.essence_kind (by decide) (by decide)]

theorem closeBrackets_map (depth : Nat) (ts : List Token) :
    closeBrackets depth (ts.map Token.essence) =
      (closeBrackets depth ts).map (List.map Token.essence) := by
  induction ts generalizing depth with
  | nil => rfl
  | cons t ts ih =>
    have hl : t.essence.kind = .leftBracket ↔ t.kind = .leftBracket :=
      Token.essence_kind (by decide) (by decide)
    have hr : t.essence.kind = .rightBracket ↔ t.kind = .rightBracket :=
      Token.essence_kind (by decide) (by decide)
    rw [List.map_cons]
    by_cases h : t.kind = .leftBracket
    · rw [closeBrackets_left h, closeBrackets_left (hl.mpr h), ih]
    by_cases h' : t.kind = .rightBracket
    · cases depth with
      | zero =>
        rw [closeBrackets_last h', closeBrackets_last (hr.mpr h')]
        rfl
      | succ depth => rw [closeBrackets_right h', closeBrackets_right (hr.mpr h'), ih]
    · rw [closeBrackets_other h h', closeBrackets_other (mt hl.mp h) (mt hr.mp h'), ih]

theorem any_kind_map {kind : TokenKind} (hs : kind ≠ .scope) (hd : kind ≠ .dot) (ts : List Token) :
    (ts.map Token.essence).any (·.kind = kind) = ts.any (·.kind = kind) := by
  rw [List.any_map]
  congr 1
  funext t
  exact decide_eq_decide.mpr (Token.essence_kind hs hd)

theorem trailingQualifiers_map (isConst : Bool) (ts : List Token) :
    trailingQualifiers isConst (ts.map Token.essence) = trailingQualifiers isConst ts := by
  unfold trailingQualifiers
  rw [any_kind_map (by decide) (by decide), any_kind_map (by decide) (by decide),
    any_kind_map (by decide) (by decide)]

theorem takeConst_map (ts : List Token) :
    takeConst (ts.map Token.essence) = ((takeConst ts).1, (takeConst ts).2.map Token.essence) := by
  cases ts with
  | nil => rfl
  | cons t ts =>
    have h : t.essence.kind = .const ↔ t.kind = .const :=
      Token.essence_kind (by decide) (by decide)
    simp only [List.map_cons, takeConst, h]
    split <;> rfl

theorem takeArguments_map (ts : List Token) :
    takeArguments (ts.map Token.essence) =
      ((takeArguments ts).1.map (List.map Token.essence),
        (takeArguments ts).2.map Token.essence) := by
  cases ts with
  | nil => rfl
  | cons t ts =>
    have h : t.essence.kind = .leftAngle ↔ t.kind = .leftAngle :=
      Token.essence_kind (by decide) (by decide)
    simp only [List.map_cons, takeArguments, h]
    split
    · exact argumentRuns_map 0 [] ts
    · rfl

theorem takeArray_map (ts : List Token) :
    takeArray (ts.map Token.essence) = ((takeArray ts).1, (takeArray ts).2.map Token.essence) := by
  have hsuffix : arraySuffix? (ts.map Token.essence) =
      (arraySuffix? ts).map (List.map Token.essence) := by
    cases ts with
    | nil => rfl
    | cons t ts =>
      have h : t.essence.kind = .leftBracket ↔ t.kind = .leftBracket :=
        Token.essence_kind (by decide) (by decide)
      simp only [List.map_cons, arraySuffix?, h]
      split
      · exact closeBrackets_map 0 ts
      · rfl
  unfold takeArray
  rw [hsuffix]
  cases arraySuffix? ts <;> rfl

theorem qualifiedName_map (ts : List Token) :
    qualifiedName? (ts.map Token.essence) =
      (qualifiedName? ts).map fun (name, names, rest) => (name, names, rest.map Token.essence) := by
  cases ts with
  | nil => rfl
  | cons t ts =>
    have h : t.essence.kind = .identifier ↔ t.kind = .identifier :=
      Token.essence_kind (by decide) (by decide)
    simp only [List.map_cons, qualifiedName?, h]
    split
    · rename_i hk
      rw [qualifiedRest_map, Token.essence_image hk]
      rfl
    · rfl

theorem parts_map (ts : List Token) :
    parts? (ts.map Token.essence) =
      (parts? ts).map fun p => { p with runs := p.runs.map (List.map Token.essence) } := by
  simp only [parts?, takeConst_map, qualifiedName_map, Option.map_map]
  cases qualifiedName? (takeConst ts).2 with
  | none => rfl
  | some found =>
    obtain ⟨name, names, rest⟩ := found
    have hfilter :
        (takeArguments rest).1.filter ((fun run => !run.isEmpty) ∘ List.map Token.essence) =
          (takeArguments rest).1.filter (!·.isEmpty) := by
      congr 1
      funext run
      simp
    simp only [Option.map_some, Function.comp_apply, takeArguments_map, takeArray_map,
      trailingQualifiers_map, List.filter_map, hfilter]

/-- Tokens of one essence make one tree. -/
theorem readTokens_map (ts : List Token) : readTokens (ts.map Token.essence) = readTokens ts := by
  induction hl : ts.length using Nat.strongRecOn generalizing ts with
  | ind n ih =>
    have hmap := parts_map ts
    cases hp : parts? ts with
    | none =>
      rw [hp] at hmap
      rw [readTokens_of_none hp, readTokens_of_none hmap]
    | some p =>
      rw [hp] at hmap
      rw [readTokens_of_parts hp, readTokens_of_parts hmap]
      have hruns : (p.runs.map (List.map Token.essence)).filterMap readTokens =
          p.runs.filterMap readTokens := by
        rw [List.filterMap_map]
        apply List.filterMap_congr
        intro run hr
        exact ih run.length (hl ▸ (infix_of_parts hp hr).2) run rfl
      exact congrArg some (congrArg p.tree hruns)

/-! A text and its tokens. -/

/-- The pieces of a text without their places. -/
def gist (t : Text) : List Piece := (pieces t).map Piece.essence

theorem gist_of_scan (offset : Nat) (t : Text) :
    (scan offset t).map Piece.essence = gist t := by
  unfold gist pieces
  generalize 0 = other
  fun_induction scan offset t generalizing other with
  | case1 => simp
  | case2 offset c r hb ih => rw [scan_blank hb, ih]
  | case3 offset c r hb hn word ih =>
    rw [scan_cons, if_neg hb, if_pos hn, List.map_cons, List.map_cons, ih]
    rfl
  | case4 offset c r hb hn hs ih =>
    rw [scan_cons, if_neg hb, if_neg hn, if_pos hs, List.map_cons, List.map_cons, ih]
    rfl
  | case5 offset c r hb hn hs kind hk ih =>
    rw [scan_cons, if_neg hb, if_neg hn, if_neg hs]
    simp only [hk, List.map_cons, ih (other + 1)]
    rfl
  | case6 offset c r hb hn hs hk ih =>
    rw [scan_cons, if_neg hb, if_neg hn, if_neg hs]
    simp only [hk, List.map_cons, ih (other + 1)]
    rfl

theorem filterMap_token_essence (ps : List Piece) :
    (ps.map Piece.essence).filterMap Piece.token? =
      (ps.filterMap Piece.token?).map Token.essence := by
  induction ps with
  | nil => rfl
  | cons p ps ih =>
    cases p with
    | token t => exact congrArg (t.essence :: ·) ih
    | stray s => exact ih

theorem filterMap_stray_essence (ps : List Piece) :
    (ps.map Piece.essence).filterMap Piece.stray? =
      (ps.filterMap Piece.stray?).map fun s => ⟨0, s.char⟩ := by
  induction ps with
  | nil => rfl
  | cons p ps ih =>
    cases p with
    | token t => exact ih
    | stray s => exact congrArg (⟨0, s.char⟩ :: ·) ih

/-- No character stands in the way of a tree. -/
def Harmless (ps : List Piece) : Prop := ∀ s ∈ ps.filterMap Piece.stray?, s.isBenign = true

instance (ps : List Piece) : Decidable (Harmless ps) := by
  unfold Harmless
  infer_instance

theorem harmless_map {ps : List Piece} : Harmless (ps.map Piece.essence) ↔ Harmless ps := by
  unfold Harmless
  rw [filterMap_stray_essence, List.forall_mem_map]
  exact Iff.rfl

theorem harmless_gist {t : Text} : Harmless (gist t) ↔ Harmless (pieces t) := harmless_map

theorem harmless_pieces {t : Text} : Harmless (pieces t) ↔ criticalStrays t = [] := by
  simp only [Harmless, criticalStrays, strays, List.filter_eq_nil_iff, Bool.not_eq_true',
    Bool.not_eq_false]

theorem readTokens_gist (t : Text) :
    readTokens ((gist t).filterMap Piece.token?) = readTokens (tokens t) := by
  unfold gist
  rw [filterMap_token_essence, readTokens_map]
  rfl

/-- What can be read of the pieces of a text. -/
def readPieces (ps : List Piece) : Option TypeTree :=
  if Harmless ps then readTokens (ps.filterMap Piece.token?) else none

theorem parse?_of_harmless {t : Text} (h : Harmless (pieces t)) :
    parse? t = readTokens (tokens t) := by
  induction hl : t.length using Nat.strongRecOn generalizing t with
  | ind n ih =>
    have hnone : (criticalStrays t).isEmpty = true := by
      rw [harmless_pieces.mp h]
      rfl
    rw [parse?, parse, if_pos hnone]
    split
    · rename_i p hp
      rw [readTokens_of_parts hp]
      refine congrArg (some ∘ p.tree) ?_
      rw [List.filterMap_subtype (g := fun run => parse? (spanOf t run)) (fun _ _ => rfl),
        List.unattach_attach]
      apply List.filterMap_congr
      intro run hr
      have hrun := (infix_of_parts hp hr).1
      obtain ⟨first, rest, rfl⟩ := List.exists_cons_of_ne_nil (nonempty_of_mem_parts hp hr)
      obtain ⟨before, seg, after, hseg, htokens, hscan⟩ := scan_spanOf hrun rfl
      have hgist : seg.map Piece.essence = gist (spanOf t (first :: rest)) := by
        rw [← hscan, gist_of_scan]
      have hspan : Harmless (pieces (spanOf t (first :: rest))) := by
        rw [← harmless_gist, ← hgist, harmless_map]
        intro s hs
        apply h
        rw [hseg, List.filterMap_append, List.filterMap_append]
        exact List.mem_append_left _ (List.mem_append_right _ hs)
      rw [ih _ (hl ▸ length_spanOf_lt hp hr) hspan rfl, ← readTokens_gist, ← hgist,
        filterMap_token_essence, htokens, readTokens_map]
    · rename_i hp
      rw [readTokens_of_none hp]
      rfl

/-- Only the pieces of a text decide what it is read as. -/
theorem parse?_eq_readPieces (t : Text) : parse? t = readPieces (gist t) := by
  unfold readPieces
  by_cases h : Harmless (pieces t)
  · rw [if_pos (harmless_gist.mpr h), parse?_of_harmless h, readTokens_gist]
  · rw [if_neg (mt harmless_gist.mp h), parse?, parse, if_neg]
    · rfl
    · rw [List.isEmpty_iff, ← harmless_pieces]
      exact h

end TypeAtlas
