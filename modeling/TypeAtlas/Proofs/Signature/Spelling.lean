import TypeAtlas.Proofs.Signature.Descent

/-!
The canonical name of a tree, as tokens. Written out it is read as just these tokens, and these
tokens are read as the tree, less its qualifiers.
-/

namespace TypeAtlas

/-- A word that names something: no keyword. -/
def IsIdentifier (n : Text) : Prop := isName n = true ∧ n ≠ "const".toList

theorem kind_ofChar {c : Char} {kind : TokenKind} (h : TokenKind.ofChar? c = some kind) :
    kind ≠ .identifier ∧ isBlank c = false ∧ isNameStart c = false ∧ isWord c = false ∧
      c ≠ ':' := by
  unfold TokenKind.ofChar? at h
  split at h
  all_goals cases h
  all_goals decide

theorem identifier_of_mem_scan {t : Text} {offset : Nat} {x : Token}
    (h : x ∈ (scan offset t).filterMap Piece.token?) (hk : x.kind = .identifier) :
    IsIdentifier x.image := by
  fun_induction scan offset t with
  | case1 => simp at h
  | case2 offset c r _ ih => exact ih h
  | case3 offset c r _ hc word ih =>
    rw [filterMap_token_cons] at h
    rcases List.mem_cons.mp h with rfl | h
    · have hword : word ≠ "const".toList := by
        intro he
        simp [TokenKind.ofWord, he] at hk
      refine ⟨?_, hword⟩
      simp only [word, isName, hc, Bool.true_and]
      exact List.all_takeWhile
    · exact ih h
  | case4 offset c r _ _ _ ih =>
    rw [filterMap_token_cons] at h
    rcases List.mem_cons.mp h with rfl | h
    · cases hk
    · exact ih h
  | case5 offset c r _ _ _ kind hkind ih =>
    rw [filterMap_token_cons] at h
    rcases List.mem_cons.mp h with rfl | h
    · exact absurd hk (kind_ofChar hkind).1
    · exact ih h
  | case6 offset c r _ _ _ _ ih => exact ih h

/-! The names of a tree. -/

namespace TypeTree

/-- Induction over a tree, the arguments first. -/
theorem byArguments {P : TypeTree → Prop}
    (h : ∀ scope base arguments isArray qualifiers, (∀ a ∈ arguments, P a) →
      P (mk scope base arguments isArray qualifiers)) (t : TypeTree) : P t := by
  match t with
  | mk scope base arguments isArray qualifiers =>
    exact h scope base arguments isArray qualifiers fun a _ => byArguments h a
  termination_by sizeOf t
  decreasing_by
    simp_wf
    have := List.sizeOf_lt_of_mem ‹a ∈ arguments›
    omega

def names (t : TypeTree) : List Text := t.scope ++ [t.base]

/-- All names in the tree are identifiers. -/
def Named (t : TypeTree) : Prop := ∀ node ∈ t.walk, ∀ n ∈ node.names, IsIdentifier n

theorem named_mk {scope : List Text} {base : Text} {arguments : List TypeTree} {isArray : Bool}
    {qualifiers : Qualifiers} :
    Named (mk scope base arguments isArray qualifiers) ↔
      (∀ n ∈ scope ++ [base], IsIdentifier n) ∧ ∀ a ∈ arguments, a.Named := by
  simp only [Named, walk, walkAll_eq_flatMap, List.forall_mem_cons, List.mem_flatMap,
    forall_exists_index, and_imp]
  apply and_congr Iff.rfl
  constructor
  · intro h a ha node hnode
    exact h node a ha hnode
  · intro h node a ha hnode
    exact h a ha node hnode

end TypeTree

theorem names_of_qualifiedRest {ts : List Token} {n : Text} (h : n ∈ (qualifiedRest ts).1) :
    ∃ x ∈ ts, x.kind = .identifier ∧ x.image = n := by
  fun_induction qualifiedRest ts with
  | case1 separator name rest hk names rest' hrest ih =>
    simp only [Bool.and_eq_true, decide_eq_true_eq] at hk
    rcases List.mem_cons.mp h with rfl | h
    · exact ⟨name, by simp, hk.2, rfl⟩
    · obtain ⟨x, hx, hi⟩ := ih (by rwa [hrest])
      exact ⟨x, by simp [hx], hi⟩
  | case2 => simp at h
  | case3 => simp at h

theorem names_of_parts {ts : List Token} {p : SignatureParts} (h : parts? ts = some p) {n : Text}
    (hn : n ∈ p.name :: p.names) : ∃ x ∈ ts, x.kind = .identifier ∧ x.image = n := by
  simp only [parts?, Option.map_eq_some_iff] at h
  obtain ⟨⟨name, names, rest⟩, hname, rfl⟩ := h
  have hmem := (takeConst_suffix ts).subset
  cases hts : (takeConst ts).2 with
  | nil => simp [hts, qualifiedName?] at hname
  | cons t tail =>
    rw [hts] at hname hmem
    simp only [qualifiedName?] at hname
    split at hname
    · rename_i hk
      simp only [Option.some.injEq, Prod.mk.injEq] at hname
      obtain ⟨rfl, rfl, -⟩ := hname
      rcases List.mem_cons.mp hn with rfl | hn
      · exact ⟨t, hmem List.mem_cons_self, hk, rfl⟩
      · obtain ⟨x, hx, hi⟩ := names_of_qualifiedRest hn
        exact ⟨x, hmem (List.mem_cons_of_mem t hx), hi⟩
    · simp at hname

theorem SignatureParts.tree_of_names {p : SignatureParts} {scope : List Text} {base : Text}
    (h : p.name :: p.names = scope ++ [base]) (arguments : List TypeTree) :
    p.tree arguments = .mk scope base arguments p.isArray p.qualifiers := by
  simp [SignatureParts.tree, h]

theorem SignatureParts.exists_names (p : SignatureParts) :
    ∃ scope base, p.name :: p.names = scope ++ [base] :=
  ⟨_, _, (List.dropLast_concat_getLast (List.cons_ne_nil _ _)).symm⟩

theorem named_of_readTokens {ts : List Token} {tree : TypeTree} (h : readTokens ts = some tree)
    (hts : ∀ x ∈ ts, x.kind = .identifier → IsIdentifier x.image) : tree.Named := by
  induction hl : ts.length using Nat.strongRecOn generalizing ts tree with
  | ind n ih =>
    cases hp : parts? ts with
    | none =>
      rw [readTokens_of_none hp] at h
      cases h
    | some p =>
      rw [readTokens_of_parts hp] at h
      obtain ⟨scope, base, hnames⟩ := p.exists_names
      obtain rfl := Option.some.inj h
      rw [p.tree_of_names hnames, TypeTree.named_mk, ← hnames]
      constructor
      · intro n hn
        obtain ⟨x, hx, hk, rfl⟩ := names_of_parts hp hn
        exact hts x hx hk
      · intro a ha
        obtain ⟨run, hr, ha⟩ := List.mem_filterMap.mp ha
        obtain ⟨hin, hlen⟩ := infix_of_parts hp hr
        exact ih run.length (hl ▸ hlen) ha (fun x hx => hts x (hin.subset hx)) rfl

theorem named_of_parse? {t : Text} {tree : TypeTree} (h : parse? t = some tree) : tree.Named := by
  rw [parse?_eq_readPieces, readPieces] at h
  split at h
  · rw [readTokens_gist] at h
    exact named_of_readTokens h fun x hx => identifier_of_mem_scan hx
  · cases h

/-! Written names and signs, with any text that may follow them. -/

theorem gist_nil : gist [] = [] := by
  simp [gist, pieces]

theorem gist_blank {c : Char} (h : isBlank c = true) (rest : Text) :
    gist (c :: rest) = gist rest := by
  unfold gist pieces
  rw [scan_blank h, gist_of_scan]
  rfl

theorem gist_sign {c : Char} {kind : TokenKind} (h : TokenKind.ofChar? c = some kind)
    (rest : Text) : gist (c :: rest) = .token (Token.essence ⟨kind, [c], 0⟩) :: gist rest := by
  obtain ⟨-, hb, hn, -, hc⟩ := kind_ofChar h
  unfold gist pieces
  rw [scan_sign hb hn (fun hs => hc hs.1), signAt, h, List.map_cons, gist_of_scan]
  rfl

theorem gist_scope (rest : Text) :
    gist ("::".toList ++ rest) = .token ⟨.scope, "::", 0⟩ :: gist rest := by
  change gist (':' :: ':' :: rest) = _
  unfold gist pieces
  rw [scan_scope, List.map_cons, gist_of_scan]
  rfl

theorem gist_word {w rest : Text} (hw : isName w = true) (h : Parted rest) :
    gist (w ++ rest) = .token ⟨.ofWord w, w, 0⟩ :: gist rest := by
  cases w with
  | nil => cases hw
  | cons c w =>
    simp only [isName, Bool.and_eq_true, List.all_eq_true] at hw
    have hb : isBlank c = false := by
      cases hb : isBlank c with
      | false => rfl
      | true =>
        have hc := isWord_of_isNameStart hw.1
        rw [isWord_of_isBlank hb] at hc
        cases hc
    unfold gist pieces
    rw [scan_word hb hw.1 hw.2 h, List.map_cons, gist_of_scan]
    simp only [Piece.essence, Token.essence, Token.isSeparator, TokenKind.ofWord]
    split <;> rfl

/-! The tokens of a canonical name. -/

namespace Token

def named (n : Text) : Token := ⟨.identifier, n, 0⟩
def scopeMark : Token := ⟨.scope, "::", 0⟩
def commaMark : Token := ⟨.comma, ",", 0⟩
def openAngle : Token := ⟨.leftAngle, "<", 0⟩
def closeAngle : Token := ⟨.rightAngle, ">", 0⟩
def openBracket : Token := ⟨.leftBracket, "[", 0⟩
def closeBracket : Token := ⟨.rightBracket, "]", 0⟩

def join (mark : Token) (runs : List (List Token)) : List Token := (runs.intersperse [mark]).flatten

theorem join_cons_cons (mark : Token) (a b : List Token) (runs : List (List Token)) :
    join mark (a :: b :: runs) = a ++ mark :: join mark (b :: runs) := rfl

def joinNames (names : List Text) : List Token := join scopeMark (names.map fun n => [named n])

/-- Arguments, if there are any. -/
def inAngles (runs : List (List Token)) : List Token :=
  if runs.isEmpty then [] else openAngle :: (join commaMark runs ++ [closeAngle])

def arraySuffix (isArray : Bool) : List Token := if isArray then [openBracket, closeBracket] else []

end Token

namespace TypeTree

mutual
def spelling : TypeTree → List Token
  | mk scope base arguments isArray _ =>
    Token.joinNames (scope ++ [base]) ++ Token.inAngles (spellings arguments) ++
      Token.arraySuffix isArray

def spellings : List TypeTree → List (List Token)
  | [] => []
  | t :: ts => spelling t :: spellings ts
end

theorem spellings_eq_map (ts : List TypeTree) : spellings ts = ts.map spelling := by
  induction ts with
  | nil => rfl
  | cons t ts ih => rw [spellings, ih, List.map_cons]

end TypeTree

/-- The text is read as these tokens, whatever follows. -/
def Spells (t : Text) (ts : List Token) : Prop :=
  ∀ rest, Parted rest → gist (t ++ rest) = ts.map Piece.token ++ gist rest

theorem spells_nil : Spells [] [] := fun _ _ => rfl

theorem Spells.append {a b : Text} {as bs : List Token} (ha : Spells a as) (hb : Spells b bs)
    (hparted : ∀ rest, Parted rest → Parted (b ++ rest)) : Spells (a ++ b) (as ++ bs) := by
  intro rest hrest
  rw [List.append_assoc, ha _ (hparted rest hrest), hb rest hrest, List.map_append,
    List.append_assoc]

theorem spells_name {n : Text} (h : IsIdentifier n) : Spells n [.named n] := by
  intro rest hrest
  rw [gist_word h.1 hrest, TokenKind.ofWord, if_neg h.2]
  rfl

theorem spells_sign {c : Char} {kind : TokenKind} (h : TokenKind.ofChar? c = some kind) :
    Spells [c] [Token.essence ⟨kind, [c], 0⟩] := fun rest _ => gist_sign h rest

/-- Parts that are spelled by themselves are spelled together, whatever their separator is. -/
theorem spells_join {α : Type} (text : α → Text) (run : α → List Token) (separator : Text)
    (mark : Token) (hmark : ∀ rest, gist (separator ++ rest) = .token mark :: gist rest)
    (hparted : ∀ rest, Parted (separator ++ rest)) (xs : List α)
    (h : ∀ x ∈ xs, Spells (text x) (run x)) :
    Spells (Text.join separator (xs.map text)) (Token.join mark (xs.map run)) := by
  match xs with
  | [] => exact spells_nil
  | [x] =>
    have hx := h x List.mem_cons_self
    simpa [Text.join, Token.join] using hx
  | x :: y :: xs =>
    have hx := h x List.mem_cons_self
    have hrest := spells_join text run separator mark hmark hparted (y :: xs)
      fun z hz => h z (List.mem_cons_of_mem x hz)
    simp only [List.map_cons, Text.join_cons_cons, Token.join_cons_cons] at hrest ⊢
    apply hx.append
    · intro rest hp
      rw [List.append_assoc, hmark, hrest rest hp]
      rfl
    · intro rest _
      rw [List.append_assoc]
      exact hparted _

theorem gist_comma (rest : Text) :
    gist (", ".toList ++ rest) = .token .commaMark :: gist rest := by
  change gist (',' :: ' ' :: rest) = _
  rw [gist_sign (c := ',') rfl, gist_blank (by decide)]
  rfl

theorem spells_angles {t : Text} {ts : List Token} (h : Spells t ts) :
    Spells ("<".toList ++ t ++ ">".toList) (.openAngle :: (ts ++ [.closeAngle])) := by
  intro rest _
  change gist ('<' :: (t ++ ['>'] ++ rest)) = _
  rw [gist_sign (c := '<') rfl, List.append_assoc, List.singleton_append,
    h _ (parted_cons (by decide)), gist_sign (c := '>') rfl]
  simp [Token.openAngle, Token.closeAngle, Token.essence, Token.isSeparator]

theorem spells_arraySuffix :
    Spells TypeTree.arraySuffix [.openBracket, .closeBracket] := by
  intro rest _
  change gist ('[' :: ']' :: rest) = _
  rw [gist_sign (c := '[') rfl, gist_sign (c := ']') rfl]
  rfl

theorem spells_fullName {t : TypeTree} (h : t.Named) : Spells t.fullName t.spelling := by
  induction t using TypeTree.byArguments with
  | h scope base arguments isArray qualifiers ih =>
    rw [TypeTree.named_mk] at h
    have hnames := spells_join id (fun n => [Token.named n]) "::" .scopeMark gist_scope
      (fun rest => parted_cons (by decide)) (scope ++ [base]) fun n hn => spells_name (h.1 n hn)
    have harguments := spells_join TypeTree.fullName TypeTree.spelling ", " .commaMark gist_comma
      (fun rest => parted_cons (by decide)) arguments fun a ha => ih a ha (h.2 a ha)
    rw [List.map_id] at hnames
    rw [← TypeTree.fullNames_eq_map, ← TypeTree.spellings_eq_map] at harguments
    have hgeneric : Spells (if arguments.isEmpty then Text.join "::" (scope ++ [base])
        else Text.join "::" (scope ++ [base]) ++ "<" ++
          Text.join ", " (TypeTree.fullNames arguments) ++ ">")
        (Token.joinNames (scope ++ [base]) ++ Token.inAngles (TypeTree.spellings arguments)) := by
      cases arguments with
      | nil => rwa [List.isEmpty_nil, if_pos rfl, TypeTree.spellings, Token.inAngles,
          List.isEmpty_nil, if_pos rfl, List.append_nil]
      | cons a arguments =>
        rw [List.isEmpty_cons, if_neg (by decide), TypeTree.spellings, Token.inAngles,
          List.isEmpty_cons, if_neg (by decide), List.append_assoc, List.append_assoc]
        apply hnames.append
        · rw [← List.append_assoc]
          exact spells_angles harguments
        · intro rest _
          exact parted_cons (by decide)
    simp only [TypeTree.fullName, TypeTree.spelling, TypeTree.suffixed, Token.arraySuffix]
    split
    · exact hgeneric.append spells_arraySuffix fun rest _ => parted_cons (by decide)
    · rwa [List.append_nil]

/-! Reading the tokens of a canonical name. -/

/-- A reader of arguments takes the tokens as they are, at any depth. -/
def Passes (ts : List Token) : Prop :=
  ∀ depth run rest,
    argumentRuns depth run (ts ++ rest) = argumentRuns depth (ts.reverse ++ run) rest

/-- A reader of arguments takes the tokens as they are inside an argument's own angles. -/
def PassesInside (ts : List Token) : Prop :=
  ∀ depth run rest,
    argumentRuns (depth + 1) run (ts ++ rest) = argumentRuns (depth + 1) (ts.reverse ++ run) rest

theorem passes_nil : Passes [] := fun _ _ _ => rfl

theorem passes_single {t : Token} (hl : t.kind ≠ .leftAngle) (hr : t.kind ≠ .rightAngle)
    (hc : t.kind ≠ .comma) : Passes [t] := fun _ _ _ => argumentRuns_other hl hr hc

theorem Passes.append {as bs : List Token} (ha : Passes as) (hb : Passes bs) :
    Passes (as ++ bs) := by
  intro depth run rest
  rw [List.append_assoc, ha, hb, List.reverse_append, List.append_assoc]

theorem Passes.inside {ts : List Token} (h : Passes ts) : PassesInside ts :=
  fun depth => h (depth + 1)

theorem PassesInside.append {as bs : List Token} (ha : PassesInside as) (hb : PassesInside bs) :
    PassesInside (as ++ bs) := by
  intro depth run rest
  rw [List.append_assoc, ha, hb, List.reverse_append, List.append_assoc]

theorem PassesInside.angles {ts : List Token} (h : PassesInside ts) :
    Passes (.openAngle :: (ts ++ [.closeAngle])) := by
  intro depth run rest
  rw [List.cons_append, argumentRuns_leftAngle rfl, List.append_assoc, h, List.singleton_append,
    argumentRuns_rightAngle rfl]
  simp

theorem passesInside_join {mark : Token} (hm : PassesInside [mark]) {runs : List (List Token)}
    (h : ∀ run ∈ runs, PassesInside run) : PassesInside (Token.join mark runs) := by
  match runs with
  | [] => exact passes_nil.inside
  | [run] =>
    have hrun := h run List.mem_cons_self
    simpa [Token.join] using hrun
  | a :: b :: runs =>
    rw [Token.join_cons_cons]
    exact (h a List.mem_cons_self).append
      (hm.append (passesInside_join hm fun run hr => h run (List.mem_cons_of_mem a hr)))

theorem passes_named (n : Text) : Passes [.named n] :=
  passes_single (by simp [Token.named]) (by simp [Token.named]) (by simp [Token.named])

theorem passes_joinNames (names : List Text) : Passes (Token.joinNames names) := by
  match names with
  | [] => exact passes_nil
  | [n] => exact passes_named n
  | m :: n :: names =>
    have hmark : Passes [.scopeMark] := passes_single (by decide) (by decide) (by decide)
    exact (passes_named m).append (hmark.append (passes_joinNames (n :: names)))

theorem passes_spelling (t : TypeTree) : Passes t.spelling := by
  induction t using TypeTree.byArguments with
  | h scope base arguments isArray qualifiers ih =>
    have hcomma : PassesInside [.commaMark] := fun depth run rest => argumentRuns_innerComma rfl
    have hinside : PassesInside (Token.join .commaMark (TypeTree.spellings arguments)) := by
      apply passesInside_join hcomma
      intro run hr
      rw [TypeTree.spellings_eq_map] at hr
      obtain ⟨a, ha, rfl⟩ := List.mem_map.mp hr
      exact (ih a ha).inside
    have hopen : Passes [.openBracket] := passes_single (by decide) (by decide) (by decide)
    have hclose : Passes [.closeBracket] := passes_single (by decide) (by decide) (by decide)
    unfold TypeTree.spelling
    refine ((passes_joinNames _).append ?_).append ?_
    · unfold Token.inAngles
      split
      · exact passes_nil
      · exact hinside.angles
    · unfold Token.arraySuffix
      split
      · exact hopen.append hclose
      · exact passes_nil

/-- The arguments between angles are found again. -/
theorem argumentRuns_join {runs : List (List Token)} (hne : runs ≠ [])
    (h : ∀ run ∈ runs, Passes run) (rest : List Token) :
    argumentRuns 0 [] (Token.join .commaMark runs ++ .closeAngle :: rest) = (runs, rest) := by
  match runs with
  | [] => exact absurd rfl hne
  | [run] =>
    have hrun := h run List.mem_cons_self
    have hjoin : Token.join .commaMark [run] = run := by simp [Token.join]
    rw [hjoin, hrun, argumentRuns_close rfl]
    simp
  | a :: b :: runs =>
    have ha := h a List.mem_cons_self
    have hrest := argumentRuns_join (List.cons_ne_nil b runs)
      (fun run hr => h run (List.mem_cons_of_mem a hr)) rest
    rw [Token.join_cons_cons, List.append_assoc, ha, List.cons_append, argumentRuns_comma rfl,
      hrest]
    simp

theorem qualifiedRest_stop {rest : List Token} (h : ∀ x ∈ rest.head?, x.isSeparator = false) :
    qualifiedRest rest = ([], rest) := by
  match rest with
  | [] => rfl
  | [_] => rfl
  | x :: y :: rest =>
    have hx := h x rfl
    rw [qualifiedRest, if_neg (by simp [hx])]

theorem joinNames_cons (n : Text) (names : List Text) :
    Token.joinNames (n :: names) = .named n :: names.flatMap fun n => [.scopeMark, .named n] := by
  unfold Token.joinNames
  induction names generalizing n with
  | nil => rfl
  | cons m names ih =>
    have hm := ih m
    simp only [List.map_cons] at hm ⊢
    rw [Token.join_cons_cons, hm]
    rfl

theorem qualifiedName_joinNames {n : Text} {names : List Text} {rest : List Token}
    (h : ∀ x ∈ rest.head?, x.isSeparator = false) :
    qualifiedName? (Token.joinNames (n :: names) ++ rest) = some (n, names, rest) := by
  have hrest (names : List Text) :
      qualifiedRest ((names.flatMap fun n => [.scopeMark, .named n]) ++ rest) = (names, rest) := by
    induction names with
    | nil => exact qualifiedRest_stop h
    | cons m names ih =>
      simp only [List.flatMap_cons, List.cons_append, List.nil_append]
      rw [qualifiedRest, if_pos (by rfl), ih]
      rfl
  rw [joinNames_cons, List.cons_append, qualifiedName?, if_pos (by rfl), hrest]
  rfl

theorem takeArguments_inAngles {runs : List (List Token)} (h : ∀ run ∈ runs, Passes run)
    {rest : List Token} (hrest : ∀ x ∈ rest.head?, x.kind ≠ .leftAngle) :
    takeArguments (Token.inAngles runs ++ rest) = (runs, rest) := by
  cases runs with
  | nil =>
    cases rest with
    | nil => rfl
    | cons x rest => exact if_neg (hrest x rfl)
  | cons run runs =>
    have hruns := argumentRuns_join (List.cons_ne_nil run runs) h rest
    simp only [Token.inAngles, List.isEmpty_cons, Bool.false_eq_true, if_false, List.cons_append,
      List.append_assoc, List.nil_append, takeArguments]
    rw [if_pos (by rfl), hruns]

/-- The marks behind a type. -/
def AreMarks (ts : List Token) : Prop := ∀ x ∈ ts, x.kind = .asterisk ∨ x.kind = .ampersand

theorem areMarks_nil : AreMarks [] := fun _ hx => absurd hx List.not_mem_nil

theorem takeArray_arraySuffix (isArray : Bool) {marks : List Token} (h : AreMarks marks) :
    takeArray (Token.arraySuffix isArray ++ marks) = (isArray, marks) := by
  cases isArray with
  | true => rfl
  | false =>
    cases marks with
    | nil => rfl
    | cons x marks =>
      have hx : x.kind ≠ .leftBracket := by
        rcases h x List.mem_cons_self with hx | hx <;> rw [hx] <;> decide
      have hnone : arraySuffix? (x :: marks) = none := if_neg hx
      simp only [Token.arraySuffix, Bool.false_eq_true, if_false, List.nil_append, takeArray, hnone]

end TypeAtlas
