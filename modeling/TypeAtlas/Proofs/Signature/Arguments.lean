import TypeAtlas.Proofs.Signature.Likeness
import TypeAtlas.Proofs.Signature.RoundTrip

/-!
Generic arguments are read one by one. A text that is set off from its neighbours contributes its
own pieces, and an argument with all its angles closed is handed on whole, so the tree of a generic
type has the trees of its arguments.
-/

namespace TypeAtlas

/-! Texts side by side. -/

/-- A text that goes on neither with a word nor with `::`. -/
def SetOff (t : Text) : Prop := ∀ c ∈ t.head?, isWord c = false ∧ c ≠ ':'

theorem setOff_cons {c : Char} {t : Text} (hw : isWord c = false) (hc : c ≠ ':') :
    SetOff (c :: t) := by
  rintro d ⟨⟩
  exact ⟨hw, hc⟩

theorem SetOff.parted {t : Text} (h : SetOff t) : Parted t := fun c hc => (h c hc).1

theorem Parted.append {t v : Text} (h : Parted t) (hv : Parted v) : Parted (t ++ v) := by
  cases t with
  | nil => exact hv
  | cons c t => exact parted_cons (h c rfl)

theorem scan_append (t : Text) {v : Text} (h : SetOff v) (offset : Nat) :
    (scan offset (t ++ v)).map Piece.essence = (scan offset t).map Piece.essence ++ gist v := by
  fun_induction scan offset t with
  | case1 offset => exact gist_of_scan offset v
  | case2 offset c r hb ih => rw [List.cons_append, scan_blank hb, ih]
  | case3 offset c r hb hn word ih =>
    have hsplit : c :: r ++ v = c :: r.takeWhile isWord ++ (r.dropWhile isWord ++ v) := by
      rw [← List.append_assoc]
      exact congrArg (c :: · ++ v) List.takeWhile_append_dropWhile.symm
    rw [hsplit, scan_word (by simpa using hb) hn (List.all_eq_true.mp List.all_takeWhile)
      ((parted_dropWhile r).append h.parted), List.map_cons, ih]
    rfl
  | case4 offset c r hb hn hs ih =>
    obtain ⟨rfl, hr⟩ := hs
    obtain ⟨r, rfl⟩ := List.head?_eq_some_iff.mp hr
    rw [List.cons_append, List.cons_append, scan_scope, List.map_cons]
    exact congrArg (_ :: ·) ih
  | case5 offset c r hb hn hs kind hk ih =>
    have hcolon : c ≠ ':' := (kind_ofChar hk).2.2.2.2
    rw [List.cons_append, scan_sign (by simpa using hb) (by simpa using hn) fun hs => hcolon hs.1,
      signAt, hk, List.map_cons, ih]
    rfl
  | case6 offset c r hb hn hs hk ih =>
    have hscope : ¬(c = ':' ∧ (r ++ v).head? = some ':') := by
      rintro ⟨hc, hd⟩
      cases r with
      | nil => exact (h ':' hd).2 rfl
      | cons d r => exact hs ⟨hc, hd⟩
    rw [List.cons_append, scan_sign (by simpa using hb) (by simpa using hn) hscope, signAt, hk,
      List.map_cons, ih]
    rfl

theorem gist_append (t : Text) {v : Text} (h : SetOff v) : gist (t ++ v) = gist t ++ gist v :=
  scan_append t h 0

/-! The pieces of a generic type. -/

theorem tokens_gist (t : Text) :
    (gist t).filterMap Piece.token? = (tokens t).map Token.essence := filterMap_token_essence _

theorem gist_join_cons (t u : Text) (ts : List Text) :
    gist (Text.join ", " (t :: u :: ts)) =
      gist t ++ .token .commaMark :: gist (Text.join ", " (u :: ts)) := by
  have hcomma : SetOff (", ".toList ++ Text.join ", " (u :: ts)) :=
    setOff_cons (by decide) (by decide)
  rw [Text.join_cons_cons, gist_append t hcomma, gist_comma]

theorem tokens_join (ts : List Text) :
    (gist (Text.join ", " ts)).filterMap Piece.token? =
      Token.join .commaMark (ts.map fun t => (tokens t).map Token.essence) := by
  match ts with
  | [] => exact congrArg (List.filterMap Piece.token?) gist_nil
  | [t] => simp [Text.join, Token.join, tokens_gist]
  | t :: u :: ts =>
    have hrest := tokens_join (u :: ts)
    rw [gist_join_cons, List.filterMap_append, filterMap_token_cons, tokens_gist, hrest]
    rfl

theorem harmless_append {ps qs : List Piece} : Harmless (ps ++ qs) ↔ Harmless ps ∧ Harmless qs := by
  rw [Harmless, List.filterMap_append]
  exact List.forall_mem_append

theorem harmless_join {ts : List Text} (h : ∀ t ∈ ts, Harmless (gist t)) :
    Harmless (gist (Text.join ", " ts)) := by
  match ts with
  | [] =>
    rw [show Text.join ", " [] = [] from rfl, gist_nil]
    exact List.forall_mem_nil _
  | [t] =>
    have ht := h t List.mem_cons_self
    simpa [Text.join] using ht
  | t :: u :: ts =>
    have hrest : Harmless (gist (Text.join ", " (u :: ts))) :=
      harmless_join fun v hv => h v (List.mem_cons_of_mem t hv)
    rw [gist_join_cons, harmless_append]
    exact ⟨h t List.mem_cons_self, hrest⟩

theorem gist_generic (name : Text) (ts : List Text) :
    gist (name ++ "<" ++ Text.join ", " ts ++ ">") =
      gist name ++ .token .openAngle :: (gist (Text.join ", " ts) ++ [.token .closeAngle]) := by
  have hclose : gist ['>'] = [.token .closeAngle] := by
    rw [gist_sign (c := '>') rfl, gist_nil]
    rfl
  rw [List.append_assoc, List.append_assoc]
  change gist (name ++ '<' :: (Text.join ", " ts ++ ['>'])) = _
  rw [gist_append name (setOff_cons (by decide) (by decide)), gist_sign (c := '<') rfl,
    gist_append _ (setOff_cons (by decide) (by decide)), hclose]
  rfl

/-! Names. -/

def identifiers (ts : List Token) : List Token := ts.filter (·.kind = .identifier)

/-- The names among the tokens. -/
def namesIn (ts : List Token) : List Text := (identifiers ts).map Token.image

/-- One or more names, with a separator between each two of them. -/
def areNames : List Token → Bool
  | [] => false
  | [name] => name.kind = .identifier
  | name :: separator :: rest =>
    name.kind = .identifier && separator.isSeparator && areNames rest

theorem essence_of_identifier {t : Token} (h : t.kind = .identifier) :
    t.essence = .named t.image := by
  simp [Token.essence, Token.isSeparator, Token.named, h]

theorem essence_of_isSeparator {t : Token} (h : t.isSeparator = true) :
    t.essence = .scopeMark := if_pos h

theorem namesIn_cons_of_identifier {t : Token} (h : t.kind = .identifier) (ts : List Token) :
    namesIn (t :: ts) = t.image :: namesIn ts := by
  simp [namesIn, identifiers, h]

theorem namesIn_cons_of_isSeparator {t : Token} (h : t.isSeparator = true) (ts : List Token) :
    namesIn (t :: ts) = namesIn ts := by
  simp only [Token.isSeparator, Bool.or_eq_true, decide_eq_true_eq] at h
  rcases h with h | h <;> simp [namesIn, identifiers, h]

theorem exists_namesIn {ts : List Token} (h : areNames ts = true) :
    ∃ n names, namesIn ts = n :: names := by
  fun_cases areNames ts with
  | case1 => simp [areNames] at h
  | case2 name =>
    rw [areNames, decide_eq_true_eq] at h
    exact ⟨_, _, namesIn_cons_of_identifier h []⟩
  | case3 name separator rest =>
    simp only [areNames, Bool.and_eq_true, decide_eq_true_eq] at h
    exact ⟨_, _, namesIn_cons_of_identifier h.1.1 _⟩

theorem essence_of_areNames {ts : List Token} (h : areNames ts = true) :
    ts.map Token.essence = Token.joinNames (namesIn ts) := by
  fun_induction areNames ts with
  | case1 => cases h
  | case2 name =>
    rw [decide_eq_true_eq] at h
    rw [List.map_singleton, essence_of_identifier h, namesIn_cons_of_identifier h]
    rfl
  | case3 name separator rest ih =>
    simp only [Bool.and_eq_true, decide_eq_true_eq] at h
    obtain ⟨⟨hname, hseparator⟩, hrest⟩ := h
    obtain ⟨n, names, hn⟩ := exists_namesIn hrest
    rw [List.map_cons, List.map_cons, ih hrest, essence_of_identifier hname,
      essence_of_isSeparator hseparator, namesIn_cons_of_identifier hname,
      namesIn_cons_of_isSeparator hseparator, hn]
    rfl

/-- A text that is a qualified name and nothing else. -/
structure IsQualifiedName (t : Text) : Prop where
  readable : criticalStrays t = []
  names : areNames (tokens t) = true

instance (t : Text) : Decidable (IsQualifiedName t) :=
  decidable_of_iff (criticalStrays t = [] ∧ areNames (tokens t) = true)
    ⟨fun ⟨hr, hn⟩ => ⟨hr, hn⟩, fun ⟨hr, hn⟩ => ⟨hr, hn⟩⟩

/-! Angles. -/

/-- How many more angles open than close. -/
def angleDepth (ts : List Token) : Int :=
  ts.countP (·.kind = .leftAngle) - ts.countP (·.kind = .rightAngle)

/-- All angles match, and no comma stands outside them. -/
structure Enclosed (ts : List Token) : Prop where
  nonnegative : ∀ n ≤ ts.length, 0 ≤ angleDepth (ts.take n)
  balanced : angleDepth ts = 0
  commas : ∀ n (h : n < ts.length), ts[n].kind = .comma → angleDepth (ts.take n) ≠ 0

instance (ts : List Token) : Decidable (Enclosed ts) :=
  decidable_of_iff ((∀ n ≤ ts.length, 0 ≤ angleDepth (ts.take n)) ∧ angleDepth ts = 0 ∧
      ∀ n (h : n < ts.length), ts[n].kind = .comma → angleDepth (ts.take n) ≠ 0)
    ⟨fun ⟨hn, hb, hc⟩ => ⟨hn, hb, hc⟩, fun ⟨hn, hb, hc⟩ => ⟨hn, hb, hc⟩⟩

theorem angleDepth_append (ts us : List Token) :
    angleDepth (ts ++ us) = angleDepth ts + angleDepth us := by
  simp only [angleDepth, List.countP_append]
  omega

theorem angleDepth_single (t : Token) : angleDepth [t] =
    if t.kind = .leftAngle then 1 else if t.kind = .rightAngle then -1 else 0 := by
  cases hk : t.kind <;> simp [angleDepth, hk]

theorem angleDepth_essence (ts : List Token) :
    angleDepth (ts.map Token.essence) = angleDepth ts := by
  have hcount {kind : TokenKind} (hs : kind ≠ .scope) (hd : kind ≠ .dot) :
      (ts.map Token.essence).countP (·.kind = kind) = ts.countP (·.kind = kind) := by
    rw [List.countP_map]
    exact List.countP_congr fun t _ => by simp [Token.essence_kind hs hd]
  rw [angleDepth, hcount (by decide) (by decide), hcount (by decide) (by decide), angleDepth]

namespace Enclosed

variable {ts : List Token} (h : Enclosed ts)
include h

theorem essence : Enclosed (ts.map Token.essence) where
  nonnegative n hn := by
    rw [← List.map_take, angleDepth_essence]
    exact h.nonnegative n (by simpa using hn)
  balanced := by rw [angleDepth_essence, h.balanced]
  commas n hn hc := by
    rw [← List.map_take, angleDepth_essence]
    rw [List.getElem_map, Token.essence_kind (by decide) (by decide)] at hc
    exact h.commas n (by simpa using hn) hc

/-- A reader of arguments takes the tokens one by one, as many angles deeper as are open. -/
theorem argumentRuns_take {n : Nat} (hn : n ≤ ts.length) (depth : Nat) (run rest : List Token) :
    argumentRuns depth run (ts.take n ++ rest) =
      argumentRuns (depth + (angleDepth (ts.take n)).toNat) ((ts.take n).reverse ++ run) rest := by
  induction n generalizing rest with
  | zero => rfl
  | succ n ih =>
    have hlt : n < ts.length := hn
    have hnext := h.nonnegative (n + 1) hn
    have hsplit : ts.take (n + 1) = ts.take n ++ [ts[n]] := List.take_succ_eq_append_getElem hlt
    rw [hsplit, angleDepth_append, angleDepth_single] at hnext ⊢
    rw [List.append_assoc, List.singleton_append, ih (Nat.le_of_lt hlt), List.reverse_append,
      List.reverse_singleton, List.append_assoc, List.singleton_append]
    have hbefore := h.nonnegative n (Nat.le_of_lt hlt)
    by_cases hl : ts[n].kind = .leftAngle
    · rw [argumentRuns_leftAngle hl, if_pos hl]
      congr 1
      omega
    by_cases hr : ts[n].kind = .rightAngle
    · rw [if_neg hl, if_pos hr] at hnext ⊢
      -- the depth stays above zero, so this angle is not the one that ends the arguments
      obtain ⟨d, hd⟩ : ∃ d, depth + (angleDepth (ts.take n)).toNat = d + 1 :=
        ⟨depth + (angleDepth (ts.take n)).toNat - 1, by omega⟩
      rw [hd, argumentRuns_rightAngle hr]
      congr 1
      omega
    rw [if_neg hl, if_neg hr, Int.add_zero]
    by_cases hc : ts[n].kind = .comma
    · have hopen := h.commas n hlt hc
      obtain ⟨d, hd⟩ : ∃ d, depth + (angleDepth (ts.take n)).toNat = d + 1 :=
        ⟨depth + (angleDepth (ts.take n)).toNat - 1, by omega⟩
      rw [hd, argumentRuns_innerComma hc]
    · exact argumentRuns_other hl hr hc

theorem passes : Passes ts := by
  intro depth run rest
  have htake := h.argumentRuns_take (Nat.le_refl _) depth run rest
  rwa [List.take_length, h.balanced] at htake

end Enclosed

/-! Trees. -/

theorem harmless_of_parse? {t : Text} {tree : TypeTree} (h : parse? t = some tree) :
    Harmless (gist t) := by
  rw [parse?_eq_readPieces, readPieces] at h
  split at h
  · assumption
  · cases h

theorem readTokens_generic {scope : List Text} {base : Text} {runs : List (List Token)}
    (h : ∀ run ∈ runs, Passes run) :
    readTokens (Token.joinNames (scope ++ [base]) ++ Token.inAngles runs) =
      some (.mk scope base (runs.filterMap readTokens) false .none) := by
  have hnone : ∀ x ∈ ([] : List Token).head?, x.isSeparator = false ∧ x.kind ≠ .leftAngle := by simp
  have hwritten := readTokens_written h false hnone scope base
  rwa [List.append_nil] at hwritten

/-- A qualified name with arguments between angles is read as that name with the trees of the
arguments, each as it is read by itself. -/
theorem parse?_generic (name : Text) (ts : List Text) (arguments : List TypeTree)
    (hname : IsQualifiedName name) (hne : ts ≠ [])
    (hparse : ts.map parse? = arguments.map some) (henclosed : ∀ t ∈ ts, Enclosed (tokens t)) :
    ∃ scope base, scope ++ [base] = namesIn (tokens name) ∧
      parse? name = some (.mk scope base [] false .none) ∧
      parse? (name ++ "<" ++ Text.join ", " ts ++ ">") =
        some (.mk scope base arguments false .none) := by
  obtain ⟨n, names, hn⟩ := exists_namesIn hname.names
  obtain ⟨scope, base, hsplit⟩ : ∃ scope base, n :: names = scope ++ [base] :=
    ⟨_, _, (List.dropLast_concat_getLast (List.cons_ne_nil n names)).symm⟩
  have hessence : (tokens name).map Token.essence = Token.joinNames (scope ++ [base]) := by
    rw [essence_of_areNames hname.names, hn, hsplit]
  have hharmless : Harmless (gist name) := harmless_gist.mpr (harmless_pieces.mpr hname.readable)
  have hread : ∀ t ∈ ts, ∃ a, parse? t = some a := by
    intro t ht
    have hmem : parse? t ∈ arguments.map some := hparse ▸ List.mem_map_of_mem ht
    obtain ⟨a, -, ha⟩ := List.mem_map.mp hmem
    exact ⟨a, ha.symm⟩
  refine ⟨scope, base, by rw [hn, hsplit], ?_, ?_⟩
  · have hplain : readTokens (Token.joinNames (scope ++ [base]) ++ Token.inAngles []) =
        some (.mk scope base [] false .none) := readTokens_generic (List.forall_mem_nil _)
    rw [Token.inAngles, List.isEmpty_nil, if_pos rfl, List.append_nil] at hplain
    rw [parse?_of_criticalStrays hname.readable, ← readTokens_map, hessence, hplain]
  · have hruns : ∀ run ∈ ts.map fun t => (tokens t).map Token.essence, Passes run := by
      intro run hrun
      obtain ⟨t, ht, rfl⟩ := List.mem_map.mp hrun
      exact (henclosed t ht).essence.passes
    have harguments : (ts.map fun t => (tokens t).map Token.essence).filterMap readTokens =
        arguments := by
      rw [List.filterMap_map]
      calc ts.filterMap (readTokens ∘ fun t => (tokens t).map Token.essence)
        _ = ts.filterMap parse? := by
          apply List.filterMap_congr
          intro t ht
          obtain ⟨a, ha⟩ := hread t ht
          have hpieces := harmless_gist.mp (harmless_of_parse? ha)
          rw [Function.comp_apply, readTokens_map, parse?_of_harmless hpieces]
        _ = (ts.map parse?).filterMap id := by rw [List.filterMap_map, Function.id_comp]
        _ = arguments := by rw [hparse, List.filterMap_map, Function.id_comp, List.filterMap_some]
    have hstrays : Harmless (gist (name ++ "<" ++ Text.join ", " ts ++ ">")) := by
      rw [gist_generic, harmless_append]
      refine ⟨hharmless, harmless_append.mpr ⟨harmless_join ?_, by decide⟩⟩
      intro t ht
      obtain ⟨a, ha⟩ := hread t ht
      exact harmless_of_parse? ha
    have hangles : .openAngle :: (Token.join .commaMark
        (ts.map fun t => (tokens t).map Token.essence) ++ [.closeAngle]) =
          Token.inAngles (ts.map fun t => (tokens t).map Token.essence) := by
      rw [Token.inAngles, if_neg (by simpa using hne)]
    rw [parse?_eq_readPieces, readPieces, if_pos hstrays, gist_generic, List.filterMap_append,
      filterMap_token_cons, List.filterMap_append, tokens_gist, tokens_join, hessence]
    refine (congrArg (fun us => readTokens (_ ++ us)) hangles).trans ?_
    rw [readTokens_generic hruns, harguments]

/-- The first argument has arguments and a qualifier on either side, the second one goes on behind
its name, with brackets that never match, and the last one holds a stray digit. -/
theorem parse?_generic_sample : ∃ a b c scope base,
    parse? "const list<x, y<z> *>[3] &" = some a ∧ parse? "u ] v * [w" = some b ∧
      parse? "7 m.n<int, 8> const" = some c ∧ scope ++ [base] = namesIn (tokens "std :: k.map") ∧
      parse? "std :: k.map<const list<x, y<z> *>[3] &, u ] v * [w, 7 m.n<int, 8> const>" =
        some (.mk scope base [a, b, c] false .none) := by
  obtain ⟨a, ha⟩ := Option.isSome_iff_exists.mp
    (show (parse? "const list<x, y<z> *>[3] &").isSome by with_unfolding_all decide)
  obtain ⟨b, hb⟩ := Option.isSome_iff_exists.mp
    (show (parse? "u ] v * [w").isSome by with_unfolding_all decide)
  obtain ⟨c, hc⟩ := Option.isSome_iff_exists.mp
    (show (parse? "7 m.n<int, 8> const").isSome by with_unfolding_all decide)
  have hparse : ["const list<x, y<z> *>[3] &".toList, "u ] v * [w".toList,
      "7 m.n<int, 8> const".toList].map parse? = [a, b, c].map some := by
    rw [List.map_cons, ha, List.map_cons, hb, List.map_cons, hc]
    rfl
  obtain ⟨scope, base, hnames, -, hwhole⟩ := parse?_generic "std :: k.map" _ [a, b, c]
    (by with_unfolding_all decide) (by decide) hparse (by with_unfolding_all decide)
  exact ⟨a, b, c, scope, base, ha, hb, hc, hnames, hwhole⟩

end TypeAtlas
