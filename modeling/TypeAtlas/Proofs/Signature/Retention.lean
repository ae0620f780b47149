import TypeAtlas.Proofs.Signature.Arguments

/-!
Which names of a text its tree has. All of them are names of the text, in the same order, and a name
is passed over for one of few reasons only, none of which arises where a signature is written out in
full.
-/

namespace TypeAtlas

namespace TypeTree

/-- The names of all nodes, each before its arguments. -/
def allNames (t : TypeTree) : List Text := t.walk.flatMap names

theorem allNames_mk (scope : List Text) (base : Text) (arguments : List TypeTree) (isArray : Bool)
    (qualifiers : Qualifiers) : allNames (mk scope base arguments isArray qualifiers) =
      scope ++ [base] ++ arguments.flatMap allNames := by
  simp only [allNames, walk, walkAll_eq_flatMap, List.flatMap_cons, List.flatMap_assoc]
  rfl

end TypeTree

/-! The identifiers of a text, by the part of it where they stand. -/

theorem identifiers_append (ts us : List Token) :
    identifiers (ts ++ us) = identifiers ts ++ identifiers us := List.filter_append ..

theorem identifiers_of_ne {t : Token} (h : t.kind ≠ .identifier) (ts : List Token) :
    identifiers (t :: ts) = identifiers ts := by
  simp [identifiers, h]

/-- What follows the name of a type. -/
def behindName (ts : List Token) : List Token :=
  match qualifiedName? (takeConst ts).2 with
  | some (_, _, rest) => rest
  | none => []

/-- The tokens of an argument that neither a comma nor a closing angle ends. -/
def openRun (depth : Nat) (run : List Token) : List Token → List Token
  | [] => run.reverse
  | t :: rest =>
    match t.kind, depth with
    | .leftAngle, _ => openRun (depth + 1) (t :: run) rest
    | .rightAngle, 0 => []
    | .rightAngle, depth + 1 => openRun depth (t :: run) rest
    | .comma, 0 => openRun 0 [] rest
    | _, _ => openRun depth (t :: run) rest

/-- The last argument, where the arguments are not closed. -/
def openArgument : List Token → List Token
  | t :: rest => if t.kind = .leftAngle then openRun 0 [] rest else []
  | [] => []

theorem identifiers_argumentRuns (depth : Nat) (run ts : List Token) :
    identifiers (run.reverse ++ ts) = identifiers (argumentRuns depth run ts).1.flatten ++
      (identifiers (openRun depth run ts) ++ identifiers (argumentRuns depth run ts).2) := by
  have hpush (t : Token) (run rest : List Token) :
      run.reverse ++ t :: rest = (t :: run).reverse ++ rest := by simp
  fun_induction argumentRuns depth run ts with
  | case1 depth run => simp [openRun, identifiers]
  | case2 depth run t rest hk ih => simp only [openRun, hk, hpush, ih]
  | case3 run t rest hk =>
    simp [openRun, hk, identifiers]
  | case4 run t rest depth hk ih => simp only [openRun, hk, hpush, ih]
  | case5 run t rest hk runs rest' hruns ih =>
    have ht : t.kind ≠ .identifier := by simp [hk]
    rw [hruns] at ih
    simp only [List.reverse_nil, List.nil_append] at ih
    simp only [openRun, hk, List.flatten_cons, identifiers_append, identifiers_of_ne ht, ih,
      List.append_assoc]
  | case6 depth run t rest hl hr hr' hc ih =>
    have hopen : openRun depth run (t :: rest) = openRun depth (t :: run) rest := by
      cases hk : t.kind <;> cases depth <;> simp_all [openRun]
    rw [hpush, ih, hopen]

theorem identifiers_takeArguments (ts : List Token) :
    identifiers ts = identifiers (takeArguments ts).1.flatten ++
      (identifiers (openArgument ts) ++ identifiers (takeArguments ts).2) := by
  cases ts with
  | nil => rfl
  | cons t rest =>
    simp only [takeArguments, openArgument]
    split
    · rename_i hk
      have ht : t.kind ≠ .identifier := by simp [hk]
      rw [identifiers_of_ne ht]
      exact identifiers_argumentRuns 0 [] rest
    · rfl

theorem identifiers_qualifiedRest (ts : List Token) :
    ∃ found, identifiers ts = found ++ identifiers (qualifiedRest ts).2 ∧
      found.map Token.image = (qualifiedRest ts).1 := by
  fun_induction qualifiedRest ts with
  | case1 separator name rest h names rest' hrest ih =>
    simp only [Bool.and_eq_true, decide_eq_true_eq] at h
    obtain ⟨found, hfound, himages⟩ := ih
    rw [hrest] at hfound himages
    have hseparator : separator.kind ≠ .identifier := by
      intro hk
      simp [Token.isSeparator, hk] at h
    refine ⟨name :: found, ?_, congrArg (name.image :: ·) himages⟩
    rw [identifiers_of_ne hseparator, List.cons_append, ← hfound]
    simp [identifiers, h.2]
  | case2 => exact ⟨[], rfl, rfl⟩
  | case3 => exact ⟨[], rfl, rfl⟩

theorem identifiers_takeConst (ts : List Token) :
    identifiers (takeConst ts).2 = identifiers ts := by
  cases ts with
  | nil => rfl
  | cons t rest =>
    simp only [takeConst]
    split
    · rename_i hk
      rw [identifiers_of_ne (by simp [hk])]
    · rfl

/-- A type consists of its name, its arguments and what it makes nothing of. -/
theorem identifiers_of_parts {ts : List Token} {p : SignatureParts} (h : parts? ts = some p) :
    ∃ found, found.map Token.image = p.name :: p.names ∧
      identifiers ts = found ++ (identifiers (takeArguments (behindName ts)).1.flatten ++
        (identifiers (openArgument (behindName ts)) ++
          identifiers (takeArguments (behindName ts)).2)) ∧
      p.runs = (takeArguments (behindName ts)).1.filter (!·.isEmpty) := by
  simp only [parts?, Option.map_eq_some_iff] at h
  obtain ⟨⟨name, names, rest⟩, hname, rfl⟩ := h
  have hbehind : behindName ts = rest := by rw [behindName, hname]
  have hconst := identifiers_takeConst ts
  cases hts : (takeConst ts).2 with
  | nil => simp [hts, qualifiedName?] at hname
  | cons t tail =>
    rw [hts] at hname hconst
    simp only [qualifiedName?] at hname
    split at hname
    · rename_i hk
      simp only [Option.some.injEq, Prod.mk.injEq] at hname
      obtain ⟨rfl, rfl, hrest⟩ := hname
      obtain ⟨found, hfound, himages⟩ := identifiers_qualifiedRest tail
      refine ⟨t :: found, congrArg (t.image :: ·) himages, ?_, by rw [hbehind]⟩
      rw [hbehind, ← identifiers_takeArguments, ← hconst, List.cons_append, ← hrest, ← hfound]
      simp [identifiers, hk]
    · simp at hname

/-! Names that are kept and names that are passed over. -/

/-- An argument that begins with a name, behind `const` or not. -/
def beginsNamed (run : List Token) : Bool :=
  (takeConst run).2.head?.any (·.kind = .identifier)

/-- The tree makes nothing of the token: it stands behind the arguments of its type, or in an
argument that is never ended or that begins with no name, or its argument makes nothing of it. -/
inductive PassedOver : List Token → Token → Prop
  | behind {ts : List Token} {x : Token} (hx : x ∈ (takeArguments (behindName ts)).2) :
    PassedOver ts x
  | unended {ts : List Token} {x : Token} (hx : x ∈ openArgument (behindName ts)) :
    PassedOver ts x
  | unnamed {ts run : List Token} {x : Token} (hr : run ∈ (takeArguments (behindName ts)).1)
      (hx : x ∈ run) (hn : beginsNamed run = false) : PassedOver ts x
  | inside {ts run : List Token} {x : Token} (hr : run ∈ (takeArguments (behindName ts)).1)
      (hx : x ∈ run) (h : PassedOver run x) : PassedOver ts x

theorem isSome_readTokens (ts : List Token) : (readTokens ts).isSome = beginsNamed ts := by
  have hparts : (parts? ts).isSome = beginsNamed ts := by
    rw [parts?, Option.isSome_map, beginsNamed]
    cases (takeConst ts).2 with
    | nil => rfl
    | cons t rest =>
      simp only [qualifiedName?, List.head?_cons, Option.any_some]
      split <;> simp_all
  rw [← hparts]
  cases hp : parts? ts with
  | none => rw [readTokens_of_none hp]; rfl
  | some p => rw [readTokens_of_parts hp]; rfl

/-- Of all these tokens, those kept make up the names, in order, and the others are lost. -/
structure Retains (all kept : List Token) (names : List Text) (Lost : Token → Prop) : Prop where
  sublist : kept.Sublist all
  images : kept.map Token.image = names
  lost : ∀ x ∈ all, x ∈ kept ↔ ¬Lost x

namespace Retains

theorem whole (all : List Token) : Retains all all (all.map Token.image) fun _ => False :=
  ⟨List.Sublist.refl all, rfl, fun _ hx => ⟨fun _ => not_false, fun _ => hx⟩⟩

theorem nothing (all : List Token) : Retains all [] [] fun _ => True :=
  ⟨List.nil_sublist all, rfl, fun _ _ => ⟨fun hx => absurd hx List.not_mem_nil,
    fun hx => absurd trivial hx⟩⟩

theorem congr {all kept : List Token} {names : List Text} {Lost Lost' : Token → Prop}
    (h : Retains all kept names Lost) (hlost : ∀ x ∈ all, Lost x ↔ Lost' x) :
    Retains all kept names Lost' :=
  ⟨h.sublist, h.images, fun x hx => (h.lost x hx).trans (not_congr (hlost x hx))⟩

theorem append {all all' kept kept' : List Token} {names names' : List Text}
    {Lost Lost' : Token → Prop} (h : Retains all kept names Lost)
    (h' : Retains all' kept' names' Lost') (hnodup : (all ++ all').Nodup) :
    Retains (all ++ all') (kept ++ kept') (names ++ names')
      fun x => x ∈ all ∧ Lost x ∨ x ∈ all' ∧ Lost' x where
  sublist := h.sublist.append h'.sublist
  images := by rw [List.map_append, h.images, h'.images]
  lost x hx := by
    obtain ⟨-, -, hdisjoint⟩ := List.nodup_append.mp hnodup
    rcases List.mem_append.mp hx with hx | hx
    · have hx' : x ∉ all' := fun hx' => hdisjoint x hx x hx' rfl
      have hkept : x ∉ kept' := fun hk => hx' (h'.sublist.subset hk)
      simp [hx, hx', hkept, h.lost x hx]
    · have hx' : x ∉ all := fun hx' => hdisjoint x hx' x hx rfl
      have hkept : x ∉ kept := fun hk => hx' (h.sublist.subset hk)
      simp [hx, hx', hkept, h'.lost x hx]

end Retains

/-- The token stands in an argument that makes nothing of it. -/
def LostIn (runs : List (List Token)) (x : Token) : Prop :=
  ∃ run ∈ runs, x ∈ run ∧ (beginsNamed run = false ∨ PassedOver run x)

theorem mem_identifiers {ts : List Token} {x : Token} :
    x ∈ identifiers ts ↔ x ∈ ts ∧ x.kind = .identifier := by
  simp [identifiers]

theorem passedOver_iff {ts : List Token} {x : Token} : PassedOver ts x ↔
    x ∈ (takeArguments (behindName ts)).2 ∨ x ∈ openArgument (behindName ts) ∨
      LostIn (takeArguments (behindName ts)).1 x := by
  constructor
  · intro h
    cases h with
    | behind hx => exact .inl hx
    | unended hx => exact .inr (.inl hx)
    | unnamed hr hx hn => exact .inr (.inr ⟨_, hr, hx, .inl hn⟩)
    | inside hr hx h => exact .inr (.inr ⟨_, hr, hx, .inr h⟩)
  · rintro (hx | hx | ⟨run, hr, hx, hn | h⟩)
    · exact .behind hx
    · exact .unended hx
    · exact .unnamed hr hx hn
    · exact .inside hr hx h

theorem retains_runs {runs : List (List Token)} (hnodup : (identifiers runs.flatten).Nodup)
    (h : ∀ run ∈ runs, (identifiers run).Nodup → ∀ tree, readTokens run = some tree →
      ∃ kept, Retains (identifiers run) kept tree.allNames (PassedOver run)) :
    ∃ kept, Retains (identifiers runs.flatten) kept
      ((runs.filterMap readTokens).flatMap TypeTree.allNames) (LostIn runs) := by
  induction runs with
  | nil =>
    refine ⟨[], (Retains.whole []).congr ?_⟩
    simp
  | cons run runs ih =>
    rw [List.flatten_cons, identifiers_append] at hnodup ⊢
    obtain ⟨hrun, hrest, -⟩ := List.nodup_append.mp hnodup
    obtain ⟨keptRest, hkeptRest⟩ := ih hrest fun run' hr => h run' (List.mem_cons_of_mem run hr)
    -- the part of the argument itself
    have hhere : ∃ kept, Retains (identifiers run) kept
        (([run].filterMap readTokens).flatMap TypeTree.allNames)
        fun x => beginsNamed run = false ∨ PassedOver run x := by
      have hnamed := isSome_readTokens run
      cases hread : readTokens run with
      | none =>
        rw [hread] at hnamed
        refine ⟨[], ?_⟩
        have hnone : ([run].filterMap readTokens) = [] := by simp [hread]
        rw [hnone]
        exact (Retains.nothing _).congr fun x _ => by simp [← hnamed]
      | some tree =>
        rw [hread] at hnamed
        obtain ⟨kept, hkept⟩ := h run List.mem_cons_self hrun tree hread
        refine ⟨kept, ?_⟩
        have hsome : ([run].filterMap readTokens).flatMap TypeTree.allNames = tree.allNames := by
          simp [hread]
        rw [hsome]
        exact hkept.congr fun x _ => by simp [← hnamed]
    obtain ⟨keptHere, hkeptHere⟩ := hhere
    refine ⟨keptHere ++ keptRest, ?_⟩
    have hboth := hkeptHere.append hkeptRest hnodup
    rw [← List.flatMap_append, ← List.filterMap_append, List.singleton_append] at hboth
    apply hboth.congr
    intro x hx
    simp only [LostIn, List.exists_mem_cons_iff, mem_identifiers]
    have hk : x.kind = .identifier := by
      rcases List.mem_append.mp hx with hx | hx <;> exact (mem_identifiers.mp hx).2
    simp only [hk, and_true]
    constructor
    · rintro (h | ⟨-, h⟩)
      · exact .inl h
      · exact .inr h
    · rintro (h | ⟨run', hr, hx, h⟩)
      · exact .inl h
      · exact .inr ⟨List.mem_flatten.mpr ⟨run', hr, hx⟩, run', hr, hx, h⟩

theorem retains_of_readTokens {ts : List Token} {tree : TypeTree} (h : readTokens ts = some tree)
    (hnodup : (identifiers ts).Nodup) :
    ∃ kept, Retains (identifiers ts) kept tree.allNames (PassedOver ts) := by
  induction hl : ts.length using Nat.strongRecOn generalizing ts tree with
  | ind n ih =>
    cases hp : parts? ts with
    | none =>
      rw [readTokens_of_none hp] at h
      cases h
    | some p =>
      rw [readTokens_of_parts hp] at h
      obtain rfl := Option.some.inj h
      obtain ⟨scope, base, hnames⟩ := p.exists_names
      obtain ⟨found, himages, hids, hruns⟩ := identifiers_of_parts hp
      rw [hids] at hnodup ⊢
      obtain ⟨-, hbehindName, -⟩ := List.nodup_append.mp hnodup
      obtain ⟨hinRuns, -, -⟩ := List.nodup_append.mp hbehindName
      obtain ⟨kept, hkept⟩ := retains_runs hinRuns fun run hr hrun a ha => by
        have hne : run ≠ [] := by
          rintro rfl
          rw [readTokens_of_none rfl] at ha
          cases ha
        have hmem : run ∈ p.runs := by
          rw [hruns]
          exact List.mem_filter.mpr ⟨hr, by simpa using hne⟩
        exact ih run.length (hl ▸ (infix_of_parts hp hmem).2) ha hrun rfl
      have hall := (Retains.whole found).append (hkept.append (.nothing _) hbehindName) hnodup
      rw [List.append_nil, List.append_nil, himages, hnames, ← filterMap_readTokens_filled,
        ← hruns] at hall
      refine ⟨found ++ kept, ?_⟩
      rw [p.tree_of_names hnames, TypeTree.allNames_mk]
      apply hall.congr
      intro x hx
      have hk : x.kind = .identifier := by
        rw [← hids] at hx
        exact (mem_identifiers.mp hx).2
      have hin : LostIn (takeArguments (behindName ts)).1 x →
          x ∈ (takeArguments (behindName ts)).1.flatten := by
        rintro ⟨run, hr, hx, -⟩
        exact List.mem_flatten.mpr ⟨run, hr, hx⟩
      simp only [List.mem_append, mem_identifiers, hk, and_true, and_false, false_or,
        passedOver_iff]
      tauto

theorem nodup_tokens (t : Text) : (tokens t).Nodup := by
  have hincreasing (offset : Nat) : ((scan offset t).filterMap Piece.token?).Pairwise
      fun a b => a.start < b.start := by
    fun_induction scan offset t with
    | case1 => exact List.Pairwise.nil
    | case2 offset c r _ ih => exact ih
    | case3 offset c r _ _ word ih =>
      rw [filterMap_token_cons]
      refine List.pairwise_cons.mpr ⟨fun x hx => ?_, ih⟩
      have hstart := scan_start _ _ x hx
      simp only [word, List.length_cons] at hstart
      show offset < x.start
      omega
    | case4 offset c r _ _ _ ih =>
      rw [filterMap_token_cons]
      refine List.pairwise_cons.mpr ⟨fun x hx => ?_, ih⟩
      have hstart := scan_start _ _ x hx
      show offset < x.start
      omega
    | case5 offset c r _ _ _ kind _ ih =>
      rw [filterMap_token_cons]
      exact List.pairwise_cons.mpr ⟨fun x hx => scan_start _ _ x hx, ih⟩
    | case6 offset c r _ _ _ _ ih => exact ih
  apply (hincreasing 0).imp
  rintro a b hab rfl
  exact absurd hab (Nat.lt_irrefl _)

/-! Signatures that are written out in full. -/

/-- The tokens outside square brackets, `depth` of which are open before. -/
def outsideBrackets (depth : Nat) : List Token → List Token
  | [] => []
  | t :: rest =>
    if t.kind = .leftBracket then outsideBrackets (depth + 1) rest
    else if t.kind = .rightBracket then outsideBrackets (depth - 1) rest
    else if depth = 0 then t :: outsideBrackets depth rest
    else outsideBrackets depth rest

/-- How many square brackets are open behind the tokens. -/
def bracketDepth (depth : Nat) : List Token → Nat
  | [] => depth
  | t :: rest =>
    if t.kind = .leftBracket then bracketDepth (depth + 1) rest
    else if t.kind = .rightBracket then bracketDepth (depth - 1) rest
    else bracketDepth depth rest

/-- What may stand behind the arguments: array suffixes and qualifiers. -/
def IsSuffix (ts : List Token) : Prop :=
  bracketDepth 0 ts = 0 ∧
    ∀ x ∈ outsideBrackets 0 ts, x.kind = .const ∨ x.kind = .asterisk ∨ x.kind = .ampersand

instance (ts : List Token) : Decidable (IsSuffix ts) := inferInstanceAs (Decidable (_ ∧ _))

/-- A name, closed arguments of the same form or empty ones, and a suffix. -/
inductive WellFormed : List Token → Prop
  | mk {isConst : Bool} {names : List Text} {runs : List (List Token)} {tail : List Token}
      (hnames : names ≠ []) (hclosed : ∀ run ∈ runs, Enclosed run)
      (hruns : ∀ run ∈ runs, run ≠ [] → WellFormed run) (htail : IsSuffix tail) :
    WellFormed (markIf isConst .constMark ++
      (Token.joinNames names ++ Token.inAngles runs ++ tail))

theorem outsideBrackets_append (depth : Nat) (ts us : List Token) :
    outsideBrackets depth (ts ++ us) =
      outsideBrackets depth ts ++ outsideBrackets (bracketDepth depth ts) us := by
  fun_induction outsideBrackets depth ts <;> simp_all [outsideBrackets, bracketDepth]

theorem bracketDepth_append (depth : Nat) (ts us : List Token) :
    bracketDepth depth (ts ++ us) = bracketDepth (bracketDepth depth ts) us := by
  fun_induction bracketDepth depth ts <;> simp_all [bracketDepth]

theorem outsideBrackets_essence (depth : Nat) (ts : List Token) :
    outsideBrackets depth (ts.map Token.essence) =
      (outsideBrackets depth ts).map Token.essence := by
  induction ts generalizing depth with
  | nil => rfl
  | cons t ts ih =>
    have hl : t.essence.kind = .leftBracket ↔ t.kind = .leftBracket :=
      Token.essence_kind (by decide) (by decide)
    have hr : t.essence.kind = .rightBracket ↔ t.kind = .rightBracket :=
      Token.essence_kind (by decide) (by decide)
    simp only [List.map_cons, outsideBrackets, hl, hr, ih]
    split
    · rfl
    · split
      · rfl
      · split <;> rfl

theorem namesIn_essence (ts : List Token) : namesIn (ts.map Token.essence) = namesIn ts := by
  induction ts with
  | nil => rfl
  | cons t ts ih =>
    have hk : t.essence.kind = .identifier ↔ t.kind = .identifier :=
      Token.essence_kind (by decide) (by decide)
    by_cases h : t.kind = .identifier
    · rw [List.map_cons, namesIn_cons_of_identifier (hk.mpr h), namesIn_cons_of_identifier h,
        Token.essence_image h, ih]
    · rw [List.map_cons, namesIn, identifiers_of_ne (mt hk.mp h), namesIn, identifiers_of_ne h]
      exact ih

/-- The brackets are closed, and the names outside them are these. -/
structure Bracketed (ts : List Token) (names : List Text) : Prop where
  closed : bracketDepth 0 ts = 0
  names : namesIn (outsideBrackets 0 ts) = names

namespace Bracketed

theorem nil : Bracketed [] [] := ⟨rfl, rfl⟩

theorem append {ts us : List Token} {names others : List Text} (h : Bracketed ts names)
    (hu : Bracketed us others) : Bracketed (ts ++ us) (names ++ others) where
  closed := by rw [bracketDepth_append, h.closed, hu.closed]
  names := by
    rw [outsideBrackets_append, h.closed, namesIn, identifiers_append, List.map_append]
    exact congrArg₂ (· ++ ·) h.names hu.names

theorem join {α : Type} {run : α → List Token} {names : α → List Text} {mark : Token}
    (hmark : Bracketed [mark] []) {xs : List α} (h : ∀ x ∈ xs, Bracketed (run x) (names x)) :
    Bracketed (Token.join mark (xs.map run)) (xs.flatMap names) := by
  match xs with
  | [] => exact nil
  | [x] =>
    have hx := h x List.mem_cons_self
    simpa [Token.join] using hx
  | x :: y :: xs =>
    have hx := h x List.mem_cons_self
    have hrest : Bracketed (Token.join mark ((y :: xs).map run)) ((y :: xs).flatMap names) :=
      join hmark fun z hz => h z (List.mem_cons_of_mem x hz)
    exact hx.append (hmark.append hrest)

theorem joinNames (names : List Text) : Bracketed (Token.joinNames names) names := by
  have hnames : Bracketed (Token.joinNames names) (names.flatMap fun n => [n]) :=
    join ⟨rfl, rfl⟩ fun n _ => ⟨rfl, rfl⟩
  rwa [List.flatMap_singleton'] at hnames

theorem inAngles {runs : List (List Token)} {names : List Token → List Text}
    (h : ∀ run ∈ runs, Bracketed run (names run)) :
    Bracketed (Token.inAngles runs) (runs.flatMap names) := by
  have hjoin : Bracketed (Token.join .commaMark (runs.map id)) (runs.flatMap names) :=
    join ⟨rfl, rfl⟩ h
  rw [List.map_id] at hjoin
  cases runs with
  | nil => exact nil
  | cons run runs =>
    have hopen : Bracketed [.openAngle] [] := ⟨rfl, rfl⟩
    have hclose : Bracketed [.closeAngle] [] := ⟨rfl, rfl⟩
    have hwhole := hopen.append (hjoin.append hclose)
    rwa [List.append_nil] at hwhole

end Bracketed

namespace IsSuffix

variable {ts : List Token} (h : IsSuffix ts)
include h

theorem bracketed : Bracketed ts [] where
  closed := h.1
  names := by
    rw [namesIn, List.map_eq_nil_iff, identifiers, List.filter_eq_nil_iff]
    intro x hx
    rcases h.2 x hx with hk | hk | hk <;> simp [hk]

theorem head : ∀ x ∈ ts.head?, x.isSeparator = false ∧ x.kind ≠ .leftAngle := by
  intro x hx
  obtain ⟨rest, rfl⟩ := List.head?_eq_some_iff.mp hx
  by_cases hl : x.kind = .leftBracket
  · simp [Token.isSeparator, hl]
  by_cases hr : x.kind = .rightBracket
  · simp [Token.isSeparator, hr]
  have hout : x ∈ outsideBrackets 0 (x :: rest) := by simp [outsideBrackets, hl, hr]
  rcases h.2 x hout with hk | hk | hk <;> simp [Token.isSeparator, hk]

end IsSuffix

theorem readTokens_of_wellFormed {ts : List Token} (h : WellFormed ts) :
    ∃ tree, readTokens ts = some tree ∧ Bracketed ts tree.allNames := by
  induction h with
  | @mk isConst names runs tail hnames hclosed _ htail ih =>
    obtain ⟨scope, base, rfl⟩ : ∃ scope base, names = scope ++ [base] :=
      ⟨_, _, (List.dropLast_concat_getLast hnames).symm⟩
    refine ⟨_, readTokens_written (fun run hr => (hclosed run hr).passes) isConst htail.head
      scope base, ?_⟩
    have harguments : ∀ run ∈ runs,
        Bracketed run ((readTokens run).toList.flatMap TypeTree.allNames) := by
      intro run hr
      cases run with
      | nil =>
        rw [readTokens_of_none rfl]
        exact .nil
      | cons t run =>
        obtain ⟨tree, hread, hnames⟩ := ih (t :: run) hr (List.cons_ne_nil t run)
        rw [hread]
        simpa using hnames
    have hconst : Bracketed (markIf isConst .constMark) [] := by cases isConst <;> exact ⟨rfl, rfl⟩
    have hwhole := hconst.append (((Bracketed.joinNames (scope ++ [base])).append
      (.inAngles harguments)).append htail.bracketed)
    rw [TypeTree.allNames_mk]
    rw [List.append_nil, List.nil_append] at hwhole
    have hflat : (runs.filterMap readTokens).flatMap TypeTree.allNames =
        runs.flatMap fun run => (readTokens run).toList.flatMap TypeTree.allNames := by
      rw [List.filterMap_eq_flatMap_toList, List.flatMap_assoc]
    rwa [hflat]

/-- A text that has no bracket at all, and whose tree has the first of two names only. -/
theorem parse?_names_dropped : ∃ tree, parse? "unsigned int" = some tree ∧
    tree.allNames = ["unsigned".toList] ∧
    namesIn (outsideBrackets 0 (tokens "unsigned int")) = ["unsigned".toList, "int".toList] := by
  have hnames : (parse? "unsigned int").map TypeTree.allNames = some ["unsigned".toList] := by
    decide +kernel
  obtain ⟨tree, htree, hall⟩ := Option.map_eq_some_iff.mp hnames
  exact ⟨tree, htree, hall, by decide +kernel⟩

/-- The names of a tree are the identifiers of its text that are not passed over, in the order of
the text; and where the text is written out in full, they are all that stand outside square
brackets. -/
theorem parse?_names (t : Text) (tree : TypeTree) (h : parse? t = some tree) :
    (∃ kept : List Token, kept.Sublist (tokens t) ∧ kept.map Token.image = tree.allNames ∧
      ∀ x ∈ tokens t, x ∈ kept ↔ x.kind = .identifier ∧ ¬PassedOver (tokens t) x) ∧
    (WellFormed ((tokens t).map Token.essence) →
      tree.allNames = namesIn (outsideBrackets 0 (tokens t))) := by
  have hread : readTokens (tokens t) = some tree := by
    rwa [parse?_of_harmless (harmless_gist.mp (harmless_of_parse? h))] at h
  constructor
  · obtain ⟨kept, hkept⟩ :=
      retains_of_readTokens hread ((nodup_tokens t).sublist List.filter_sublist)
    refine ⟨kept, hkept.sublist.trans List.filter_sublist, hkept.images, ?_⟩
    intro x hx
    constructor
    · intro hk
      have hid := hkept.sublist.subset hk
      exact ⟨(mem_identifiers.mp hid).2, (hkept.lost x hid).mp hk⟩
    · rintro ⟨hk, hlost⟩
      exact (hkept.lost x (mem_identifiers.mpr ⟨hx, hk⟩)).mpr hlost
  · intro hformed
    obtain ⟨other, hother, hnames⟩ := readTokens_of_wellFormed hformed
    rw [readTokens_map, hread] at hother
    obtain rfl := Option.some.inj hother
    rw [← hnames.names, outsideBrackets_essence, namesIn_essence]

/-- Written out in full, with an empty argument and with a name between brackets. -/
theorem parse?_names_sample : ∃ tree,
    parse? "const std.map<a::Key[n] &, list<int *>,> [3] const" = some tree ∧
      tree.allNames = namesIn (outsideBrackets 0
        (tokens "const std.map<a::Key[n] &, list<int *>,> [3] const")) := by
  obtain ⟨tree, htree⟩ := Option.isSome_iff_exists.mp (show (parse?
    "const std.map<a::Key[n] &, list<int *>,> [3] const").isSome by decide +kernel)
  refine ⟨tree, htree, (parse?_names _ tree htree).2 ?_⟩
  have hkey : WellFormed [.named "a", .scopeMark, .named "Key", .openBracket, .named "n",
      .closeBracket, .referenceMark] :=
    @WellFormed.mk false ["a", "Key"] [] [.openBracket, .named "n", .closeBracket, .referenceMark]
      (by decide) (List.forall_mem_nil _) (List.forall_mem_nil _) (by decide)
  have hint : WellFormed [.named "int", .pointerMark] :=
    @WellFormed.mk false ["int"] [] [.pointerMark] (by decide) (List.forall_mem_nil _)
      (List.forall_mem_nil _) (by decide)
  have hlist : WellFormed [.named "list", .openAngle, .named "int", .pointerMark, .closeAngle] :=
    @WellFormed.mk false ["list"] [[.named "int", .pointerMark]] [] (by decide) (by decide)
      (List.forall_mem_singleton.mpr fun _ => hint) (by decide)
  have hwhole := @WellFormed.mk true ["std", "map"]
    [[.named "a", .scopeMark, .named "Key", .openBracket, .named "n", .closeBracket,
      .referenceMark], [.named "list", .openAngle, .named "int", .pointerMark, .closeAngle], []]
    [.openBracket, .closeBracket, .constMark] (by decide) (by decide)
    (List.forall_mem_cons.mpr ⟨fun _ => hkey, List.forall_mem_cons.mpr ⟨fun _ => hlist,
      List.forall_mem_singleton.mpr fun hne => absurd rfl hne⟩⟩) (by decide)
  have htokens : (tokens "const std.map<a::Key[n] &, list<int *>,> [3] const").map Token.essence =
      markIf true .constMark ++ (Token.joinNames ["std", "map"] ++ Token.inAngles
        [[.named "a", .scopeMark, .named "Key", .openBracket, .named "n", .closeBracket,
          .referenceMark], [.named "list", .openAngle, .named "int", .pointerMark, .closeAngle],
          []] ++ [.openBracket, .closeBracket, .constMark]) := by
    decide +kernel
  rwa [htokens]

end TypeAtlas
