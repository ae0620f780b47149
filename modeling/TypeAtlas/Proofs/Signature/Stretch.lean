import TypeAtlas.Signature.Parser

/-!
Reading a stretch of a text that begins and ends with a token. It yields what the whole text has
between the two, at the same places.
-/

namespace TypeAtlas

namespace Piece

def start : Piece → Nat
  | token t => t.start
  | stray s => s.offset

def stop : Piece → Nat
  | token t => t.stop
  | stray s => s.offset + 1

end Piece

/-- A text that does not go on with the word before it. -/
def Parted (t : Text) : Prop := ∀ c ∈ t.head?, isWord c = false

theorem parted_nil : Parted [] := by
  intro c hc
  cases hc

theorem parted_cons {c : Char} {t : Text} (h : isWord c = false) : Parted (c :: t) := by
  intro d hd
  cases hd
  exact h

theorem parted_dropWhile (t : Text) : Parted (t.dropWhile isWord) := by
  intro c hc
  have h := List.head?_dropWhile_not isWord t
  rw [Option.mem_def] at hc
  rw [hc] at h
  exact h

/-- A text that begins as another one does, or is set off from what stands before it. -/
def GoesOn (u t : Text) : Prop := ∀ c ∈ u.head?, t.head? = some c ∨ isBlank c = true

theorem goesOn_of_start {u t : Text} (h : u <+: t) : GoesOn u t := by
  intro c hc
  obtain ⟨v, rfl⟩ := h
  cases u with
  | nil => cases hc
  | cons d u => exact .inl hc

theorem goesOn_blanks (t : Text) {blanks : Text} (h : ∀ c ∈ blanks, isBlank c = true) :
    GoesOn (t ++ blanks) t := by
  intro c hc
  cases t with
  | nil => exact .inr (h c (List.mem_of_mem_head? hc))
  | cons d t => exact .inl hc

theorem Parted.goesOn {t u : Text} (h : Parted t) (hu : GoesOn u t) : Parted u := by
  intro c hc
  rcases hu c hc with ht | hb
  · exact h c ht
  · exact isWord_of_isBlank hb

theorem Parted.takeWhile {t : Text} (h : Parted t) : t.takeWhile isWord = [] := by
  cases t with
  | nil => rfl
  | cons c t => simp [h c rfl]

theorem Parted.dropWhile {t : Text} (h : Parted t) : t.dropWhile isWord = t := by
  cases t with
  | nil => rfl
  | cons c t => simp [h c rfl]

theorem takeWhile_parted {w rest : Text} (hw : ∀ c ∈ w, isWord c = true) (h : Parted rest) :
    (w ++ rest).takeWhile isWord = w := by
  rw [List.takeWhile_append_of_pos hw, h.takeWhile, List.append_nil]

theorem dropWhile_parted {w rest : Text} (hw : ∀ c ∈ w, isWord c = true) (h : Parted rest) :
    (w ++ rest).dropWhile isWord = rest := by
  rw [List.dropWhile_append_of_pos hw, h.dropWhile]

theorem scan_blank {c : Char} (h : isBlank c = true) (offset : Nat) (rest : Text) :
    scan offset (c :: rest) = scan (offset + 1) rest := by
  rw [scan_cons, if_pos h]

theorem scan_word {c : Char} {w rest : Text} (hb : isBlank c = false) (hc : isNameStart c = true)
    (hw : ∀ d ∈ w, isWord d = true) (h : Parted rest) (offset : Nat) :
    scan offset (c :: w ++ rest) =
      .token ⟨.ofWord (c :: w), c :: w, offset⟩ :: scan (offset + (c :: w).length) rest := by
  rw [List.cons_append, scan_cons, if_neg (by simp [hb]), if_pos hc]
  simp only [takeWhile_parted hw h, dropWhile_parted hw h]

theorem scan_scope (offset : Nat) (rest : Text) :
    scan offset (':' :: ':' :: rest) = .token ⟨.scope, "::", offset⟩ :: scan (offset + 2) rest := by
  rw [scan_cons, if_neg (by decide), if_neg (by decide), if_pos ⟨rfl, rfl⟩]
  rfl

/-- What is read of a single character, where it is neither a blank nor begins a word or `::`. -/
def signAt (offset : Nat) (c : Char) : Piece :=
  match TokenKind.ofChar? c with
  | some kind => .token ⟨kind, [c], offset⟩
  | none => .stray ⟨offset, c⟩

theorem scan_sign {c : Char} {rest : Text} (hb : isBlank c = false) (hn : isNameStart c = false)
    (hs : ¬(c = ':' ∧ rest.head? = some ':')) (offset : Nat) :
    scan offset (c :: rest) = signAt offset c :: scan (offset + 1) rest := by
  rw [scan_cons, if_neg (by simp [hb]), if_neg (by simp [hn]), if_neg hs]
  unfold signAt
  cases TokenKind.ofChar? c <;> rfl

theorem signAt_start (offset : Nat) (c : Char) : (signAt offset c).start = offset := by
  unfold signAt
  cases TokenKind.ofChar? c <;> rfl

theorem signAt_stop (offset : Nat) (c : Char) : (signAt offset c).stop = offset + 1 := by
  unfold signAt
  cases TokenKind.ofChar? c <;> rfl

/-- Reading goes forward by some characters that make up one piece or are a blank, and it does so
whether the text is cut off or set off behind them. -/
theorem scan_step (offset : Nat) {t : Text} (ht : t ≠ []) :
    ∃ (u rest : Text) (found : List Piece), t = u ++ rest ∧ u ≠ [] ∧
      (found = [] ∨ ∃ p, found = [p] ∧ p.start = offset ∧ p.stop = offset + u.length) ∧
      ∀ v, GoesOn v rest → scan offset (u ++ v) = found ++ scan (offset + u.length) v := by
  obtain ⟨c, r, rfl⟩ := List.exists_cons_of_ne_nil ht
  cases hb : isBlank c with
  | true => exact ⟨[c], r, [], rfl, by simp, .inl rfl, fun v _ => scan_blank hb offset v⟩
  | false =>
    cases hn : isNameStart c with
    | true =>
      refine ⟨c :: r.takeWhile isWord, r.dropWhile isWord,
        [.token ⟨.ofWord (c :: r.takeWhile isWord), c :: r.takeWhile isWord, offset⟩], ?_, by simp,
        .inr ⟨_, rfl, rfl, rfl⟩, ?_⟩
      · rw [List.cons_append, List.takeWhile_append_dropWhile]
      · intro v hv
        exact scan_word hb hn (List.all_eq_true.mp List.all_takeWhile)
          ((parted_dropWhile r).goesOn hv) offset
    | false =>
      by_cases hs : c = ':' ∧ r.head? = some ':'
      · obtain ⟨rfl, hr⟩ := hs
        obtain ⟨r', rfl⟩ := List.head?_eq_some_iff.mp hr
        exact ⟨[':', ':'], r', [.token ⟨.scope, "::", offset⟩], rfl, by simp,
          .inr ⟨_, rfl, rfl, rfl⟩, fun v _ => scan_scope offset v⟩
      · refine ⟨[c], r, [signAt offset c], rfl, by simp,
          .inr ⟨_, rfl, signAt_start offset c, signAt_stop offset c⟩, ?_⟩
        intro v hv
        apply scan_sign hb hn
        rintro ⟨hc, hd⟩
        rcases hv ':' hd with hr | hblank
        · exact hs ⟨hc, hr⟩
        · exact absurd hblank (by decide)

theorem scan_blanks {blanks : Text} (h : ∀ c ∈ blanks, isBlank c = true) (offset : Nat) :
    scan offset blanks = [] := by
  induction blanks generalizing offset with
  | nil => rw [scan_nil]
  | cons c blanks ih =>
    rw [scan_blank (h c List.mem_cons_self), ih fun d hd => h d (List.mem_cons_of_mem c hd)]

/-- Blanks at the end add nothing. -/
theorem scan_append_blanks (t : Text) {blanks : Text} (h : ∀ c ∈ blanks, isBlank c = true)
    (offset : Nat) : scan offset (t ++ blanks) = scan offset t := by
  induction hl : t.length using Nat.strongRecOn generalizing t offset with
  | ind n ih =>
    cases t with
    | nil => rw [List.nil_append, scan_blanks h, scan_nil]
    | cons c r =>
      obtain ⟨u, rest, found, ht, hu, -, hscan⟩ := scan_step offset (List.cons_ne_nil c r)
      have hpos : 0 < u.length := List.length_pos_iff.mpr hu
      rw [ht, List.length_append] at hl
      rw [ht, List.append_assoc, hscan _ (goesOn_blanks rest h),
        hscan _ (goesOn_of_start List.prefix_rfl), ih rest.length (by omega) rest _ rfl]

/-- The text around a piece: reading from the piece on finds it and what follows it, and reading a
text that is cut off behind the piece finds all there is up to it. -/
theorem scan_around {offset : Nat} {t : Text} {before after : List Piece} {p : Piece}
    (h : scan offset t = before ++ p :: after) :
    ∃ a u b : Text, t = a ++ (u ++ b) ∧ p.start = offset + a.length ∧
      p.stop = p.start + u.length ∧ scan p.start (u ++ b) = p :: after ∧
      scan offset (a ++ u) = before ++ [p] := by
  induction hl : t.length using Nat.strongRecOn generalizing offset t before with
  | ind n ih =>
    have ht : t ≠ [] := by
      rintro rfl
      simp at h
    obtain ⟨u, rest, found, rfl, hu, hfound, hscan⟩ := scan_step offset ht
    have hpos : 0 < u.length := List.length_pos_iff.mpr hu
    have hwhole := hscan rest (goesOn_of_start List.prefix_rfl)
    -- the piece lies behind what the first step reads
    have hlater : ∀ earlier, scan (offset + u.length) rest = earlier ++ p :: after →
        before = found ++ earlier → ∃ a w b : Text, u ++ rest = a ++ (w ++ b) ∧
          p.start = offset + a.length ∧ p.stop = p.start + w.length ∧
          scan p.start (w ++ b) = p :: after ∧ scan offset (a ++ w) = before ++ [p] := by
      intro earlier he hb
      obtain ⟨a, w, b, rfl, hs, he', hf, hc⟩ :=
        ih rest.length (by rw [← hl, List.length_append]; omega) he rfl
      refine ⟨u ++ a, w, b, by simp, ?_, he', hf, ?_⟩
      · rw [hs, List.length_append]
        omega
      · rw [List.append_assoc, hscan (a ++ w) (goesOn_of_start ⟨b, by simp⟩), hc, hb,
          List.append_assoc]
    rcases hfound with rfl | ⟨q, rfl, hstart, hstop⟩
    · exact hlater before (by rw [← h, hwhole]; rfl) rfl
    · rw [h] at hwhole
      cases before with
      | nil =>
        simp only [List.nil_append, List.cons_append, List.cons.injEq] at hwhole
        obtain ⟨rfl, hafter⟩ := hwhole
        refine ⟨[], u, rest, rfl, by simpa using hstart, by rw [hstop, hstart], ?_, ?_⟩
        · rw [hstart, h]
          rfl
        · simpa using hscan [] (goesOn_of_start List.nil_prefix)
      | cons q' before =>
        simp only [List.nil_append, List.cons_append, List.cons.injEq] at hwhole
        obtain ⟨rfl, hafter⟩ := hwhole
        exact hlater before hafter.symm rfl

/-- The stretch from one token to another one holds exactly what the text has there. -/
theorem scan_spanOf {t : Text} {run : List Token} {first : Token} (h : run <:+: tokens t)
    (hf : run.head? = some first) :
    ∃ before seg after, pieces t = before ++ seg ++ after ∧ seg.filterMap Piece.token? = run ∧
      scan first.start (spanOf t run) = seg := by
  obtain ⟨rest, rfl⟩ := List.head?_eq_some_iff.mp hf
  obtain ⟨left, right, hall⟩ := h
  simp only [List.append_assoc] at hall
  obtain ⟨before, mid, hpieces, hleft, hmid⟩ := List.filterMap_eq_append_iff.mp hall.symm
  obtain ⟨strays, p, tail, rfl, hstrays, hp, htail⟩ := List.filterMap_eq_cons_iff.mp hmid
  have hp : p = .token first := by
    cases p <;> simp_all [Piece.token?]
  subst hp
  rw [← List.append_assoc] at hpieces
  obtain ⟨a, u, b, ht, hstart, hstop, hfrom, -⟩ := scan_around hpieces
  -- the last token, as a piece of what is read from the first one on
  obtain ⟨inner, last, hlast⟩ : ∃ inner last, first :: rest = inner ++ [last] :=
    ⟨_, _, (List.dropLast_concat_getLast (List.cons_ne_nil first rest)).symm⟩
  have hsplit : (Piece.token first :: tail).filterMap Piece.token? =
      inner ++ last :: right := by
    rw [filterMap_token_cons, htail]
    exact (congrArg (· ++ right) hlast).trans (List.append_assoc inner [last] right)
  obtain ⟨seg, tail', hseg, hinner, htail'⟩ := List.filterMap_eq_append_iff.mp hsplit
  obtain ⟨strays', q, after, rfl, hstrays', hq, hafter⟩ := List.filterMap_eq_cons_iff.mp htail'
  have hq : q = .token last := by
    cases q <;> simp_all [Piece.token?]
  subst hq
  rw [hseg, ← List.append_assoc] at hfrom
  obtain ⟨a', u', b', ht', hstart', hstop', -, hcut⟩ := scan_around hfrom
  refine ⟨before ++ strays, seg ++ strays' ++ [.token last], after, ?_, ?_, ?_⟩
  · rw [hpieces, hseg]
    simp
  · rw [List.filterMap_append, List.filterMap_append, hinner,
      List.filterMap_eq_nil_iff.mpr hstrays', List.append_nil, hlast]
    rfl
  · rw [← hcut]
    congr 1
    have hfirst : first.start = a.length := by simpa [Piece.start] using hstart
    have hend : last.stop = first.start + (a' ++ u').length := by
      simp only [Piece.start, Piece.stop] at hstart' hstop'
      rw [hstop', hstart', List.length_append]
      omega
    have hlast? : (first :: rest).getLast? = some last := by
      rw [hlast, List.getLast?_concat]
    simp only [spanOf, List.head?_cons, hlast?, Text.slice]
    rw [hend, Nat.add_sub_cancel_left, hfirst, ht, List.drop_left, ht', ← List.append_assoc,
      List.take_left]

end TypeAtlas
