import Mathlib.Data.List.Basic
import TypeAtlas.Proofs.Signature.Stretch

/-!
The pieces of a text lie side by side. Every character belongs to one token, is one stray, or is a
blank; and what lies between two tokens is found again when the stretch from the one to the other is
read alone.
-/

namespace TypeAtlas

/-! Pieces further on in a text. -/

/-- The same token with `n` characters more in front of it. -/
def Token.shifted (n : Nat) (k : Token) : Token := { k with start := n + k.start }

def Stray.shifted (n : Nat) (s : Stray) : Stray := { s with offset := n + s.offset }

namespace Piece

def shifted (n : Nat) : Piece → Piece
  | token k => .token (k.shifted n)
  | stray s => .stray (s.shifted n)

/-- The characters that make up the piece. -/
def text : Piece → Text
  | token k => k.image
  | stray s => [s.char]

def covers (i : Nat) (p : Piece) : Bool := p.start ≤ i && i < p.stop

theorem stop_eq (p : Piece) : p.stop = p.start + p.text.length := by
  cases p <;> rfl

end Piece

def Token.covers (i : Nat) (k : Token) : Bool := k.start ≤ i && i < k.stop

/-- Reading does not look at places. -/
theorem scan_shifted (n offset : Nat) (t : Text) :
    scan (n + offset) t = (scan offset t).map (Piece.shifted n) := by
  induction hl : t.length using Nat.strongRecOn generalizing t offset with
  | ind m ih =>
    cases t with
    | nil => rw [scan_nil, scan_nil, List.map_nil]
    | cons c r =>
      -- every kind of piece goes on with some shorter rest
      have hrest (k : Nat) (u : Text) (hu : u.length ≤ r.length) :
          scan (n + offset + k) u = (scan (offset + k) u).map (Piece.shifted n) := by
        rw [Nat.add_assoc]
        exact ih u.length (by rw [← hl, List.length_cons]; omega) (offset + k) u rfl
      have htail : r.tail.length ≤ r.length := by simp
      rw [scan_cons, scan_cons, hrest 1 r (Nat.le_refl _), hrest 2 r.tail htail,
        hrest _ _ (length_dropWhile_le isWord r)]
      split
      · rfl
      split
      · rfl
      split
      · rfl
      split <;> rfl

/-! How pieces and blanks make up a text. -/

/-- A text from `offset` on is made up of pieces with blanks between them. -/
inductive LaidOut : Nat → Text → List Piece → Prop
  | nil (offset : Nat) : LaidOut offset [] []
  | blank {offset : Nat} {c : Char} {t : Text} {ps : List Piece} (hc : isBlank c = true)
      (rest : LaidOut (offset + 1) t ps) : LaidOut offset (c :: t) ps
  | piece {p : Piece} {t : Text} {ps : List Piece} (hne : p.text ≠ [])
      (hb : ∀ c ∈ p.text, isBlank c = false) (rest : LaidOut p.stop t ps) :
      LaidOut p.start (p.text ++ t) (p :: ps)

theorem isBlank_of_isWord {c : Char} (h : isWord c = true) : isBlank c = false := by
  rw [← Bool.not_eq_true]
  intro hb
  rw [isWord_of_isBlank hb] at h
  cases h

theorem laidOut_scan (offset : Nat) (t : Text) : LaidOut offset t (scan offset t) := by
  fun_induction scan offset t with
  | case1 offset => exact .nil offset
  | case2 offset c r hc ih => exact .blank hc ih
  | case3 offset c r hb hc word ih =>
    have hword : ∀ d ∈ word, isBlank d = false := by
      refine List.forall_mem_cons.mpr ⟨isBlank_of_isWord (isWord_of_isNameStart hc), ?_⟩
      exact fun d hd => isBlank_of_isWord (List.all_eq_true.mp List.all_takeWhile d hd)
    have htext : c :: r = word ++ r.dropWhile isWord := by
      rw [List.cons_append, List.takeWhile_append_dropWhile]
    rw [htext]
    exact .piece (p := .token ⟨.ofWord word, word, offset⟩) (List.cons_ne_nil _ _) hword ih
  | case4 offset c r hb hn hs ih =>
    obtain ⟨rfl, hr⟩ := hs
    obtain ⟨r', rfl⟩ := List.head?_eq_some_iff.mp hr
    have hmark : ∀ d ∈ "::".toList, isBlank d = false :=
      List.forall_mem_cons.mpr ⟨rfl, List.forall_mem_singleton.mpr rfl⟩
    exact .piece (p := .token ⟨.scope, "::", offset⟩) (List.cons_ne_nil _ _) hmark ih
  | case5 offset c r hb hn hs kind hkind ih =>
    exact .piece (p := .token ⟨kind, [c], offset⟩) (List.cons_ne_nil _ _)
      (by simpa [Piece.text] using hb) ih
  | case6 offset c r hb hn hs hnone ih =>
    exact .piece (p := .stray ⟨offset, c⟩) (List.cons_ne_nil _ _)
      (by simpa [Piece.text] using hb) ih

namespace LaidOut

variable {offset : Nat} {t : Text} {ps : List Piece}

theorem bounds (h : LaidOut offset t ps) :
    ∀ p ∈ ps, offset ≤ p.start ∧ p.start < p.stop ∧ p.stop ≤ offset + t.length := by
  induction h with
  | nil => nofun
  | blank _ _ ih =>
    intro p hp
    have := ih p hp
    rw [List.length_cons]
    omega
  | @piece q t ps hne _ _ ih =>
    have hpos : 0 < q.text.length := List.length_pos_iff.mpr hne
    have hstop := q.stop_eq
    rw [List.forall_mem_cons, List.length_append]
    refine ⟨by omega, fun p hp => ?_⟩
    have := ih p hp
    omega

/-- No piece begins before the one in front of it has ended. -/
theorem ordered (h : LaidOut offset t ps) : ps.Pairwise fun p q => p.stop ≤ q.start := by
  induction h with
  | nil => exact .nil
  | blank _ _ ih => exact ih
  | piece _ _ rest ih => exact .cons (fun q hq => (rest.bounds q hq).1) ih

/-- A piece is what the text has at its place. -/
theorem around (h : LaidOut offset t ps) {p : Piece} (hp : p ∈ ps) :
    p.text ≠ [] ∧ ∃ a b, t = a ++ (p.text ++ b) ∧ p.start = offset + a.length := by
  induction h with
  | nil => cases hp
  | @blank offset c t ps _ _ ih =>
    obtain ⟨hne, a, b, rfl, hstart⟩ := ih hp
    refine ⟨hne, c :: a, b, rfl, ?_⟩
    rw [hstart, List.length_cons]
    omega
  | @piece q t ps hne _ _ ih =>
    rcases List.mem_cons.mp hp with rfl | hp
    · exact ⟨hne, [], t, rfl, rfl⟩
    · obtain ⟨hne, a, b, rfl, hstart⟩ := ih hp
      refine ⟨hne, q.text ++ a, b, (List.append_assoc _ _ _).symm, ?_⟩
      rw [hstart, q.stop_eq, List.length_append]
      omega

theorem countP_covers_eq_zero (h : LaidOut offset t ps) {i : Nat} (hi : i < offset) :
    ps.countP (·.covers i) = 0 := by
  rw [List.countP_eq_zero]
  intro p hp hcovers
  have := (h.bounds p hp).1
  rw [Piece.covers, Bool.and_eq_true, decide_eq_true_eq] at hcovers
  omega

/-- Each character is a blank or belongs to one piece. -/
theorem countP_covers (h : LaidOut offset t ps) {i : Nat} {c : Char} (hc : t[i]? = some c) :
    ps.countP (·.covers (offset + i)) + (if isBlank c then 1 else 0) = 1 := by
  induction h generalizing i with
  | nil => cases hc
  | @blank offset d t ps hd rest ih =>
    cases i with
    | zero =>
      cases hc
      rw [rest.countP_covers_eq_zero (by omega), if_pos hd]
    | succ i =>
      have hrest := ih hc
      rwa [Nat.add_right_comm] at hrest
  | @piece p t ps hne hb rest ih =>
    have hstop := p.stop_eq
    rw [List.countP_cons]
    by_cases hi : i < p.text.length
    · rw [List.getElem?_append_left hi] at hc
      have hcovered : p.covers (p.start + i) = true := by
        simp only [Piece.covers, Bool.and_eq_true, decide_eq_true_eq]
        omega
      rw [rest.countP_covers_eq_zero (by omega), if_pos hcovered,
        hb c (List.mem_of_getElem? hc)]
      rfl
    · have hpast : p.covers (p.start + i) = false := by
        simp only [Piece.covers, Bool.and_eq_false_iff, decide_eq_false_iff_not]
        omega
      rw [List.getElem?_append_right (by omega)] at hc
      have hrest := ih hc
      have hplace : p.stop + (i - p.text.length) = p.start + i := by omega
      rw [hplace] at hrest
      rw [hpast]
      exact hrest

end LaidOut

/-! Tokens and strays apart. -/

theorem mem_filterMap_token {ps : List Piece} {k : Token} :
    k ∈ ps.filterMap Piece.token? ↔ .token k ∈ ps := by
  rw [List.mem_filterMap]
  constructor
  · rintro ⟨p, hp, hk⟩
    cases p with
    | token k' =>
      cases hk
      exact hp
    | stray => cases hk
  · exact fun hk => ⟨_, hk, rfl⟩

theorem mem_filterMap_stray {ps : List Piece} {s : Stray} :
    s ∈ ps.filterMap Piece.stray? ↔ .stray s ∈ ps := by
  rw [List.mem_filterMap]
  constructor
  · rintro ⟨p, hp, hs⟩
    cases p with
    | token => cases hs
    | stray s' =>
      cases hs
      exact hp
  · exact fun hs => ⟨_, hs, rfl⟩

theorem countP_pieces (i : Nat) (ps : List Piece) :
    (ps.filterMap Piece.token?).countP (·.covers i) +
      (ps.filterMap Piece.stray?).countP (·.offset = i) = ps.countP (·.covers i) := by
  induction ps with
  | nil => rfl
  | cons p ps ih =>
    cases p with
    | token k =>
      have hcovers : Piece.covers i (.token k) = k.covers i := rfl
      rw [filterMap_token_cons, List.countP_cons, List.countP_cons, hcovers, ← ih]
      exact Nat.add_right_comm _ _ _
    | stray s =>
      have hcovers : Piece.covers i (.stray s) = decide (s.offset = i) := by
        rw [Piece.covers, ← Bool.decide_and, decide_eq_decide]
        change s.offset ≤ i ∧ i < s.offset + 1 ↔ s.offset = i
        omega
      have hstray : (Piece.stray s :: ps).filterMap Piece.stray? =
          s :: ps.filterMap Piece.stray? := rfl
      rw [filterMap_stray_cons, hstray, List.countP_cons, List.countP_cons, hcovers, ← ih]
      exact (Nat.add_assoc _ _ _).symm

/-! Runs of tokens. -/

/-- Where a run of tokens begins. -/
def runStart (run : List Token) : Nat := (run.head?.map Token.start).getD 0

/-- Where a run of tokens ends. -/
def runStop (run : List Token) : Nat := (run.getLast?.map Token.stop).getD 0

/-- The strays from the first to the last token of a run. -/
def straysWithin (run : List Token) (ss : List Stray) : List Stray :=
  ss.filter fun s => runStart run ≤ s.offset && s.offset < runStop run

theorem spanOf_eq (t : Text) (run : List Token) :
    spanOf t run = t.slice (runStart run) (runStop run) := by
  cases run with
  | nil => exact (List.take_zero).symm
  | cons first rest =>
    obtain ⟨last, hlast⟩ : ∃ last, (first :: rest).getLast? = some last :=
      ⟨_, List.getLast?_eq_some_getLast (List.cons_ne_nil first rest)⟩
    rw [spanOf, runStart, runStop, hlast]
    rfl

theorem filterMap_shifted {α : Type} {f : Piece → Option α} {g : α → α} {n : Nat}
    (h : ∀ p, f (p.shifted n) = (f p).map g) (ps : List Piece) :
    (ps.map (Piece.shifted n)).filterMap f = (ps.filterMap f).map g := by
  rw [List.filterMap_map, List.map_filterMap]
  exact List.filterMap_congr fun p _ => h p

theorem token_shifted (n : Nat) (p : Piece) :
    (p.shifted n).token? = p.token?.map (Token.shifted n) := by
  cases p <;> rfl

theorem stray_shifted (n : Nat) (p : Piece) :
    (p.shifted n).stray? = p.stray?.map (Stray.shifted n) := by
  cases p <;> rfl

/-- The pieces of a text as they lie before, within and behind a run of its tokens; those within are
the pieces of the stretch, each further on by where the run begins. -/
theorem pieces_around {t : Text} {run : List Token} (h : run <:+: tokens t) (hne : run ≠ []) :
    ∃ before seg after, pieces t = before ++ (seg ++ after) ∧
      seg = (pieces (spanOf t run)).map (Piece.shifted (runStart run)) ∧
      seg.filterMap Piece.token? = run ∧ (∀ p ∈ before, p.stop ≤ runStart run) ∧
      (∀ p ∈ seg, runStart run ≤ p.start ∧ p.stop ≤ runStop run) ∧
      ∀ p ∈ after, runStop run ≤ p.start := by
  obtain ⟨first, rest, rfl⟩ := List.exists_cons_of_ne_nil hne
  obtain ⟨last, hlast⟩ : ∃ last, (first :: rest).getLast? = some last :=
    ⟨_, List.getLast?_eq_some_getLast (List.cons_ne_nil first rest)⟩
  have hstart : runStart (first :: rest) = first.start := rfl
  have hstop : runStop (first :: rest) = last.stop := by rw [runStop, hlast]; rfl
  obtain ⟨before, seg, after, hpieces, htokens, hscan⟩ := scan_spanOf h rfl
  rw [List.append_assoc] at hpieces
  have hmem {k : Token} (hk : k ∈ first :: rest) : .token k ∈ seg :=
    mem_filterMap_token.mp (htokens ▸ hk)
  have hfirst := hmem List.mem_cons_self
  have hlast := hmem (List.mem_of_getLast? hlast)
  -- what is in front and behind is told by the order in the whole text, what is within by the
  -- bounds of the stretch
  have hordered := (laidOut_scan 0 t).ordered
  rw [show scan 0 t = before ++ (seg ++ after) from hpieces, List.pairwise_append,
    List.pairwise_append] at hordered
  obtain ⟨-, ⟨-, -, hbehind⟩, hfront⟩ := hordered
  have hbounds := (laidOut_scan first.start (spanOf t (first :: rest))).bounds
  rw [hscan] at hbounds
  have hlength : (spanOf t (first :: rest)).length ≤ last.stop - first.start := by
    rw [spanOf_eq, hstart, hstop, Text.slice, List.length_take]
    exact Nat.min_le_left _ _
  refine ⟨before, seg, after, hpieces, ?_, htokens, ?_, ?_, ?_⟩
  · rw [← hscan, hstart]
    exact scan_shifted first.start 0 _
  · exact fun p hp => hfront p hp _ (List.mem_append_left _ hfirst)
  · intro p hp
    have hp' := hbounds p hp
    rw [hstart, hstop]
    omega
  · rw [hstop]
    exact fun p hp => hbehind _ hlast p hp

theorem tokens_spanOf {t : Text} {run : List Token} (h : run <:+: tokens t) :
    (tokens (spanOf t run)).map (Token.shifted (runStart run)) = run := by
  by_cases hne : run = []
  · subst hne
    rw [show spanOf t [] = [] from rfl, tokens, pieces, scan_nil]
    rfl
  · obtain ⟨before, seg, after, -, hseg, htokens, -⟩ := pieces_around h hne
    rw [tokens, ← filterMap_shifted (token_shifted _), ← hseg, htokens]

theorem strays_spanOf {t : Text} {run : List Token} (h : run <:+: tokens t) :
    (strays (spanOf t run)).map (Stray.shifted (runStart run)) = straysWithin run (strays t) := by
  by_cases hne : run = []
  · subst hne
    rw [show spanOf t [] = [] from rfl, strays, pieces, scan_nil, straysWithin,
      List.filter_eq_nil_iff.mpr]
    · rfl
    · intro s _
      simp [runStop]
  · obtain ⟨before, seg, after, hpieces, hseg, -, hbefore, hwithin, hafter⟩ := pieces_around h hne
    have hnone {ps : List Piece} (hps : ∀ p ∈ ps, p.stop ≤ runStart run ∨ runStop run ≤ p.start) :
        straysWithin run (ps.filterMap Piece.stray?) = [] := by
      rw [straysWithin, List.filter_eq_nil_iff]
      intro s hs hin
      have hapart : s.offset + 1 ≤ runStart run ∨ runStop run ≤ s.offset :=
        hps _ (mem_filterMap_stray.mp hs)
      simp only [Bool.and_eq_true, decide_eq_true_eq] at hin
      omega
    have hall : straysWithin run (seg.filterMap Piece.stray?) = seg.filterMap Piece.stray? := by
      rw [straysWithin, List.filter_eq_self]
      intro s hs
      have hin : runStart run ≤ s.offset ∧ s.offset + 1 ≤ runStop run :=
        hwithin _ (mem_filterMap_stray.mp hs)
      simp only [Bool.and_eq_true, decide_eq_true_eq]
      omega
    have hsplit : straysWithin run (strays t) = straysWithin run (before.filterMap Piece.stray?) ++
        (straysWithin run (seg.filterMap Piece.stray?) ++
          straysWithin run (after.filterMap Piece.stray?)) := by
      rw [strays, hpieces, List.filterMap_append, List.filterMap_append]
      simp only [straysWithin, List.filter_append]
    rw [hsplit, hnone fun p hp => .inl (hbefore p hp), hnone fun p hp => .inr (hafter p hp), hall,
      List.append_nil, List.nil_append, hseg, filterMap_shifted (stray_shifted _)]
    rfl

/-- Tokens and strays come in the order of the text, and tokens do not overlap. Every token is the
part of the text that it spans, which is not empty, and every stray the character at its place. Each
character belongs to one token, is one stray, or is a blank, and only one of these. Reading the
stretch of a run of tokens gives these tokens again and the strays between them, placed from the
start of the run. -/
theorem text_partitioned (t : Text) :
    (tokens t).Pairwise (fun a b => a.stop ≤ b.start) ∧
      (strays t).Pairwise (fun a b => a.offset < b.offset) ∧
      (∀ k ∈ tokens t, k.image = t.slice k.start k.stop ∧ k.image ≠ [] ∧ k.stop ≤ t.length) ∧
      (∀ s ∈ strays t, t[s.offset]? = some s.char) ∧
      (∀ i c, t[i]? = some c → (tokens t).countP (·.covers i) +
        (strays t).countP (·.offset = i) + (if isBlank c then 1 else 0) = 1) ∧
      ∀ run, run <:+: tokens t →
        (tokens (spanOf t run)).map (Token.shifted (runStart run)) = run ∧
          (strays (spanOf t run)).map (Stray.shifted (runStart run)) =
            straysWithin run (strays t) := by
  have hlaid : LaidOut 0 t (pieces t) := laidOut_scan 0 t
  refine ⟨?_, ?_, ?_, ?_, ?_, fun run h => ⟨tokens_spanOf h, strays_spanOf h⟩⟩
  · apply hlaid.ordered.filterMap
    intro p q hpq a ha b hb
    cases p <;> cases ha
    cases q <;> cases hb
    exact hpq
  · apply hlaid.ordered.filterMap
    intro p q hpq a ha b hb
    cases p <;> cases ha
    cases q <;> cases hb
    exact hpq
  · intro k hk
    have hpiece := mem_filterMap_token.mp hk
    obtain ⟨hne, a, b, ht, hstart⟩ := hlaid.around hpiece
    have hstop := (hlaid.bounds _ hpiece).2.2
    rw [Nat.zero_add] at hstart hstop
    refine ⟨?_, hne, hstop⟩
    have hstart : k.start = a.length := hstart
    have ht : t = a ++ (k.image ++ b) := ht
    rw [Text.slice, Token.stop, Nat.add_sub_cancel_left, hstart, ht, List.drop_left, List.take_left]
  · intro s hs
    obtain ⟨-, a, b, ht, hstart⟩ := hlaid.around (mem_filterMap_stray.mp hs)
    have hstart : s.offset = a.length := by simpa [Piece.start] using hstart
    have ht : t = a ++ ([s.char] ++ b) := ht
    rw [ht, hstart, List.getElem?_append_right (Nat.le_refl _), Nat.sub_self]
    rfl
  · intro i c hc
    have hcount := hlaid.countP_covers hc
    rw [Nat.zero_add] at hcount
    rw [tokens, strays, countP_pieces]
    exact hcount

/-- A word that only begins with the keyword, a digit, and two characters that begin no token. -/
def mixedText : Text := "std::map<constα 3, @const> é_x"

theorem text_partitioned_sample :
    [⟨.identifier, "constα", 9⟩, ⟨.comma, ",", 17⟩, ⟨.const, "const", 20⟩] <:+: tokens mixedText ∧
      (tokens "constα 3, @const").map (Token.shifted 9) =
        [⟨.identifier, "constα", 9⟩, ⟨.comma, ",", 17⟩, ⟨.const, "const", 20⟩] ∧
      (strays "constα 3, @const").map (Stray.shifted 9) = [⟨16, '3'⟩, ⟨19, '@'⟩] := by
  have hrun : [⟨.identifier, "constα", 9⟩, ⟨.comma, ",", 17⟩, ⟨.const, "const", 20⟩] <:+:
      tokens mixedText := by
    refine ⟨(tokens mixedText).take 4, (tokens mixedText).drop 7, ?_⟩
    decide +kernel
  have hspan : spanOf mixedText [⟨.identifier, "constα", 9⟩, ⟨.comma, ",", 17⟩,
      ⟨.const, "const", 20⟩] = "constα 3, @const".toList := by
    decide +kernel
  obtain ⟨htokens, hstrays⟩ := (text_partitioned mixedText).2.2.2.2.2 _ hrun
  rw [hspan] at htokens hstrays
  refine ⟨hrun, htokens, hstrays.trans ?_⟩
  decide +kernel

end TypeAtlas
