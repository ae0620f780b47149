import TypeAtlas.Text.Quoted

/-!
Tokens of a type signature. Reading goes on behind a character that starts no token; such strays are
kept with their place, so that tokens, strays and blanks together account for the whole text.
-/

namespace TypeAtlas

inductive TokenKind
  | const | identifier | scope | dot | leftAngle | rightAngle | leftBracket | rightBracket
  | comma | asterisk | ampersand
  deriving DecidableEq, Repr

structure Token where
  kind : TokenKind
  image : Text
  start : Nat
  deriving DecidableEq, Repr

namespace Token

def stop (t : Token) : Nat := t.start + t.image.length

end Token

/-- A character that starts no token. -/
structure Stray where
  offset : Nat
  char : Char
  deriving DecidableEq, Repr

namespace Stray

/-- Digits stand for array sizes and do no harm. -/
def isBenign (s : Stray) : Bool := s.char.isDigit

def message (s : Stray) : Text :=
  "unexpected character " ++ Text.quoted [s.char] ++ " at offset " ++ Text.ofNat s.offset

end Stray

/-- What reading a signature yields, in the order of the text. -/
inductive Piece
  | token (t : Token)
  | stray (s : Stray)
  deriving DecidableEq, Repr

namespace Piece

def token? : Piece → Option Token
  | token t => some t
  | stray _ => none

def stray? : Piece → Option Stray
  | token _ => none
  | stray s => some s

end Piece

namespace TokenKind

/-- The tokens written with one character. -/
def ofChar? : Char → Option TokenKind
  | '.' => some dot
  | '<' => some leftAngle
  | '>' => some rightAngle
  | '[' => some leftBracket
  | ']' => some rightBracket
  | ',' => some comma
  | '*' => some asterisk
  | '&' => some ampersand
  | _ => none

/-- A word is a name unless it is the keyword. -/
def ofWord (word : Text) : TokenKind := if word = "const".toList then const else identifier

end TokenKind

theorem length_dropWhile_le (p : Char → Bool) (t : Text) : (t.dropWhile p).length ≤ t.length :=
  (List.dropWhile_sublist p).length_le

/-- Reads a text whose first character stands at `offset`. A word takes all word characters there
are; `::` is looked for before a single colon is called stray. -/
def scan (offset : Nat) : Text → List Piece
  | [] => []
  | c :: r =>
    if isBlank c then scan (offset + 1) r
    else if isNameStart c then
      let word := c :: r.takeWhile isWord
      .token ⟨.ofWord word, word, offset⟩ :: scan (offset + word.length) (r.dropWhile isWord)
    else if c = ':' ∧ r.head? = some ':' then
      .token ⟨.scope, "::", offset⟩ :: scan (offset + 2) r.tail
    else match TokenKind.ofChar? c with
      | some kind => .token ⟨kind, [c], offset⟩ :: scan (offset + 1) r
      | none => .stray ⟨offset, c⟩ :: scan (offset + 1) r
  termination_by t => t.length
  decreasing_by
    · simp
    · have := length_dropWhile_le isWord r
      simp only [List.length_cons]
      omega
    · have : r.tail.length ≤ r.length := by simp
      simp only [List.length_cons]
      omega
    · simp
    · simp

@[simp] theorem scan_nil (offset : Nat) : scan offset [] = [] := by
  rw [scan.eq_def]

theorem scan_cons (offset : Nat) (c : Char) (r : Text) : scan offset (c :: r) =
    if isBlank c then scan (offset + 1) r
    else if isNameStart c then
      .token ⟨.ofWord (c :: r.takeWhile isWord), c :: r.takeWhile isWord, offset⟩ ::
        scan (offset + (c :: r.takeWhile isWord).length) (r.dropWhile isWord)
    else if c = ':' ∧ r.head? = some ':' then
      .token ⟨.scope, "::", offset⟩ :: scan (offset + 2) r.tail
    else match TokenKind.ofChar? c with
      | some kind => .token ⟨kind, [c], offset⟩ :: scan (offset + 1) r
      | none => .stray ⟨offset, c⟩ :: scan (offset + 1) r := by
  rw [scan.eq_def]

def pieces (t : Text) : List Piece := scan 0 t

def tokens (t : Text) : List Token := (pieces t).filterMap Piece.token?

def strays (t : Text) : List Stray := (pieces t).filterMap Piece.stray?

/-- Strays that make the text unreadable. -/
def criticalStrays (t : Text) : List Stray := (strays t).filter (!·.isBenign)

/-- The text from the first to the last of a run of tokens. -/
def spanOf (t : Text) (run : List Token) : Text :=
  match run.head?, run.getLast? with
  | some first, some last => t.slice first.start last.stop
  | _, _ => []

theorem filterMap_token_cons (t : Token) (ps : List Piece) :
    (Piece.token t :: ps).filterMap Piece.token? = t :: ps.filterMap Piece.token? := rfl

theorem filterMap_stray_cons (s : Stray) (ps : List Piece) :
    (Piece.stray s :: ps).filterMap Piece.token? = ps.filterMap Piece.token? := rfl

theorem scan_start (t : Text) (offset : Nat) :
    ∀ x ∈ (scan offset t).filterMap Piece.token?, offset ≤ x.start := by
  fun_induction scan offset t with
  | case1 => simp
  | case2 offset c r _ ih => exact fun x hx => by have := ih x hx; omega
  | case3 offset c r _ _ word ih =>
    rw [filterMap_token_cons, List.forall_mem_cons]
    exact ⟨Nat.le_refl _, fun x hx => by have := ih x hx; omega⟩
  | case4 offset c r _ _ _ ih =>
    rw [filterMap_token_cons, List.forall_mem_cons]
    exact ⟨Nat.le_refl _, fun x hx => by have := ih x hx; omega⟩
  | case5 offset c r _ _ _ kind _ ih =>
    rw [filterMap_token_cons, List.forall_mem_cons]
    exact ⟨Nat.le_refl _, fun x hx => by have := ih x hx; omega⟩
  | case6 offset c r _ _ _ _ ih =>
    rw [filterMap_stray_cons]
    exact fun x hx => by have := ih x hx; omega

/-- Only the first token can stand at the very start. -/
theorem scan_tail_start (t : Text) (offset : Nat) :
    ∀ x ∈ ((scan offset t).filterMap Piece.token?).tail, offset < x.start := by
  fun_induction scan offset t with
  | case1 => simp
  | case2 offset c r _ ih => exact fun x hx => by have := ih x hx; omega
  | case3 offset c r _ _ word ih =>
    intro x hx
    have := scan_start _ _ x hx
    simp only [word, List.length_cons] at this
    omega
  | case4 offset c r _ _ _ ih =>
    exact fun x hx => by have := scan_start _ _ x hx; omega
  | case5 offset c r _ _ _ kind _ ih =>
    exact fun x hx => by have := scan_start _ _ x hx; omega
  | case6 offset c r _ _ _ _ ih =>
    rw [filterMap_stray_cons]
    exact fun x hx => by have := ih x hx; omega

end TypeAtlas
