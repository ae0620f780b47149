import TypeAtlas.Text.Digits
import TypeAtlas.Text.Identifier
import TypeAtlas.Text.Quoted

/-!
The tokens of literals: numbers, quoted texts, words and signs. A fault of the notation is the first
one in the text.
-/

namespace TypeAtlas

inductive NumberKind
  | decimal | hexadecimal | octal | binary | imaginary
  deriving DecidableEq, Repr

/-- Why a text is not a literal. -/
inductive LiteralFault
  | unclosed (bracket : Char)
  | unmatched (bracket : Char)
  /-- the other bracket stands on an earlier line, if there is a line -/
  | mismatched (closing opening : Char) (line : Option Nat)
  | openText (long : Bool) (line : Nat)
  | badNumber (kind : NumberKind)
  | badDigit (digit : Char) (kind : NumberKind)
  | leadingZeros
  | badCharacter (c : Char)
  | danglingContinuation
  | unfit
  | missingComma
  | missingElse
  | missingColon
  | missingValue
  /-- texts next to each other of which some stand for octets -/
  | mixedTexts
  | starred (double : Bool)
  /-- a call without brackets -/
  | bareCall (name : Text)
  /-- a name is set to a value -/
  | setName
  | setOther (what : Text)
  /-- an expression that has to be computed -/
  | computed
  /-- a key or a member of a set that has no hash -/
  | unhashable (what : Text)
  deriving DecidableEq, Repr

namespace NumberKind

def text : NumberKind → Text
  | decimal => "decimal"
  | hexadecimal => "hexadecimal"
  | octal => "octal"
  | binary => "binary"
  | imaginary => "imaginary"

end NumberKind

namespace LiteralFault

def codePoint (c : Char) : Text := "U+" ++ (Text.hex 4 c.toNat).map Char.toUpper

def message : LiteralFault → Text
  | unclosed b => "'" ++ [b] ++ "' was never closed"
  | unmatched b => "unmatched '" ++ [b] ++ "'"
  | mismatched closing opening line =>
    "closing parenthesis '" ++ [closing] ++ "' does not match opening parenthesis '" ++ [opening] ++
      "'" ++ (match line with
        | some n => " on line " ++ Text.ofNat n
        | none => [])
  | openText long line => "unterminated " ++ Text.onlyIf long "triple-quoted " ++
      "string literal (detected at line " ++ Text.ofNat line ++ ")"
  | badNumber kind => "invalid " ++ kind.text ++ " literal"
  | badDigit d kind => "invalid digit '" ++ [d] ++ "' in " ++ kind.text ++ " literal"
  | leadingZeros => "leading zeros in decimal integer literals are not permitted; " ++
      "use an 0o prefix for octal integers".toList
  | badCharacter c =>
    if isShown c then "invalid character '" ++ [c] ++ "' (" ++ codePoint c ++ ")"
    else "invalid non-printable character " ++ codePoint c
  | danglingContinuation => "unexpected character after line continuation character"
  | unfit => "invalid syntax"
  | missingComma => "invalid syntax. Perhaps you forgot a comma?"
  | missingElse => "expected 'else' after 'if' expression"
  | missingColon => "':' expected after dictionary key"
  | missingValue => "expression expected after dictionary key and ':'"
  | mixedTexts => "cannot mix bytes and nonbytes literals"
  | starred double =>
    "cannot use " ++ Text.onlyIf double "double " ++ "starred expression here"
  | bareCall name => "Missing parentheses in call to '" ++ name ++ "'. Did you mean " ++ name ++
      "(...)?"
  | setName => "invalid syntax. Maybe you meant '==' or ':=' instead of '='?"
  | setOther what => "cannot assign to " ++ what ++ " here. Maybe you meant '==' instead of '='?"
  | computed => "malformed node or string on line 1"
  | unhashable what => "unhashable type: " ++ what.quoted

/-- Whether the text is at fault, and not what it stands for. -/
def isSyntactic : LiteralFault → Bool
  | computed | unhashable _ => false
  | _ => true

end LiteralFault

inductive LiteralToken
  | number (imaginary : Bool)
  | text (marks : Text)
  | word (t : Text)
  | sign (t : Text)
  | line
  /-- a continuation of a line that does not end; nothing follows it -/
  | broken
  deriving DecidableEq, Repr

namespace LiteralToken

/-- Characters of words, as far as numbers must not run into them. -/
def isWordPart (c : Char) : Bool := c.isAlphanum || c = '_' || 128 ≤ c.toNat

/-- Words that may follow a number at once, and whether they may go on. -/
def looseWords : List (String × Bool) := [
  ("and", false), ("else", false), ("for", false), ("or", false), ("not", false), ("if", true),
  ("in", true), ("is", true)]

def isLooseWordAt (t : Text) : Bool :=
  looseWords.any fun (w, goesOn) =>
    w.toList.isPrefixOf t && (goesOn || !((t.drop w.length).take 1).any isWordPart)

def endOfNumber (kind : NumberKind) (t : Text) : Except LiteralFault Text :=
  if !isLooseWordAt t && (t.take 1).any (fun c => c.isAlphanum || c = '_') then
    .error (.badNumber kind)
  else .ok t

def wrongDigit (kind : NumberKind) (t : Text) : LiteralFault :=
  match t with
  | c :: _ =>
    if c.isDigit && (kind = .octal || kind = .binary) then .badDigit c kind else .badNumber kind
  | [] => .badNumber kind

/-- What follows the digits, with single underscores between them. -/
def behindDigits (p : Char → Bool) (kind : NumberKind) : Text → Except LiteralFault Text
  | ['_'] => .error (wrongDigit kind [])
  | '_' :: c :: r => if p c then behindDigits p kind r else .error (wrongDigit kind (c :: r))
  | c :: r => if p c then behindDigits p kind r else .ok (c :: r)
  | [] => .ok []

/-- A whole number behind its mark of a base. -/
def behindBase (p : Char → Bool) (kind : NumberKind) (t : Text) : Except LiteralFault Text := do
  let t := if t.head? = some '_' then t.drop 1 else t
  if !(t.take 1).any p then .error (wrongDigit kind t)
  else do
    let rest ← behindDigits p kind t
    if (rest.take 1).any Char.isDigit then .error (wrongDigit kind rest) else endOfNumber kind rest

def behindFraction (t : Text) : Except LiteralFault Text :=
  if (t.take 1).any Char.isDigit then behindDigits Char.isDigit .decimal t else .ok t

def behindExponent (t : Text) : Except LiteralFault Text :=
  if !(t.take 1).any fun c => c = 'e' || c = 'E' then .ok t
  else
    let r := t.drop 1
    let signed := (r.take 1).any fun c => c = '+' || c = '-'
    let digits := if signed then r.drop 1 else r
    if (digits.take 1).any Char.isDigit then behindDigits Char.isDigit .decimal digits
    else if signed then .error (.badNumber .decimal)
    else endOfNumber .decimal t

def isImaginaryMark (c : Char) : Bool := c = 'j' || c = 'J'

/-- A number of which exponent and mark are still to come. -/
def numberEnd (t : Text) : Except LiteralFault (LiteralToken × Text) := do
  let t ← behindExponent t
  if (t.take 1).any isImaginaryMark then
    return (.number true, ← endOfNumber .imaginary (t.drop 1))
  else return (.number false, ← endOfNumber .decimal t)

def goesOn (c : Char) : Bool := c = 'e' || c = 'E' || isImaginaryMark c

/-- A decimal number. A whole one starts with a zero only if it is zero. -/
def decimal (t : Text) : Except LiteralFault (LiteralToken × Text) := do
  let rest ← behindDigits Char.isDigit .decimal t
  let digits := t.take (t.length - rest.length)
  match rest with
  | '.' :: r => numberEnd (← behindFraction r)
  | _ =>
    if t.head? = some '0' && digits.any (fun c => c ≠ '0' && c ≠ '_') && !(rest.take 1).any goesOn then
      .error .leadingZeros
    else numberEnd rest

def numberToken (t : Text) : Except LiteralFault (LiteralToken × Text) := do
  let whole (rest : Text) : LiteralToken × Text := (.number false, rest)
  match t with
  | '0' :: c :: r =>
    if c = 'x' || c = 'X' then return whole (← behindBase isHexDigit .hexadecimal r)
    else if c = 'o' || c = 'O' then return whole (← behindBase (fun c => '0' ≤ c && c < '8') .octal r)
    else if c = 'b' || c = 'B' then return whole (← behindBase (fun c => c = '0' || c = '1') .binary r)
    else decimal t
  | '.' :: r => numberEnd (← behindFraction r)
  | _ => decimal t

/-- What follows a quoted text, or the rest at which it can no longer end. -/
def behindQuote (mark : Char) : Text → Except Text Text
  | [] => .error []
  | '\\' :: _ :: r => behindQuote mark r
  | c :: r => if c = mark then .ok r else if c = '\n' then .error (c :: r) else behindQuote mark r

def behindLongQuote (mark : Char) : Text → Except Text Text
  | [] => .error []
  | '\\' :: _ :: r => behindLongQuote mark r
  | c :: r =>
    if [mark, mark, mark].isPrefixOf (c :: r) then .ok (r.drop 2) else behindLongQuote mark r

/-- What follows a quoted text, given from its first mark on, in a text of so many lines. -/
def quotedText (lines : Nat) (mark : Char) (t : Text) : Except LiteralFault Text :=
  let long := [mark, mark, mark].isPrefixOf t
  let behind := if long then behindLongQuote mark (t.drop 3) else behindQuote mark (t.drop 1)
  behind.mapError fun rest => .openText long (lines - rest.count '\n')

def isQuote (c : Char) : Bool := c = '\'' || c = '"'

/-- Letters in front of a quoted text. -/
def textMarks : List String := ["b", "u", "r", "f", "br", "rb", "fr", "rf"]

/-- The first character that does not fit into a word. -/
def misfit? : Text → Option Char
  | [] => none
  | c :: r => if isIdentifierStart c then r.find? (!continuesIdentifier ·) else some c

/-- A word, or a quoted text with letters in front. -/
def wordOrText (lines : Nat) (t : Text) : Except LiteralFault (LiteralToken × Text) := do
  let word := t.takeWhile isWordPart
  let rest := t.dropWhile isWordPart
  let small := word.map Char.toLower
  match rest with
  | c :: _ =>
    if isQuote c && textMarks.any (fun m => m.toList = small) then
      return (.text small, ← quotedText lines c rest)
  | [] => pure ()
  match misfit? word with
  | some c => .error (.badCharacter c)
  | none => return (.word word, rest)

/-- Signs of more than one character, the longest first. -/
def longSigns : List String := [
  "**=", "//=", ">>=", "<<=", "...", "==", "!=", "<=", ">=", "<>", "->", "+=", "-=", "*=", "/=",
  "%=", "&=", "|=", "^=", "@=", "**", "//", "<<", ">>", ":="]

def signAt (t : Text) : LiteralToken × Text :=
  match longSigns.find? fun s => s.toList.isPrefixOf t with
  | some s => (.sign s.toList, t.drop s.length)
  | none => (.sign (t.take 1), t.drop 1)

/-- The token that a text starts with, if it does not start with something between tokens. -/
def next? (lines : Nat) : Text → Except LiteralFault (Option LiteralToken × Text)
  | [] => .ok (none, [])
  | c :: r =>
    let found (result : LiteralToken × Text) : Option LiteralToken × Text :=
      (some result.1, result.2)
    if c = ' ' || c = '\t' || c = '\x0c' then .ok (none, r)
    else if c = '\n' then .ok (some .line, r)
    else if c = '#' then .ok (none, r.dropWhile (· ≠ '\n'))
    else if c = '\\' then
      if r.head? = some '\n' then .ok (none, r.drop 1) else .ok (some .broken, [])
    else if isQuote c then (quotedText lines c (c :: r)).map fun rest => (some (.text []), rest)
    else if c.isDigit || (c = '.' && (r.take 1).any Char.isDigit) then (numberToken (c :: r)).map found
    else if isWordPart c then (wordOrText lines (c :: r)).map found
    else if !isShown c then .error (.badCharacter c)
    else .ok (found (signAt (c :: r)))

/-- An open bracket and its line. -/
structure Opened where
  bracket : Char
  line : Nat

def partner? : Char → Option Char
  | ')' => some '('
  | ']' => some '['
  | '\x7d' => some '\x7b'
  | _ => none

/-- The brackets open behind a sign on a line. -/
def afterSign (line : Nat) (t : Text) (opened : List Opened) : Except LiteralFault (List Opened) :=
  match t with
  | [c] =>
    if c = '(' || c = '[' || c = '\x7b' then .ok (⟨c, line⟩ :: opened)
    else match partner? c, opened with
      | none, _ => .ok opened
      | some _, [] => .error (.unmatched c)
      | some p, o :: rest =>
        if o.bracket = p then .ok rest
        else .error (.mismatched c o.bracket (if o.line = line then none else some o.line))
  | _ => .ok opened

/-- The tokens of a text of so many lines, with the brackets that are open at its end. Lines end
only outside of brackets. -/
def scanFrom (lines : Nat) : Nat → List Opened → Text →
    Except LiteralFault (List LiteralToken × List Opened)
  | 0, opened, _ | _, opened, [] => .ok ([], opened)
  | room + 1, opened, t => do
    let (token, rest) ← next? lines t
    match token with
    | none => scanFrom lines room opened rest
    | some .line =>
      let (tokens, opened') ← scanFrom lines room opened rest
      return (if opened.isEmpty then .line :: tokens else tokens, opened')
    | some (.sign s) => do
      let (tokens, opened) ← scanFrom lines room
        (← afterSign (lines - rest.count '\n') s opened) rest
      return (.sign s :: tokens, opened)
    | some token => do
      let (tokens, opened) ← scanFrom lines room opened rest
      return (token :: tokens, opened)

def scan (t : Text) : Except LiteralFault (List LiteralToken × List Opened) :=
  scanFrom (t.count '\n' + 1) t.length [] t

end LiteralToken

end TypeAtlas
