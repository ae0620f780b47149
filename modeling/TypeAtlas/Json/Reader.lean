import TypeAtlas.Json.Basic
import TypeAtlas.Text.Utf8

/-!
Reading JSON. A fault is reported with its line and with its column, counted in bytes of UTF-8.
Besides the standard literals, `NaN` and `Infinity` are numbers.
-/

namespace TypeAtlas

inductive JsonFault
  | eofInValue | eofInList | eofInObject | eofInText
  | colonExpected | listEndExpected | objectEndExpected | literalExpected | valueExpected
  | badEscape | badNumber | badCodePoint | controlCharacter | keyExpected | loneSurrogate
  | trailingComma | trailingCharacters | hexEscapeEnd
  | numberTooLong | tooDeep
  deriving DecidableEq, Repr

namespace JsonFault

def message : JsonFault → Text
  | eofInValue => "EOF while parsing a value"
  | eofInList => "EOF while parsing a list"
  | eofInObject => "EOF while parsing an object"
  | eofInText => "EOF while parsing a string"
  | colonExpected => "expected " ++ [Char.ofNat 0x60, ':', Char.ofNat 0x60]
  | listEndExpected => "expected " ++ [Char.ofNat 0x60, ',', Char.ofNat 0x60] ++ " or " ++
      [Char.ofNat 0x60, ']', Char.ofNat 0x60]
  | objectEndExpected => "expected " ++ [Char.ofNat 0x60, ',', Char.ofNat 0x60] ++ " or " ++
      [Char.ofNat 0x60, '\x7d', Char.ofNat 0x60]
  | literalExpected => "expected ident"
  | valueExpected => "expected value"
  | badEscape => "invalid escape"
  | badNumber => "invalid number"
  | badCodePoint => "invalid unicode code point"
  | controlCharacter => "control character (\\u0000-\\u001F) found while parsing a string"
  | keyExpected => "key must be a string"
  | loneSurrogate => "lone leading surrogate in hex escape"
  | trailingComma => "trailing comma"
  | trailingCharacters => "trailing characters"
  | hexEscapeEnd => "unexpected end of hex escape"
  | numberTooLong => "number out of range"
  | tooDeep => "recursion limit exceeded"

end JsonFault

/-- A fault before the last `left` characters of the text. -/
structure JsonError where
  fault : JsonFault
  left : Nat
  deriving DecidableEq, Repr

namespace JsonError

/-- Line and column of a place in the text. At the end of the text the column is that of the last
byte. -/
def place (whole : Text) (left : Nat) : Nat × Nat :=
  let before := whole.take (whole.length - left)
  let next := whole.drop (whole.length - left)
  let seen := before ++ next.take 1
  let line := 1 + seen.count '\n'
  let column := match next with
    | [] => Text.utf8Size (before.reverse.takeWhile (· ≠ '\n'))
    | c :: _ => if c = '\n' then 0 else Text.utf8Size (before.reverse.takeWhile (· ≠ '\n')) + 1
  (line, column)

def message (whole : Text) (e : JsonError) : Text :=
  let (line, column) := place whole e.left
  e.fault.message ++ " at line " ++ Text.ofNat line ++ " column " ++ Text.ofNat column

end JsonError

namespace Json

def stop (fault : JsonFault) (rest : Text) : Except JsonError α := .error ⟨fault, rest.length⟩

def skipBlanks (t : Text) : Text :=
  t.dropWhile fun c => c = ' ' || c = '\t' || c = '\n' || c = '\r'

def hexValue? (c : Char) : Option Nat :=
  if c.isDigit then some (c.toNat - '0'.toNat)
  else if 'a' ≤ c ∧ c ≤ 'f' then some (c.toNat - 'a'.toNat + 10)
  else if 'A' ≤ c ∧ c ≤ 'F' then some (c.toNat - 'A'.toNat + 10)
  else none

def hexDigits (value : Nat) : Nat → Text → Except JsonError (Nat × Text)
  | 0, t => .ok (value, t)
  | _ + 1, [] => stop .eofInText []
  | n + 1, c :: r =>
    match hexValue? c with
    | some d => hexDigits (value * 16 + d) n r
    | none => stop .badEscape (c :: r)

/-- The sixteen-bit unit behind `\u`. -/
def unit (t : Text) : Except JsonError (Nat × Text) :=
  if Text.utf8Size t < 4 then stop .eofInText [] else hexDigits 0 4 t

/-- What follows the first half of a surrogate pair; faults lie at the last digit read. -/
def secondUnit (high : Nat) (t : Text) : Except JsonError (Char × Text) :=
  match t with
  | '\\' :: 'u' :: r => do
    let (low, rest) ← unit r
    if 0xdc00 ≤ low ∧ low ≤ 0xdfff then
      .ok (Char.ofNat (0x10000 + (high - 0xd800) * 0x400 + (low - 0xdc00)), rest)
    else .error ⟨.loneSurrogate, rest.length + 1⟩
  | '\\' :: r => if r.isEmpty then stop .eofInText [] else stop .hexEscapeEnd r
  | [] => stop .eofInText []
  | t => stop .hexEscapeEnd t

def unicodeEscape (t : Text) : Except JsonError (Char × Text) := do
  let (high, rest) ← unit t
  if 0xdc00 ≤ high ∧ high ≤ 0xdfff then .error ⟨.loneSurrogate, rest.length + 1⟩
  else if 0xd800 ≤ high ∧ high ≤ 0xdbff then secondUnit high rest
  else .ok (Char.ofNat high, rest)

/-- The character an escape stands for, from behind the backslash. -/
def escape : Text → Except JsonError (Char × Text)
  | [] => stop .eofInText []
  | c :: r =>
    match c with
    | '"' => .ok ('"', r)
    | '\\' => .ok ('\\', r)
    | '/' => .ok ('/', r)
    | 'b' => .ok (Char.ofNat 8, r)
    | 'f' => .ok (Char.ofNat 12, r)
    | 'n' => .ok ('\n', r)
    | 'r' => .ok ('\r', r)
    | 't' => .ok ('\t', r)
    | 'u' => unicodeEscape r
    | _ => stop .badEscape (c :: r)

/-- Text from behind its opening quote, by at most `steps` characters. -/
def quotedText : Nat → Text → Text → Except JsonError (Text × Text)
  | 0, _, t => stop .eofInText t
  | _ + 1, _, [] => stop .eofInText []
  | steps + 1, done, c :: r =>
    if c = '"' then .ok (done.reverse, r)
    else if c = '\\' then do
      let (x, rest) ← escape r
      quotedText steps (x :: done) rest
    else if c.toNat < 32 then stop .controlCharacter (c :: r)
    else quotedText steps (c :: done) r

def literal (value : Json) : Text → Text → Except JsonError (Json × Text)
  | [], t => .ok (value, t)
  | _ :: _, [] => stop .eofInValue []
  | x :: xs, c :: r => if x = c then literal value xs r else stop .literalExpected (c :: r)

def natOf (digits : Text) : Nat := digits.foldl (fun n c => n * 10 + (c.toNat - '0'.toNat)) 0

/-- Digits of which at least one is required. -/
def someDigits (t : Text) : Except JsonError (Text × Text) :=
  match t with
  | [] => stop .eofInValue []
  | c :: _ =>
    if c.isDigit then .ok (t.takeWhile Char.isDigit, t.dropWhile Char.isDigit)
    else stop .badNumber t

/-- The exponent behind a number, zero when there is none. -/
def exponent (t : Text) : Except JsonError (Int × Text) :=
  match t with
  | 'e' :: r | 'E' :: r =>
    match r with
    | '-' :: r => do
      let (digits, rest) ← someDigits r
      .ok (-(natOf digits : Int), rest)
    | '+' :: r => do
      let (digits, rest) ← someDigits r
      .ok (natOf digits, rest)
    | r => do
      let (digits, rest) ← someDigits r
      .ok (natOf digits, rest)
  | t => .ok (0, t)

/-- What follows the digits before the decimal point. -/
def numberTail (isNegative : Bool) (digits t : Text) : Except JsonError (Json × Text) :=
  match t with
  | '.' :: r => do
    let (decimals, rest) ← someDigits r
    let (power, rest) ← exponent rest
    .ok (real (.ofDecimal isNegative (natOf (digits ++ decimals)) (power - decimals.length)), rest)
  | 'e' :: _ | 'E' :: _ => do
    let (power, rest) ← exponent t
    .ok (real (.ofDecimal isNegative (natOf digits) power), rest)
  | t => .ok (int (if isNegative then -(natOf digits : Int) else natOf digits), t)

/-- The digits before a decimal point, with their sign, are no more than this. -/
def longestNumber : Nat := 4300

/-- A number without its sign. -/
def unsigned (isNegative : Bool) (t : Text) : Except JsonError (Json × Text) :=
  match t with
  | [] => stop .eofInValue []
  | '0' :: r =>
    if (r.head?.any Char.isDigit) then stop .badNumber r else numberTail isNegative ['0'] r
  | 'I' :: r => literal (real (.infinite isNegative)) "nfinity" r
  | c :: _ =>
    let digits := t.takeWhile Char.isDigit
    let most := longestNumber - isNegative.toNat
    if most < digits.length then stop .numberTooLong (t.drop (most + 1))
    else if c.isDigit then numberTail isNegative digits (t.dropWhile Char.isDigit)
    else stop .badNumber t

mutual
/-- A value at the first character that is no blank, in which lists and objects that are not empty
nest no deeper than `room`; every step of the nesting takes one of `steps`. -/
def value (room : Nat) : Nat → Text → Except JsonError (Json × Text)
  | 0, t => stop .eofInValue t
  | steps + 1, t =>
    match skipBlanks t with
    | [] => stop .eofInValue []
    | c :: r =>
      match c with
      | 'n' => literal null "ull" r
      | 't' => literal (bool true) "rue" r
      | 'f' => literal (bool false) "alse" r
      | 'N' => literal (real .undefined) "aN" r
      | '-' => unsigned true r
      | '"' => do
        let (t, rest) ← quotedText (r.length + 1) [] r
        .ok (text t, rest)
      | '[' =>
        match skipBlanks r with
        | [] => stop .eofInList []
        | ']' :: rest => .ok (list [], rest)
        | rest =>
          match room with
          | 0 => stop .tooDeep rest
          | room + 1 => items room steps [] rest
      | '\x7b' =>
        match skipBlanks r with
        | [] => stop .eofInObject []
        | '\x7d' :: rest => .ok (object [], rest)
        | rest => entries room steps [] rest
      | c => if c.isDigit || c = 'I' then unsigned false (c :: r) else stop .valueExpected (c :: r)

/-- The items of a list from the first one on. -/
def items (room : Nat) : Nat → List Json → Text → Except JsonError (Json × Text)
  | 0, _, t => stop .eofInValue t
  | steps + 1, done, t => do
    let (v, rest) ← value room steps t
    match skipBlanks rest with
    | [] => stop .eofInList []
    | ']' :: rest => .ok (list (v :: done).reverse, rest)
    | ',' :: rest =>
      match skipBlanks rest with
      | [] => stop .eofInValue []
      | ']' :: rest => stop .trailingComma (']' :: rest)
      | rest => items room steps (v :: done) rest
    | rest => stop .listEndExpected rest

/-- The value of an entry, with one level of nesting less. -/
def entryValue (room : Nat) : Nat → Text → Except JsonError (Json × Text)
  | 0, t => stop .eofInValue t
  | steps + 1, t =>
    match skipBlanks t, room with
    | [], _ => stop .eofInValue []
    | rest, 0 => stop .tooDeep rest
    | rest, room + 1 => value room steps rest

/-- The entries of an object from the first key on; a repeated key keeps the later value. -/
def entries (room : Nat) : Nat → List (Text × Json) → Text → Except JsonError (Json × Text)
  | 0, _, t => stop .eofInValue t
  | steps + 1, done, t =>
    match t with
    | '"' :: r => do
      let (key, rest) ← quotedText (r.length + 1) [] r
      match skipBlanks rest with
      | [] => stop .eofInObject []
      | ':' :: rest => do
        let (v, rest) ← entryValue room steps rest
        let done := setEntry key v done
        match skipBlanks rest with
        | [] => stop .eofInObject []
        | '\x7d' :: rest => .ok (object done, rest)
        | ',' :: rest =>
          match skipBlanks rest with
          | [] => stop .eofInValue []
          | '\x7d' :: rest => stop .trailingComma ('\x7d' :: rest)
          | rest => entries room steps done rest
        | rest => stop .objectEndExpected rest
      | rest => stop .colonExpected rest
    | rest => stop .keyExpected rest
end

/-- The value that makes up the whole text, if it nests no deeper than `room`. -/
def readWithin (room : Nat) (t : Text) : Except JsonError Json := do
  let (v, rest) ← value room (3 * t.length + 3) t
  match skipBlanks rest with
  | [] => .ok v
  | rest => stop .trailingCharacters rest

def read (t : Text) : Except JsonError Json := readWithin t.length t

end Json

end TypeAtlas
