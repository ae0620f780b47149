import TypeAtlas.Console.LiteralToken

/-!
Literals: numbers, texts, and tuples, sets and maps of them. The notation is that of expressions, of
which literals are those that need not be computed. Reading stops at the first fault; only if it
stops for no known reason it is done once more, with hints at what was meant.
-/

namespace TypeAtlas

/-- What an expression is worth as a literal. -/
inductive LiteralForm
  | number (imaginary : Bool)
  | signed (imaginary : Bool)
  /-- any other value, with what in it has no hash -/
  | value (unhashable : Option Text)
  | none (fault : LiteralFault)
  deriving DecidableEq, Repr

namespace LiteralForm

def fault? : LiteralForm → Option LiteralFault
  | none fault => some fault
  | _ => Option.none

def unhashable? : LiteralForm → Option Text
  | value what => what
  | _ => Option.none

def computed : LiteralForm := none .computed

def tuple (items : List LiteralForm) : LiteralForm :=
  match items.findSome? fault? with
  | some fault => none fault
  | Option.none => value (items.findSome? unhashable?)

/-- A form that has to have a hash. -/
def keyFault? (f : LiteralForm) : Option LiteralFault :=
  f.fault?.or (f.unhashable?.map .unhashable)

def set (items : List LiteralForm) : LiteralForm :=
  match items.findSome? keyFault? with
  | some fault => none fault
  | Option.none => value (some "set")

def map (pairs : List (LiteralForm × LiteralForm)) : LiteralForm :=
  match pairs.findSome? fun (k, v) => k.fault?.or (v.fault?.or k.keyFault?) with
  | some fault => none fault
  | Option.none => value (some "dict")

/-- A number with a sign in front. -/
def withSign (sign : Text) : LiteralForm → LiteralForm
  | number imaginary => if sign = ['~'] then computed else signed imaginary
  | none fault => none fault
  | _ => computed

/-- Two forms with an operator between them: a real number and an imaginary one are a number. -/
def joined (operator : Text) (left right : LiteralForm) : LiteralForm :=
  match left, right with
  | number false, number true | signed false, number true =>
    if operator = ['+'] || operator = ['-'] then value Option.none else computed
  | _, _ => computed

end LiteralForm

/-- An expression that was read, with the name of its kind. -/
structure Operand where
  form : LiteralForm
  kind : Text
  /-- no comparison and nothing weaker -/
  isSum : Bool

namespace Operand

def computed (kind : Text) (isSum : Bool) : Operand := ⟨.computed, kind, isSum⟩

end Operand

/-- Why reading stopped: for no known reason, or for good. -/
inductive LiteralStop
  | here
  | final (fault : LiteralFault)

/-- What can be read, from the weakest operators on. A goal that goes on with something holds what
was read of it so far. -/
inductive LiteralGoal
  | expressions | expression | item | named
  | disjunction | inversion | comparison | sum | factor | primary | atom
  | moreDisjunction (o : Operand)
  | moreComparison (o : Operand)
  | moreSum (o : Operand)
  | morePrimary (o : Operand)
  | arguments
  | moreItems (closing : Text) (items : List LiteralForm)
  | morePairs (pairs : List (LiteralForm × LiteralForm))
  | pairValue (key : LiteralForm) (pairs : List (LiteralForm × LiteralForm))
  | pairEnd (pairs : List (LiteralForm × LiteralForm))
  | moreTop (items : List LiteralForm)

structure LiteralReader where
  /-- the bracket that is open at the end -/
  unclosed : Option Char
  hints : Bool
  depth : Nat

namespace LiteralReader

abbrev Tokens := List LiteralToken

abbrev Reading := Except LiteralStop (Operand × Tokens)

def inBrackets (s : LiteralReader) : LiteralReader := { s with depth := s.depth + 1 }

def withoutHints (s : LiteralReader) : LiteralReader := { s with hints := false }

/-- Stops at tokens. Their end is final within brackets. -/
def stops (s : LiteralReader) (ts : Tokens) : Except LiteralStop α :=
  match ts, s.unclosed with
  | [], some bracket => .error (.final (.unclosed bracket))
  | .broken :: _, _ => .error (.final .danglingContinuation)
  | _, _ => .error .here

def final (fault : LiteralFault) : Except LiteralStop α := .error (.final fault)

/-- The second of two ways to read, if the first one stops for no known reason. -/
def orElse (first second : Except LiteralStop α) : Except LiteralStop α :=
  match first with
  | .error .here => second
  | result => result

def keywords : List String := [
  "False", "None", "True", "and", "as", "assert", "async", "await", "break", "class", "continue",
  "def", "del", "elif", "else", "except", "finally", "for", "from", "global", "if", "import", "in",
  "is", "lambda", "nonlocal", "not", "or", "pass", "raise", "return", "try", "while", "with",
  "yield"]

def isKeyword (t : Text) : Bool := keywords.any fun k => k.toList = t

def comparisonSigns : List String := ["==", "!=", "<=", "<", ">=", ">"]

def sumSigns : List String := [
  "+", "-", "*", "/", "//", "%", "@", "**", "&", "|", "^", "<<", ">>"]

def isSign (t : String) : LiteralToken → Bool
  | .sign s => s == t.toList
  | _ => false

def isWordToken (t : String) : LiteralToken → Bool
  | .word w => w == t.toList
  | _ => false

def startsWithSign (t : String) (ts : Tokens) : Bool := (ts.take 1).any (isSign t)

def startsWithWord (t : String) (ts : Tokens) : Bool := (ts.take 1).any (isWordToken t)

/-- Whether a word that is no keyword comes first. -/
def startsWithName : Tokens → Bool
  | .word w :: _ => !isKeyword w
  | _ => false

def marks? : LiteralToken → Option Text
  | .text marks => some marks
  | _ => none

def isText (t : LiteralToken) : Bool := (marks? t).isSome

/-- What follows an operator that compares. -/
def behindComparison? : Tokens → Option Tokens
  | .sign s :: r => if comparisonSigns.any (fun c => c.toList = s) then some r else none
  | .word w :: r =>
    if w = "in".toList then some r
    else if w = "is".toList then some (if startsWithWord "not" r then r.drop 1 else r)
    else if w = "not".toList && startsWithWord "in" r then some (r.drop 1)
    else none
  | _ => none

/-- Where a missing comma is not suspected: a word with a text behind it, and some words. -/
def isUnsuspicious : Tokens → Bool
  | .word w :: .text _ :: _ => !isKeyword w
  | .word w :: _ => w = ['_'] || w = "match".toList || w = "case".toList
  | _ => false

/-- A word that once was a statement and stood without brackets. -/
def oldStatement? : Tokens → Option Text
  | .word w :: _ => if w = "print".toList || w = "exec".toList then some w else none
  | _ => none

def isOldStatement (before after : Tokens) : Bool :=
  before.length = after.length + 1 && (oldStatement? before).isSome

/-- Hints at what follows an expression that goes from `before` to `after`: another expression, or a
condition. -/
def hint (s : LiteralReader) (before after : Tokens) (next condition : Reading) :
    Except LiteralStop Unit := do
  if !isUnsuspicious before then
    match next with
    | .ok _ => if s.depth ≠ 0 && !isOldStatement before after then final .missingComma
    | .error (.final fault) => final fault
    | .error .here => pure ()
  match condition with
  | .ok (_, rest) =>
    if !startsWithWord "else" rest && !startsWithSign ":" rest then final .missingElse
  | .error (.final fault) => final fault
  | .error .here => pure ()

/-- Names of kinds to which nothing is suspected to be set. -/
def fixedKinds : List String := ["tuple", "True", "False", "None"]

def read : Nat → LiteralReader → LiteralGoal → Tokens → Reading
  | 0, _, _, _ => .error .here
  | n + 1, s, goal, ts =>
    match goal with
    | .expression => do
      let (o, rest) ← read n s .disjunction ts
      let condition := if startsWithWord "if" rest then read n s .disjunction (rest.drop 1)
        else .error .here
      if s.hints then
        let nextReader := if startsWithSign "\x7b" rest then s else s.withoutHints
        hint s ts rest (read n nextReader .expression rest) condition
        if startsWithName ts && !startsWithSign "(" (ts.drop 1) then
          match read n s .expressions (ts.drop 1), oldStatement? ts with
          | .error (.final fault), _ => final fault
          | .ok _, some name => final (.bareCall name)
          | _, _ => pure ()
      match condition with
      | .error (.final fault) => final fault
      | .error .here => return (o, rest)
      | .ok (_, other) =>
        if startsWithWord "else" other then
          orElse ((read n s .expression (other.drop 1)).map fun (_, rest) =>
            (.computed "conditional expression" false, rest)) (.ok (o, rest))
        else return (o, rest)
    | .named => do
      let (o, rest) ← read n s .expression ts
      let isFixed := fixedKinds.any fun k => k.toList = o.kind
      if s.hints && o.isSum && !isFixed && startsWithSign "=" rest then
        match read n s .sum (rest.drop 1) with
        | .error (.final fault) => final fault
        | .error .here => pure ()
        | .ok (_, rest) =>
          if startsWithSign "=" rest || startsWithSign ":=" rest then pure ()
          else if o.kind = "name".toList then final .setName
          else final (.setOther o.kind)
      return (o, rest)
    | .item =>
      if startsWithSign "*" ts then
        (read n s .sum (ts.drop 1)).map fun (_, rest) => (.computed "starred" true, rest)
      else read n s .named ts
    | .expressions => do
      let (o, rest) ← read n s .expression ts
      if startsWithSign "," rest then orElse (read n s .expressions (rest.drop 1)) (.ok (o, rest))
      else return (o, rest)
    | .disjunction => do
      let (o, rest) ← read n s .inversion ts
      read n s (.moreDisjunction o) rest
    | .moreDisjunction o =>
      if startsWithWord "and" ts || startsWithWord "or" ts then
        orElse (do
          let (_, rest) ← read n s .inversion (ts.drop 1)
          read n s (.moreDisjunction (.computed "expression" false)) rest) (.ok (o, ts))
      else .ok (o, ts)
    | .inversion =>
      if startsWithWord "not" ts then do
        let (_, rest) ← read n s .inversion (ts.drop 1)
        return (.computed "expression" false, rest)
      else read n s .comparison ts
    | .comparison => do
      let (o, rest) ← read n s .sum ts
      read n s (.moreComparison o) rest
    | .moreComparison o =>
      match behindComparison? ts with
      | none => .ok (o, ts)
      | some r => orElse (do
          let (_, rest) ← read n s .sum r
          read n s (.moreComparison (.computed "comparison" false)) rest) (.ok (o, ts))
    | .sum => do
      let (o, rest) ← read n s .factor ts
      read n s (.moreSum o) rest
    | .moreSum o =>
      match ts with
      | .sign t :: r =>
        if sumSigns.any (fun c => c.toList = t) then
          orElse (do
            let (p, rest) ← read n s .factor r
            read n s (.moreSum ⟨o.form.joined t p.form, "expression", true⟩) rest) (.ok (o, ts))
        else .ok (o, ts)
      | _ => .ok (o, ts)
    | .factor =>
      match ts with
      | .sign t :: r =>
        if t = ['+'] || t = ['-'] || t = ['~'] then do
          let (o, rest) ← read n s .factor r
          return (⟨o.form.withSign t, "expression", true⟩, rest)
        else read n s .primary ts
      | _ => read n s .primary ts
    | .primary => do
      let (o, rest) ← read n s .atom ts
      let isSet := startsWithWord "set" ts && o.kind = "name".toList
      let o := if isSet then { o with kind := "set" } else o
      let (p, rest) ← read n s (.morePrimary o) rest
      return (if p.kind = "set".toList then { p with kind := "name" } else p, rest)
    | .morePrimary o =>
      match ts with
      | [] | .broken :: _ => orElse (stops s ts) (.ok (o, ts))
      | .sign t :: r =>
        if t = ['('] then
          orElse (do
            let (_, rest) ← read n s.inBrackets .arguments r
            let form := if o.kind = "set".toList && startsWithSign ")" r then
                .value (some "set".toList)
              else .computed
            read n s (.morePrimary ⟨form, "function call", true⟩) rest) (.ok (o, ts))
        else if t = ['.'] then
          match r with
          | .word w :: r => if isKeyword w then .ok (o, ts)
            else read n s (.morePrimary (.computed "attribute" true)) r
          | _ => orElse (stops s r) (.ok (o, ts))
        else .ok (o, ts)
      | _ => .ok (o, ts)
    | .arguments =>
      if startsWithSign ")" ts then .ok (.computed "" true, ts.drop 1)
      else do
        let isSet := startsWithName ts && startsWithSign "=" (ts.drop 1)
        let ts := if isSet then ts.drop 2
          else if startsWithSign "*" ts || startsWithSign "**" ts then ts.drop 1 else ts
        let (_, rest) ← read n s .expression ts
        if startsWithSign "," rest then read n s .arguments (rest.drop 1)
        else if startsWithSign ")" rest then return (.computed "" true, rest.drop 1)
        else stops s rest
    | .atom =>
      match ts with
      | .number imaginary :: r => .ok (⟨.number imaginary, "literal", true⟩, r)
      | .text _ :: _ => do
        let texts := ts.filterMap marks? |>.take (ts.takeWhile isText).length
        let rest := ts.drop texts.length
        if rest.isEmpty then orElse (stops s rest) (.ok ())
        if texts.any (·.contains 'b') && !texts.all (·.contains 'b') then final .mixedTexts
        else if texts.any (·.contains 'f') then return (.computed "f-string expression" true, rest)
        else return (⟨.value none, "literal", true⟩, rest)
      | .word w :: r =>
        if w = "True".toList || w = "False".toList || w = "None".toList then
          .ok (⟨.value none, w, true⟩, r)
        else if isKeyword w then .error .here
        else .ok (.computed "name" true, r)
      | .sign t :: r =>
        if t = "...".toList then .ok (⟨.value none, "ellipsis", true⟩, r)
        else if t = ['('] then
          if startsWithSign ")" r then .ok (⟨.value none, "tuple", true⟩, r.drop 1)
          else if startsWithSign "**" r then do
            let (_, rest) ← read n s.inBrackets .expression (r.drop 1)
            if s.hints && startsWithSign ")" rest then final (.starred true) else stops s r
          else do
            let isStarred := startsWithSign "*" r
            let (o, rest) ← read n s.inBrackets .item r
            if startsWithSign "," rest then
              read n s.inBrackets (.moreItems ")" [o.form]) (rest.drop 1)
            else if isStarred then
              if s.hints && startsWithSign ")" rest then final (.starred false) else stops s rest
            else if startsWithSign ")" rest then return ({ o with isSum := true }, rest.drop 1)
            else stops s rest
        else if t = ['\x7b'] then
          if startsWithSign "\x7d" r then .ok (⟨.value (some "dict"), "dict literal", true⟩, r.drop 1)
          else if startsWithSign "**" r then
            read n s.inBrackets (.morePairs []) r
          else do
            let (o, rest) ← read n s.inBrackets .item r
            if startsWithSign ":" rest && !startsWithSign "*" r then
              read n s.inBrackets (.pairValue o.form []) (rest.drop 1)
            else if startsWithSign "," rest then
              read n s.inBrackets (.moreItems "\x7d" [o.form]) (rest.drop 1)
            else if startsWithSign "\x7d" rest then
              return (⟨.set [o.form], "set display", true⟩, rest.drop 1)
            else stops s rest
        else .error .here
      | _ => stops s ts
    | .moreItems closing items =>
      let done : Operand :=
        if closing = [')'] then ⟨.tuple items, "tuple", true⟩ else ⟨.set items, "set display", true⟩
      let closes (ts : Tokens) : Bool := (ts.take 1).any (· == .sign closing)
      if closes ts then .ok (done, ts.drop 1)
      else do
        let (o, rest) ← read n s .item ts
        if startsWithSign "," rest then
          read n s (.moreItems closing (items ++ [o.form])) (rest.drop 1)
        else if closes rest then read n s (.moreItems closing (items ++ [o.form])) rest
        else stops s rest
    | .pairValue key pairs => do
      if startsWithSign "\x7d" ts || startsWithSign "," ts then final .missingValue
      let (o, rest) ← read n s .expression ts
      read n s (.pairEnd (pairs ++ [(key, o.form)])) rest
    | .pairEnd pairs =>
      let done : Operand := ⟨.map pairs, "dict literal", true⟩
      if startsWithSign "\x7d" ts then .ok (done, ts.drop 1)
      else if !startsWithSign "," ts then stops s ts
      else if startsWithSign "\x7d" (ts.drop 1) then .ok (done, ts.drop 2)
      else read n s (.morePairs pairs) (ts.drop 1)
    | .morePairs pairs =>
      if startsWithSign "**" ts then do
        let (_, rest) ← read n s .sum (ts.drop 1)
        read n s (.pairEnd (pairs ++ [(.computed, .computed)])) rest
      else do
        let (key, rest) ← read n s .expression ts
        if startsWithSign ":" rest then read n s (.pairValue key.form pairs) (rest.drop 1)
        else orElse (stops s rest) (final .missingColon)
    | .moreTop items =>
      let isEnd (ts : Tokens) : Bool := ts.all (· == .line)
      if !items.isEmpty && isEnd ts then .ok (⟨.tuple items, "tuple", true⟩, [])
      else do
        let (o, rest) ← read n s .expression ts
        if startsWithSign "," rest then read n s (.moreTop (items ++ [o.form])) (rest.drop 1)
        else if !isEnd rest then stops s rest
        else if items.isEmpty then return (o, [])
        else return (⟨.tuple (items ++ [o.form]), "tuple", true⟩, [])

end LiteralReader

namespace Literal

def readTokens (ts : List LiteralToken) (unclosed : Option Char) (hints : Bool) :
    LiteralReader.Reading :=
  LiteralReader.read (20 * (ts.length + 2)) ⟨unclosed, hints, 0⟩ (.moreTop []) ts

/-- Why a text is not a literal. -/
def fault? (t : Text) : Option LiteralFault :=
  match LiteralToken.scan t with
  | .error fault => some fault
  | .ok (ts, opened) =>
    let unclosed := opened.head?.map (·.bracket)
    match readTokens ts unclosed false with
    | .ok (o, _) => o.form.fault?
    | .error (.final fault) => some fault
    | .error .here =>
      match readTokens ts unclosed true with
      | .error (.final fault) => some fault
      | _ => some .unfit

end Literal

end TypeAtlas
