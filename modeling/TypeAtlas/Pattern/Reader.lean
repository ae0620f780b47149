import TypeAtlas.Number.Binary
import TypeAtlas.Pattern.Basic
import TypeAtlas.Pattern.Fault
import TypeAtlas.Text.CharacterName
import TypeAtlas.Text.Identifier
import TypeAtlas.Text.Integer

/-!
Reading the notation of patterns. A pattern is read in units, a character or a backslash with the
character behind it; a fault is placed by the unit about to be read.
-/

namespace TypeAtlas.Pattern

/-- The least and greatest length of what a node matches. Both end at `Width.limit`, which stands
for any length from there on. -/
structure Width where
  least : Nat
  most : Nat
  deriving DecidableEq, Repr

namespace Width

def limit : Nat := Binary.twoTo 64

def exactly (n : Nat) : Width := ⟨n, n⟩

def capped (w : Width) : Width := ⟨min w.least limit, min w.most limit⟩

def add (a b : Width) : Width := capped ⟨a.least + b.least, a.most + b.most⟩

def either (a b : Width) : Width := ⟨min a.least b.least, max a.most b.most⟩

/-- Without a greatest number of turns the length has no bound, unless each turn is empty. -/
def times (least : Nat) (most : Option Nat) (w : Width) : Width :=
  let greatest := match most with
    | some n => w.most * n
    | none => if w.most = 0 then 0 else limit
  capped ⟨w.least * least, greatest⟩

end Width

/-- The width of a node, given those of the groups it refers to. -/
def Node.width (groups : Nat → Width) : Node → Width
  | .nothing => .exactly 0
  | .anyChar _ => .exactly 1
  | .oneOf _ _ _ _ => .exactly 1
  | .seq first second => (first.width groups).add (second.width groups)
  | .either first second => (first.width groups).either (second.width groups)
  | .times least most _ body => (body.width groups).times least most
  | .group _ body => body.width groups
  | .again index _ => groups index
  | .look _ _ _ _ => .exactly 0
  | .place _ => .exactly 0
  | .atomic body => body.width groups
  | .ifGroup _ yes no => (yes.width groups).either (no.width groups)

def Node.ofList : List Node → Node
  | [] => .nothing
  | [n] => n
  | n :: ns => .seq n (ofList ns)

def Node.eitherOf (first : Node) : List Node → Node
  | [] => first
  | n :: ns => .either first (eitherOf n ns)

/-- How far back a look-behind can look. -/
def farthestBack : Nat := Binary.twoTo 32 - 1

/-- A look-behind looks back by a fixed width. -/
def Width.lookbehindFault? (w : Width) : Option PatternFault :=
  if farthestBack < w.least then some .farLookbehind
  else if w.least ≠ w.most then some .variableLookbehind
  else none

/-- What is wrong with the first look-behind that is not in order. -/
def Node.lookbehindFault? (groups : Nat → Width) : Node → Option PatternFault
  | .look ahead _ _ body =>
    (if ahead then none else (body.width groups).lookbehindFault?).or
      (body.lookbehindFault? groups)
  | .seq first second | .either first second | .ifGroup _ first second =>
    (first.lookbehindFault? groups).or (second.lookbehindFault? groups)
  | .times _ _ _ body | .group _ body | .atomic body => body.lookbehindFault? groups
  | .nothing | .anyChar _ | .oneOf _ _ _ _ | .again _ _ | .place _ => none

/-- The units of a pattern; a backslash at the end stands alone. -/
def unitsOf : Text → List Text
  | [] => []
  | '\\' :: c :: r => ['\\', c] :: unitsOf r
  | c :: r => [c] :: unitsOf r

structure Progress where
  units : List Text
  total : Nat
  flags : Flags
  names : List (Text × Nat)
  /-- the width of each group so far, `none` while it is open -/
  groups : List (Option Width)
  lookbehind : Option Nat
  /-- group numbers that conditions test, with the places where they do so first -/
  conditions : List (Nat × Nat)
  /-- the letters of all flags set for the whole pattern -/
  flagLetters : Text

abbrev Reader := StateT Progress (Except PatternError)

namespace Reader

def place : Reader Nat := do
  let p ← get
  return p.total - p.units.flatten.length

def fails (fault : PatternFault) (offset : Nat) : Reader α := do
  throw ⟨fault, some ((← place) - offset)⟩

def next? : Reader (Option Text) := do return (← get).units.head?

def checkDangling : Reader Unit := do
  let p ← get
  if p.units.head? = some ['\\'] then throw ⟨.danglingEscape, some (p.total - 1)⟩

def advance : Reader Unit := do
  modify fun p => { p with units := p.units.tail }
  checkDangling

def take : Reader (Option Text) := do
  let unit ← next?
  advance
  return unit

def accept (c : Char) : Reader Bool := do
  if (← next?) = some [c] then
    advance
    return true
  else return false

/-- The single character that stands next, when it satisfies `p`. -/
def nextChar? (p : Char → Bool) : Reader (Option Char) := do
  match ← next? with
  | some [c] => return if p c then some c else none
  | _ => return none

def takeWhile (p : Char → Bool) : Nat → Reader Text
  | 0 => return []
  | n + 1 => do
    match ← nextChar? p with
    | some c => do
      advance
      return c :: (← takeWhile p n)
    | none => return []

/-- A name up to its terminator. -/
def nameUntil (terminator : Char) (what : Text) : Nat → Text → Reader Text
  | 0, name => return name
  | steps + 1, name => do
    match ← take with
    | none =>
      if name.isEmpty then fails (.missing what) 0
      else fails (.unterminatedName terminator) name.length
    | some u =>
      if u = [terminator] then
        if name.isEmpty then fails (.missing what) 1 else return name
      else nameUntil terminator what steps (name ++ u)

def unitsLeft : Reader Nat := do return (← get).units.length

def readName (terminator : Char) (what : Text) : Reader Text := do
  nameUntil terminator what ((← unitsLeft) + 1) []

def groupName (terminator : Char) : Reader Text := do
  let name ← readName terminator "group name"
  if isIdentifier name then return name else fails (.badGroupName name) (name.length + 1)

def isClosed (index : Nat) : Reader Bool := do
  return index = 0 || ((← get).groups[index - 1]?.join).isSome

def checkLookbehind (index : Nat) : Reader Unit := do
  match (← get).lookbehind with
  | none => return
  | some first =>
    if !(← isClosed index) then fails .openGroup 0
    else if index ≥ first then fails .groupInLookbehind 0

def groupCountNext : Reader Nat := do return (← get).groups.length + 1

end Reader

open Reader

def isOctal (c : Char) : Bool := '0' ≤ c && c ≤ '7'

def isHex (c : Char) : Bool := c.isDigit || ('a' ≤ c && c ≤ 'f') || ('A' ≤ c && c ≤ 'F')

def digitValue (c : Char) : Nat :=
  if c.isDigit then c.toNat - '0'.toNat else c.toLower.toNat - 'a'.toNat + 10

def numeral (base : Nat) (digits : Text) : Nat := digits.foldl (fun n c => n * base + digitValue c) 0

def plainEscape? : Char → Option Char
  | 'a' => some (Char.ofNat 7)
  | 'f' => some (Char.ofNat 12)
  | 'n' => some '\n'
  | 'r' => some '\r'
  | 't' => some '\t'
  | 'v' => some (Char.ofNat 11)
  | '\\' => some '\\'
  | _ => none

def classEscape? : Char → Option CharItem
  | 'd' => some (.oneOf false .digit)
  | 'D' => some (.oneOf true .digit)
  | 's' => some (.oneOf false .blank)
  | 'S' => some (.oneOf true .blank)
  | 'w' => some (.oneOf false .word)
  | 'W' => some (.oneOf true .word)
  | _ => none

def placeEscape? (ascii : Bool) : Char → Option Place
  | 'A' => some .textStart
  | 'Z' => some .textEnd
  | 'b' => some (.boundary false ascii)
  | 'B' => some (.boundary true ascii)
  | _ => none

/-- The character of a numbered escape whose first letter is `c`, if that letter starts one. -/
def numberedEscape? (c : Char) : Reader (Option Char) := do
  let width := if c = 'x' then 2 else if c = 'u' then 4 else if c = 'U' then 8 else 0
  if width = 0 then return none
  let digits ← takeWhile isHex width
  let escape : Text := '\\' :: c :: digits
  if digits.length ≠ width then fails (.incompleteEscape escape) escape.length
  else
    let n := numeral 16 digits
    if n < 0x110000 then return some (Char.ofNat n) else fails (.badEscape escape) escape.length

def namedEscape : Reader Char := do
  if !(← accept '\x7b') then fails (.missing "\x7b") 0
  else
    let name ← readName '\x7d' "character name"
    match characterNamed? name with
    | some c => return c
    | none => fails (.unknownCharacterName name) (name.length + 4)

/-- An escape inside a set. -/
def setEscape (c : Char) : Reader CharItem := do
  if c = 'b' then return .single (Char.ofNat 8)
  match plainEscape? c, classEscape? c with
  | some x, _ => return .single x
  | none, some item => return item
  | none, none =>
    if let some x ← numberedEscape? c then return .single x
    if c = 'N' then return .single (← namedEscape)
    if isOctal c then
      let digits := c :: (← takeWhile isOctal 2)
      let escape : Text := '\\' :: digits
      if numeral 8 digits > 0xff then fails (.octalTooLarge escape) escape.length
      else return .single (Char.ofNat (numeral 8 digits))
    else if c.isDigit || c.isAlpha then fails (.badEscape ['\\', c]) 2
    else return .single c

def literal (flags : Flags) (c : Char) : Node := .oneOf false flags.ignoreCase flags.ascii [.single c]

def reference (flags : Flags) (digits : Text) : Reader Node := do
  let index := numeral 10 digits
  if index < (← groupCountNext) then
    if !(← isClosed index) then fails .openGroup (digits.length + 1)
    else do
      checkLookbehind index
      return .again index flags.ignoreCase
  else fails (.invalidReference index) digits.length

/-- An escape outside of sets. -/
def outerEscape (flags : Flags) (c : Char) : Reader Node := do
  match placeEscape? flags.ascii c, classEscape? c, plainEscape? c with
  | some p, _, _ => return .place p
  | none, some item, _ => return .oneOf false flags.ignoreCase flags.ascii [item]
  | none, none, some x => return literal flags x
  | none, none, none =>
    if let some x ← numberedEscape? c then return literal flags x
    if c = 'N' then return literal flags (← namedEscape)
    if c = '0' then
      return literal flags (Char.ofNat (numeral 8 (c :: (← takeWhile isOctal 2))))
    else if c.isDigit then
      match ← nextChar? Char.isDigit with
      | none => reference flags [c]
      | some d => do
        advance
        if isOctal c && isOctal d then
          match ← nextChar? isOctal with
          | some e => do
            advance
            let escape : Text := ['\\', c, d, e]
            if numeral 8 [c, d, e] > 0xff then fails (.octalTooLarge escape) escape.length
            else return literal flags (Char.ofNat (numeral 8 [c, d, e]))
          | none => reference flags [c, d]
        else reference flags [c, d]
    else if c.isAlpha then fails (.badEscape ['\\', c]) 2
    else return literal flags c

def setItem (unit : Text) : Reader CharItem :=
  match unit with
  | ['\\', c] => setEscape c
  | c :: _ => return .single c
  | [] => return .single '\\'

/-- The items of a set up to its closing bracket; `start` is where the set began. -/
def setItems (start : Nat) : Nat → List CharItem → Reader (List CharItem)
  | 0, items => return items
  | steps + 1, items => do
    match ← take with
    | none => fails .unterminatedSet ((← place) - start)
    | some unit =>
      if unit = [']'] && !items.isEmpty then return items
      else
        let item ← setItem unit
        if ← accept '-' then
          match ← take with
          | none => fails .unterminatedSet ((← place) - start)
          | some upper =>
            if upper = [']'] then return items ++ [item, .single '-']
            else
              let last ← setItem upper
              match item, last with
              | .single a, .single b =>
                if b < a then
                  fails (.badRange unit upper) (unit.length + 1 + upper.length)
                else setItems start steps (items ++ [.range a b])
              | _, _ => fails (.badRange unit upper) (unit.length + 1 + upper.length)
        else setItems start steps (items ++ [item])

def readSet (flags : Flags) : Reader Node := do
  let start := (← place) - 1
  let negated ← accept '^'
  let items ← setItems start ((← unitsLeft) + 1) []
  return .oneOf negated flags.ignoreCase flags.ascii items

/-- A number of turns has to be less than this. -/
def turnLimit : Nat := Binary.twoTo 32 - 1

def turnCount (digits : Text) : Reader Nat := do
  if Text.mostDigits < digits.length then throw ⟨.longNumber digits.length, none⟩
  let n := numeral 10 digits
  if n < turnLimit then return n else throw ⟨.repetitionTooLarge, none⟩

/-- The bounds of a repetition between braces, `none` when the brace stands for itself. -/
def braceBounds : Reader (Option (Nat × Option Nat)) := do
  let start ← place
  let before ← get
  if (← next?) = some ['\x7d'] then return none
  let n ← unitsLeft
  let low ← takeWhile Char.isDigit n
  let high ← if ← accept ',' then takeWhile Char.isDigit n else pure low
  if !(← accept '\x7d') then
    set before
    return none
  let least ← if low.isEmpty then pure 0 else turnCount low
  let most ← if high.isEmpty then pure none else some <$> turnCount high
  if most.any (· < least) then fails .repeatBounds ((← place) - start)
  else return some (least, most)

def Node.isRepeat : Node → Bool
  | .times _ _ _ _ => true
  | _ => false

def Node.isPlace : Node → Bool
  | .place _ => true
  | _ => false

/-- Puts a repetition on the last of the nodes read, which are reversed. -/
def repeatLast (start width least : Nat) (most : Option Nat) : List Node → Reader (List Node)
  | [] => do fails .nothingToRepeat ((← place) - start + width)
  | item :: before => do
    if item.isPlace then fails .nothingToRepeat ((← place) - start + width)
    else if item.isRepeat then fails .multipleRepeat ((← place) - start + width)
    else
      let greed : Greed ← (do
        if ← accept '?' then return .lazy
        else if ← accept '+' then return .possessive
        else return .greedy)
      return .times least most greed item :: before

/-- Flags by letter; those that change nothing here are `t` and `u`. -/
def setFlag (on : Bool) (flags : Flags) : Char → Flags
  | 'i' => { flags with ignoreCase := on }
  | 'm' => { flags with lines := on }
  | 's' => { flags with dotAll := on }
  | 'x' => { flags with verbose := on }
  | 'a' => { flags with ascii := on }
  | 'u' => { flags with ascii := flags.ascii && !on }
  | _ => flags

def isFlag (c : Char) : Bool := "iLmsxatu".toList.contains c

def flagChar (otherwise : PatternFault) (unit : Text) : Reader Char := do
  match unit with
  | [c] =>
    if isFlag c then return c
    else fails (if isLetter c then .unknownFlag else otherwise) 1
  | _ => fails otherwise unit.length

/-- Letters that turn flags on, and the character that ends them. -/
def flagsOn : Nat → Char → Text → Reader (Text × Char)
  | 0, c, letters => return (letters, c)
  | steps + 1, c, letters => do
    if c = 'L' then fails .localeFlag 0
    else if (c = 'a' && letters.contains 'u') || (c = 'u' && letters.contains 'a') then
      fails .typeFlags 0
    else
      let letters := letters ++ [c]
      match ← take with
      | none => fails (.missing "-, : or )") 0
      | some unit =>
        match unit with
        | [':'] => return (letters, ':')
        | [')'] => return (letters, ')')
        | ['-'] => return (letters, '-')
        | unit => flagsOn steps (← flagChar (.missing "-, : or )") unit) letters

/-- Letters that turn flags off. -/
def flagsOff : Nat → Char → Text → Reader Text
  | 0, _, letters => return letters
  | steps + 1, c, letters => do
    if c = 'a' || c = 'u' || c = 'L' then fails .typeFlagsOff 0
    else
      let letters := letters ++ [c]
      match ← take with
      | none => fails (.missing ":") 0
      | some [':'] => return letters
      | some unit => flagsOff steps (← flagChar (.missing ":") unit) letters

/-- Flags behind `(?`: those turned on and off for the group that follows, or `none` when they were
set for the whole pattern. -/
def readFlags (first : Char) : Reader (Option (Text × Text)) := do
  let n ← unitsLeft
  let (on, stop) ← if first = '-' then pure ([], '-') else flagsOn (n + 1) first []
  if stop = ')' then
    modify fun p => { p with
      flags := on.foldl (setFlag true) p.flags
      flagLetters := p.flagLetters ++ on }
    return none
  if on.contains 't' then fails .globalFlagOn 1
  if stop = '-' then
    match ← take with
    | none => fails (.missing "flag") 0
    | some unit =>
      let off ← flagsOff (n + 1) (← flagChar (.missing "flag") unit) []
      if off.contains 't' then fails .globalFlagOff 1
      else if on.any off.contains then fails .contradictoryFlag 1
      else return some (on, off)
  else return some (on, [])

def openGroup (name : Option Text) : Reader Nat := do
  let index ← groupCountNext
  match name with
  | none => modify fun p => { p with groups := p.groups ++ [none] }
  | some name =>
    match (← get).names.lookup name with
    | some earlier =>
      modify fun p => { p with groups := p.groups ++ [none] }
      fails (.groupRedefined name index earlier) (name.length + 1)
    | none =>
      modify fun p => { p with groups := p.groups ++ [none], names := p.names ++ [(name, index)] }
  return index

def groupWidth (p : Progress) (index : Nat) : Width :=
  (p.groups[index - 1]?.join).getD (.exactly 0)

def closeGroup (index : Nat) (body : Node) : Reader Unit :=
  modify fun p => { p with groups := p.groups.set (index - 1) (some (body.width (groupWidth p))) }

/-- Numbers of groups are less than this. -/
def groupLimit : Nat := Binary.twoTo 30 - 1

/-- The number of the group that a condition tests. -/
def conditionGroup : Reader Nat := do
  let name ← readName ')' "group name"
  if isIdentifier name then
    match (← get).names.lookup name with
    | some index => return index
    | none => fails (.unknownGroup name) (name.length + 1)
  else
    match Text.toInt? name with
    | some (.ofNat 0) => fails .badGroupNumber (name.length + 1)
    | some (.ofNat index) =>
      if groupLimit ≤ index then fails (.invalidReference index) (name.length + 1)
      let at_ := (← place) - name.length - 1
      modify fun p => { p with
        conditions := if (p.conditions.lookup index).isSome then p.conditions
          else p.conditions ++ [(index, at_)] }
      return index
    | _ => fails (.badGroupName name) (name.length + 1)

def skipComment (start : Nat) : Nat → Reader Unit
  | 0 => return
  | steps + 1 => do
    match ← next? with
    | none => fails .unterminatedComment ((← place) - start)
    | some unit =>
      advance
      if unit = [')'] then return else skipComment start steps

def skipLine : Nat → Reader Unit
  | 0 => return
  | steps + 1 => do
    match ← take with
    | none => return
    | some ['\n'] => return
    | some _ => skipLine steps

def expectClosing (start : Nat) : Reader Unit := do
  if !(← accept ')') then fails .unterminatedGroup ((← place) - start)

/-- What the characters behind an opening parenthesis announce. -/
inductive Opening
  | plain (name : Option Text)
  | nameless
  | atomic
  | scoped (on off : Text)
  | look (ahead negated : Bool)
  | condition
  | node (n : Node)
  | comment
  | global

def readOpening (flags : Flags) (start : Nat) : Reader Opening := do
  if !(← accept '?') then return .plain none
  match ← take with
  | none => fails .unexpectedEnd 0
  | some unit =>
    match unit with
    | ['P'] =>
      if ← accept '<' then return .plain (some (← groupName '>'))
      else if ← accept '=' then
        let name ← groupName ')'
        match (← get).names.lookup name with
        | none => fails (.unknownGroup name) (name.length + 1)
        | some index =>
          if !(← isClosed index) then fails .openGroup (name.length + 1)
          else do
            checkLookbehind index
            return .node (.again index flags.ignoreCase)
      else
        match ← take with
        | none => fails .unexpectedEnd 0
        | some unit => fails (.unknownExtension ('P' :: unit)) (unit.length + 2)
    | [':'] => return .nameless
    | ['#'] => do
      skipComment start ((← unitsLeft) + 1)
      return .comment
    | ['='] => return .look true false
    | ['!'] => return .look true true
    | ['<'] =>
      match ← take with
      | none => fails .unexpectedEnd 0
      | some ['='] => return .look false false
      | some ['!'] => return .look false true
      | some unit => fails (.unknownExtension ('<' :: unit)) (unit.length + 2)
    | ['('] => return .condition
    | ['>'] => return .atomic
    | [c] =>
      if isFlag c || c = '-' then
        match ← readFlags c with
        | none => return .global
        | some (on, off) => return .scoped on off
      else fails (.unknownExtension unit) 2
    | unit => fails (.unknownExtension unit) (unit.length + 1)

mutual
/-- Alternatives up to a closing parenthesis or the end. At the top the flags are those set for the
whole pattern. -/
def alternatives : Nat → Bool → Flags → Reader Node
  | 0, _, _ => return .nothing
  | steps + 1, isTop, flags => do
    let first ← sequence steps isTop isTop flags []
    let rest ← moreAlternatives steps isTop flags
    return .eitherOf first rest

def moreAlternatives : Nat → Bool → Flags → Reader (List Node)
  | 0, _, _ => return []
  | steps + 1, isTop, flags => do
    if ← accept '|' then
      let n ← sequence steps isTop false flags []
      return n :: (← moreAlternatives steps isTop flags)
    else return []

/-- Nodes up to a bar, a closing parenthesis or the end; `done` is reversed. -/
def sequence : Nat → Bool → Bool → Flags → List Node → Reader Node
  | 0, _, _, _, done => return .ofList done.reverse
  | steps + 1, isTop, isFirst, flags, done => do
    let p ← get
    let flags := if isTop then p.flags else flags
    match ← next? with
    | none => return .ofList done.reverse
    | some unit =>
      if unit = ['|'] || unit = [')'] then return .ofList done.reverse
      advance
      let goOn (n : Node) : Reader Node := sequence steps isTop isFirst flags (n :: done)
      match unit with
      | ['\\', c] => goOn (← outerEscape flags c)
      | [c] =>
        if flags.verbose && " \t\n\r\x0b\x0c".toList.contains c then
          sequence steps isTop isFirst flags done
        else if flags.verbose && c = '#' then
          skipLine ((← unitsLeft) + 1)
          sequence steps isTop isFirst flags done
        else
          match c with
          | '.' => goOn (.anyChar flags.dotAll)
          | '^' => goOn (.place (if flags.lines then .lineStart else .textStart))
          | '$' => goOn (.place (if flags.lines then .lineEnd else .lastLineEnd))
          | '[' => goOn (← readSet flags)
          | '(' => do
            let start := (← place) - 1
            let opening ← readOpening flags start
            match opening with
            | .node n => goOn n
            | .comment => sequence steps isTop isFirst flags done
            | .global =>
              if isFirst && done.isEmpty then sequence steps isTop isFirst flags done
              else fails .globalFlags ((← place) - start)
            | opening => goOn (← groupBody steps flags start opening)
          | _ => do
            let start ← place
            let bounds ← (do
              match c with
              | '?' => return some (0, some 1)
              | '*' => return some (0, none)
              | '+' => return some (1, none)
              | '\x7b' => braceBounds
              | _ => return none)
            match bounds with
            | none => goOn (literal flags c)
            | some (least, most) =>
              sequence steps isTop isFirst flags (← repeatLast start 1 least most done)
      | _ => return .ofList done.reverse

/-- A group from behind its opening. -/
def groupBody : Nat → Flags → Nat → Opening → Reader Node
  | 0, _, _, _ => return .nothing
  | steps + 1, flags, start, opening => do
    match opening with
    | .plain name =>
      let index ← openGroup name
      let body ← alternatives steps false flags
      expectClosing start
      closeGroup index body
      return .group (some index) body
    | .atomic =>
      let body ← alternatives steps false flags
      expectClosing start
      return .atomic body
    | .scoped on off =>
      let flags := off.foldl (setFlag false) (on.foldl (setFlag true) flags)
      let body ← alternatives steps false flags
      expectClosing start
      return .group none body
    | .look ahead negated =>
      let outer := (← get).lookbehind
      if !ahead && outer.isNone then
        let next ← groupCountNext
        modify fun p => { p with lookbehind := some next }
      let body ← alternatives steps false flags
      if !ahead && outer.isNone then modify fun p => { p with lookbehind := none }
      expectClosing start
      let p ← get
      return .look ahead negated (body.width (groupWidth p)).least body
    | .condition =>
      let index ← conditionGroup
      checkLookbehind index
      let yes ← sequence steps false false flags []
      let no ← (do
        if ← accept '|' then
          let no ← sequence steps false false flags []
          if (← next?) = some ['|'] then fails .manyBranches 0 else return no
        else return .nothing)
      expectClosing start
      return .ifGroup index yes no
    | _ =>
      let body ← alternatives steps false flags
      expectClosing start
      return .group none body
end

def readAll (steps : Nat) : Reader Node := do
  checkDangling
  let root ← alternatives steps true (← get).flags
  if (← get).flagLetters.contains 'a' && (← get).flagLetters.contains 'u' then
    throw ⟨.characterSets, none⟩
  else if (← next?).isSome then fails .unbalanced 0
  else
    let p ← get
    match p.conditions.find? (·.1 > p.groups.length) with
    | some (index, at_) => throw ⟨.invalidReference index, some at_⟩
    | none =>
      match root.lookbehindFault? (groupWidth p) with
      | some fault => throw ⟨fault, none⟩
      | none => return root

/-- The pattern that a text denotes. -/
def ofText (t : Text) : Except PatternError Pattern :=
  let start : Progress :=
    ⟨unitsOf t, t.length, ⟨false, false, false, false, false⟩, [], [], none, [], []⟩
  match (readAll (4 * t.length + 8)).run start with
  | .ok (root, p) => .ok ⟨root, p.groups.length⟩
  | .error e => .error e

end TypeAtlas.Pattern
