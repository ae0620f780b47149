import TypeAtlas.Location.LabelTable
import TypeAtlas.Location.Punycode
import TypeAtlas.Text.Case
import TypeAtlas.Text.Composition
import TypeAtlas.Text.Quoted

/-!
Host names of any script. A name is a row of labels with dots between them; on the network each
label is written in ASCII, in Punycode behind a prefix where it holds other characters. A label has
to be composed, to be made of characters that are allowed in their place, and to run in one
direction.
-/

namespace TypeAtlas

/-- What a fault of a label is about. -/
inductive LabelConcern
  | form | character | context | direction
  deriving DecidableEq, Repr

inductive LabelFault
  | longDomain
  | longLabel
  | emptyDomain
  | emptyLabel
  | uncomposed
  | innerHyphens
  | outerHyphen
  | startsWithMark
  | noContent
  | endsWithHyphen
  | unreadable
  | notAllowed (c : Char) (position : Nat) (label : Text)
  | badJoiner (c : Char) (position : Nat) (label : Text)
  | outOfContext (c : Char) (position : Nat) (label : Text)
  | unknownDirection (position : Nat) (label : Text)
  | noDirection (label : Text)
  | notLeftward (position : Nat)
  | notRightward (position : Nat)
  | mixedNumerals
  | openEnd
  deriving DecidableEq, Repr

namespace LabelFault

/-- A code point as it is cited. -/
def cited (c : Char) : Text := "U+" ++ (Text.hex 4 c.toNat).map Char.toUpper

def at_ (position : Nat) : Text := " at position ".toList ++ Text.ofNat position

def message : LabelFault → Text
  | longDomain => "Domain too long"
  | longLabel => "Label too long"
  | emptyDomain => "Empty domain"
  | emptyLabel => "Empty Label"
  | uncomposed => "Label must be in Normalization Form C"
  | innerHyphens => "Label has disallowed hyphens in 3rd and 4th position"
  | outerHyphen => "Label must not start or end with a hyphen"
  | startsWithMark => "Label begins with an illegal combining character"
  | noContent => "Malformed A-label, no Punycode eligible content found"
  | endsWithHyphen => "A-label must not end with a hyphen"
  | unreadable => "Invalid A-label"
  | notAllowed c position label =>
    "Codepoint " ++ cited c ++ at_ position ++ " of " ++ label.quoted ++ " not allowed"
  | badJoiner c position label =>
    "Unknown codepoint adjacent to joiner " ++ cited c ++ at_ position ++ " in " ++ label.quoted
  | outOfContext c position label =>
    "Codepoint " ++ cited c ++ " not allowed" ++ at_ position ++ " in " ++ label.quoted
  | unknownDirection position label =>
    "Unknown directionality in label " ++ label.quoted ++ at_ position
  | noDirection label =>
    "First codepoint in label " ++ label.quoted ++ " must be directionality L, R or AL"
  | notLeftward position =>
    "Invalid direction for codepoint" ++ at_ position ++ " in a right-to-left label"
  | notRightward position =>
    "Invalid direction for codepoint" ++ at_ position ++ " in a left-to-right label"
  | mixedNumerals => "Can not mix numeral types in a right-to-left label"
  | openEnd => "Label ends with illegal codepoint directionality"

def concern : LabelFault → LabelConcern
  | notAllowed .. => .character
  | outOfContext .. => .context
  | unknownDirection .. | noDirection _ | notLeftward _ | notRightward _ | mixedNumerals
  | openEnd => .direction
  | _ => .form

end LabelFault

def CodeSpan.covers (s : CodeSpan) (n : Nat) : Bool :=
  s.first ≤ n && n ≤ s.last && (n - s.first) % s.step == 0

namespace HostName

/-- Whether a character is allowed anywhere in a label. -/
def isLabelChar (c : Char) : Bool :=
  if c.toNat < 128 then c.isLower || c.isDigit || c == '-'
  else labelSpans.any (·.covers c.toNat)

def isNewcomer (c : Char) : Bool := inRanges newcomerRanges c

/-! ## Direction -/

inductive Direction
  | rightward | leftward | arabic | arabicNumber | europeanNumber | separator | neutral | mark
  | boundary
  deriving DecidableEq, Repr

/-- Marks that stand for themselves. -/
def openMarks : List Nat := [0xcbf, 0xcc6, 0x11a07, 0x11a08, 0x11c3f]

def isArabicDigit (c : Char) : Bool := 0x660 ≤ c.toNat && c.toNat ≤ 0x669

def isEasternDigit (c : Char) : Bool := 0x6f0 ≤ c.toNat && c.toNat ≤ 0x6f9

def isJoiner (c : Char) : Bool := c.toNat == 0x200c || c.toNat == 0x200d

/-- The direction of a character that is allowed, unless nothing is known of it. -/
def direction? (c : Char) : Option Direction :=
  if isNewcomer c then none
  else some (
    if c.isDigit || isEasternDigit c then .europeanNumber
    else if isArabicDigit c || (0x10d30 ≤ c.toNat && c.toNat ≤ 0x10d39) then .arabicNumber
    else if c = '-' then .separator
    else if isJoiner c then .boundary
    else if isPlainMark c && !openMarks.contains c.toNat then .mark
    else if inRanges leftwardRanges c then .leftward
    else if inRanges arabicRanges c then .arabic
    else if inRanges neutralRanges c then .neutral
    else .rightward)

def isLeftward (d : Direction) : Bool := d = .leftward || d = .arabic || d = .arabicNumber

/-- The directions of the characters from a position on. -/
def directions (label : Text) (position : Nat) : Text → Except LabelFault (List Direction)
  | [] => .ok []
  | c :: r =>
    match direction? c with
    | some d => (directions label (position + 1) r).map (d :: ·)
    | none => .error (.unknownDirection position label)

/-- What is wrong in a label that runs from right to left; numbers in it are all of one kind. -/
def leftwardFault? (number : Option Direction) (position : Nat) :
    List Direction → Option LabelFault
  | [] => none
  | d :: ds =>
    if d = .rightward then some (.notLeftward position)
    else if d = .arabicNumber || d = .europeanNumber then
      if number.any (· ≠ d) then some .mixedNumerals
      else leftwardFault? (some d) (position + 1) ds
    else leftwardFault? number (position + 1) ds

def rightwardFault? (position : Nat) : List Direction → Option LabelFault
  | [] => none
  | d :: ds => if isLeftward d then some (.notRightward position) else rightwardFault? (position + 1) ds

/-- Marks aside, a label ends with a letter that runs in its direction or with a number. -/
def endFault? (ends : List Direction) (ds : List Direction) : Option LabelFault :=
  if (ds.reverse.dropWhile (· = .mark)).head?.any ends.contains then none else some .openEnd

/-- A label with characters that run from right to left runs in one direction; others are free. -/
def directionFault? (label : Text) : Option LabelFault :=
  match directions label 1 label with
  | .error fault => some fault
  | .ok ds =>
    if !ds.any isLeftward then none
    else match ds with
      | .leftward :: _ | .arabic :: _ =>
        (leftwardFault? none 1 ds).or
          (endFault? [.leftward, .arabic, .europeanNumber, .arabicNumber] ds)
      | .rightward :: _ => (rightwardFault? 1 ds).or (endFault? [.rightward, .europeanNumber] ds)
      | _ => some (.noDirection label)

/-! ## Characters in context -/

/-- The class of marks that take the vowel from a consonant. -/
def viramaClass : Nat := 9

/-- Whether joining passes through a character. -/
def isTransparent (c : Char) : Bool := (isPlainMark c && c.toNat ≠ 0x1171e) || c.toNat = 0x1e94b

def joinsRight (c : Char) : Bool := inRanges dualJoiningRanges c || inRanges leftJoiningRanges c

def joinsLeft (c : Char) : Bool := inRanges dualJoiningRanges c || inRanges rightJoiningRanges c

/-- Whether a joiner may stand between what is before it, reversed, and what is behind it. A
non-joiner may also part two characters that would join. -/
def allowsJoiner (before : Text) (c : Char) (behind : Text) : Bool :=
  before.head?.any (combiningClass · = viramaClass) ||
    (c.toNat = 0x200c && (before.dropWhile isTransparent).head?.any joinsRight &&
      (behind.dropWhile isTransparent).head?.any joinsLeft)

/-- Whether a character may stand in its context; `none` when it is not allowed anywhere. -/
def fits? (label before : Text) (c : Char) (behind : Text) : Option Bool :=
  let n := c.toNat
  if n = 0xb7 then some (before.head? = some 'l' && behind.head? = some 'l')
  else if n = 0x375 then some (behind.head?.any (inRanges greekRanges))
  else if n = 0x5f3 || n = 0x5f4 then some (before.head?.any (inRanges hebrewRanges))
  else if n = 0x30fb then some (label.any (inRanges japaneseRanges))
  else if isArabicDigit c then some (!label.any isEasternDigit)
  else if isEasternDigit c then some (!label.any isArabicDigit)
  else none

/-- The first fault among the characters behind `before`, which is reversed. -/
def characterFault? (label before : Text) : Text → Option LabelFault
  | [] => none
  | c :: behind =>
    let fault? : Option LabelFault :=
      if isLabelChar c then none
      else if isJoiner c then
        if allowsJoiner before c behind then none
        else some (.badJoiner c (before.length + 1) label)
      else match fits? label before c behind with
        | some true => none
        | some false => some (.outOfContext c (before.length + 1) label)
        | none => some (.notAllowed c (before.length + 1) label)
    match fault? with
    | some fault => some fault
    | none => characterFault? label (c :: before) behind

/-! ## Labels and names -/

def labelFault? (label : Text) : Option LabelFault :=
  if label.isEmpty then some .emptyLabel
  else if !label.isComposed then some .uncomposed
  else if label.slice 2 4 = ['-', '-'] then some .innerHyphens
  else if label.head? = some '-' || label.getLast? = some '-' then some .outerHyphen
  else if label.head?.any isMark then some .startsWithMark
  else (characterFault? label [] label).or (directionFault? label)

def checkLabel (label : Text) : Except LabelFault Unit :=
  match labelFault? label with
  | some fault => .error fault
  | none => .ok ()

/-- What marks a label written in Punycode. -/
def codePrefix : Text := "xn--"

def isBasic (label : Text) : Bool := label.all Punycode.isBasic

/-- What the Punycode behind the prefix stands for. -/
def decoded (coded : Text) : Except LabelFault Text :=
  if coded.isEmpty then .error .noContent
  else if coded.getLast? = some '-' then .error .endsWithHyphen
  else match Punycode.decode? coded with
    | some label => .ok label
    | none => .error .unreadable

/-- A label as it reads, in small letters where it is in ASCII. -/
def readLabel (label : Text) : Except LabelFault Text := do
  let small := label.map Char.toLower
  let label ← if !isBasic label then pure label
    else if codePrefix.isPrefixOf small then decoded (small.drop codePrefix.length)
    else pure small
  checkLabel label
  return label

/-- Labels on the network have at most this many characters. -/
def longestLabel : Nat := 63

/-- A label as it is written on the network. -/
def writeLabel (label : Text) : Except LabelFault Text := do
  let written ← (
    if isBasic label then do
      let _ ← readLabel label
      return label
    else do
      checkLabel label
      return codePrefix ++ Punycode.encode label)
  if longestLabel < written.length then throw .longLabel else return written

def isDot (c : Char) : Bool := [0x2e, 0x3002, 0xff0e, 0xff61].contains c.toNat

/-- The labels of a name, and whether a dot follows the last one. -/
def labels (name : Text) : List Text × Bool :=
  let parts := Text.fields '.' (name.map fun c => if isDot c then '.' else c)
  if parts.getLast? = some [] then (parts.dropLast, true) else (parts, false)

/-- Names have at most this many characters, with a dot at the end. -/
def longestName : Nat := 254

def ofLabels (parts : List Text) (endsInDot : Bool) : Text :=
  Text.join "." (parts ++ if endsInDot then [[]] else [])

/-- A name as it is written on the network. -/
def write (name : Text) : Except LabelFault Text := do
  if longestName < name.length then throw .longDomain
  if name.isEmpty then throw .emptyDomain
  let (parts, endsInDot) := labels name
  let written := ofLabels (← parts.mapM writeLabel) endsInDot
  if longestName < written.length + (if endsInDot then 0 else 1) then throw .longDomain
  return written

/-- A name as it reads. -/
def read (name : Text) : Except LabelFault Text := do
  if longestName < name.length then throw .longDomain
  if name.isEmpty then throw .emptyDomain
  let (parts, endsInDot) := labels name
  return ofLabels (← parts.mapM readLabel) endsInDot

end HostName

end TypeAtlas
