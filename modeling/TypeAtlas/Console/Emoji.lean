import TypeAtlas.Console.EmojiTable
import TypeAtlas.Text.Case

/-!
Emoji in text. A name between colons stands for its emoji; behind the name `-text` or `-emoji` may
ask for one way of showing it. A name that is unknown stays as it is.
-/

namespace TypeAtlas

namespace Emoji

def hexText (t : Text) : Text := (Text.fields '.' t).map fun p => Char.ofNat (hexValue p)

/-- The sign of a letter that makes flags. -/
def flagLetter (c : Char) : Char := Char.ofNat (0x1F1E6 + (c.toNat - 'A'.toNat))

def valuesIn (decode : Text → Text) (lines : List String) : List (Text × Text) :=
  (entries lines).map fun e => (e.name, decode e.value)

def pictures : List (Text × Text) := valuesIn hexText pictureLines

def toned : List (Text × Text) := valuesIn hexText tonedLines

def flags : List (Text × Text) := valuesIn (·.map flagLetter) flagLines

def loneFlags : List (Text × Text) := valuesIn (·.map flagLetter) loneFlagLines

/-- The tones of skin, each as the end of a name and as the sign behind a person. -/
def tones : List (Text × Char) :=
  ([("_light_skin_tone", 0x1F3FB), ("_medium-light_skin_tone", 0x1F3FC),
    ("_medium_skin_tone", 0x1F3FD), ("_medium-dark_skin_tone", 0x1F3FE),
    ("_dark_skin_tone", 0x1F3FF)] : List (Text × Nat)).map fun (name, n) => (name, Char.ofNat n)

def pictureVariant : Char := Char.ofNat 0xFE0F

def textVariant : Char := Char.ofNat 0xFE0E

/-- A picture in a tone; the sign stands behind the first character and replaces a variant. -/
def inTone (tone : Char) : Text → Text
  | [] => []
  | c :: r => c :: tone :: if r.head? = some pictureVariant then r.tail else r

def ofTonedName? (name : Text) : Option Text :=
  tones.findSome? fun (ending, tone) =>
    if Text.endsWith ending name then
      (toned.lookup (name.take (name.length - ending.length))).map (inTone tone)
    else none

def flagMark : Text := "flag_for_"

def ofFlagName? (name : Text) : Option Text :=
  if flagMark.isPrefixOf name then flags.lookup (name.drop flagMark.length) else flags.lookup name

def ofName? (name : Text) : Option Text :=
  pictures.lookup name <|> toned.lookup name <|> ofFlagName? name <|> loneFlags.lookup name <|>
    ofTonedName? name

/-- A name between colons: the name, the variant asked for, and the length up to the colon that
ends it. -/
structure Code where
  name : Text
  variant : Text
  length : Nat

namespace Code

def variants : List (Text × Text) := [("-emoji:", [pictureVariant]), ("-text:", [textVariant])]

/-- The code behind a colon, the shortest one, where `seen` is the name so far, reversed. -/
def readFrom? (seen : Text) : Text → Option Code
  | [] => none
  | c :: r =>
    match variants.find? (·.1.isPrefixOf (c :: r)) with
    | some (ending, variant) => some ⟨seen.reverse, variant, seen.length + ending.length⟩
    | none =>
      if c = ':' then some ⟨seen.reverse, [], seen.length + 1⟩
      else if isBlank c then none
      else readFrom? (c :: seen) r

def value? (k : Code) : Option Text := (ofName? k.name.lower).map (· ++ k.variant)

end Code

/-- Puts emoji in place of their names, where the first `skip` characters are done with and `kept`
says whether they stay. -/
def replaceFrom (skip : Nat) (kept : Bool) : Text → Text
  | [] => []
  | c :: r =>
    match skip with
    | skip + 1 => if kept then c :: replaceFrom skip kept r else replaceFrom skip kept r
    | 0 =>
      if c = ':' then
        match Code.readFrom? [] r with
        | some k =>
          match k.value? with
          | some value => value ++ replaceFrom k.length false r
          | none => c :: replaceFrom k.length true r
        | none => c :: replaceFrom 0 true r
      else c :: replaceFrom 0 true r

def replaced (t : Text) : Text := replaceFrom 0 true t

end Emoji

end TypeAtlas
