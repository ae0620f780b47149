import TypeAtlas.Text.Case
import TypeAtlas.Text.Digits
import TypeAtlas.Text.Integer

/-!
Styles of text by name: attributes, a colour, a colour behind it and a link. Words for the same
style in another order or in short form come to the same name.
-/

namespace TypeAtlas

/-- The attributes of a style, in the order in which they are written. -/
inductive Attribute
  | bold | dim | italic | underline | blink | fastBlink | reverse | conceal | strike
  | doubleUnderline | frame | encircle | overline
  deriving DecidableEq, Repr

namespace Attribute

def all : List Attribute :=
  [bold, dim, italic, underline, blink, fastBlink, reverse, conceal, strike, doubleUnderline, frame,
    encircle, overline]

def name : Attribute → Text
  | bold => "bold"
  | dim => "dim"
  | italic => "italic"
  | underline => "underline"
  | blink => "blink"
  | fastBlink => "blink2"
  | reverse => "reverse"
  | conceal => "conceal"
  | strike => "strike"
  | doubleUnderline => "underline2"
  | frame => "frame"
  | encircle => "encircle"
  | overline => "overline"

def short? : Attribute → Option Text
  | bold => some "b"
  | dim => some "d"
  | italic => some "i"
  | underline => some "u"
  | reverse => some "r"
  | conceal => some "c"
  | strike => some "s"
  | doubleUnderline => some "uu"
  | overline => some "o"
  | _ => none

def ofWord? (t : Text) : Option Attribute := all.find? fun a => a.name = t || a.short? = some t

end Attribute

inductive StyleFault
  | unknown
  /-- a part of a colour that should be a number is empty -/
  | missingNumber
  | longNumber (digits : Nat)
  deriving DecidableEq, Repr

namespace Color

def nameLines : List String := [
  "black red green yellow blue magenta cyan white bright_black bright_red bright_green",
  "bright_yellow bright_blue bright_magenta bright_cyan bright_white grey0 gray0 navy_blue",
  "dark_blue blue3 blue1 dark_green deep_sky_blue4 dodger_blue3 dodger_blue2 green4",
  "spring_green4 turquoise4 deep_sky_blue3 dodger_blue1 green3 spring_green3 dark_cyan",
  "light_sea_green deep_sky_blue2 deep_sky_blue1 spring_green2 cyan3 dark_turquoise",
  "turquoise2 green1 spring_green1 medium_spring_green cyan2 cyan1 dark_red deep_pink4",
  "purple4 purple3 blue_violet orange4 grey37 gray37 medium_purple4 slate_blue3 royal_blue1",
  "chartreuse4 dark_sea_green4 pale_turquoise4 steel_blue steel_blue3 cornflower_blue",
  "chartreuse3 cadet_blue sky_blue3 steel_blue1 pale_green3 sea_green3 aquamarine3",
  "medium_turquoise chartreuse2 sea_green2 sea_green1 aquamarine1 dark_slate_gray2",
  "dark_magenta dark_violet purple light_pink4 plum4 medium_purple3 slate_blue1 yellow4",
  "wheat4 grey53 gray53 light_slate_grey light_slate_gray medium_purple light_slate_blue",
  "dark_olive_green3 dark_sea_green light_sky_blue3 sky_blue2 dark_sea_green3",
  "dark_slate_gray3 sky_blue1 chartreuse1 light_green pale_green1 dark_slate_gray1 red3",
  "medium_violet_red magenta3 dark_orange3 indian_red hot_pink3 medium_orchid3 medium_orchid",
  "medium_purple2 dark_goldenrod light_salmon3 rosy_brown grey63 gray63 medium_purple1 gold3",
  "dark_khaki navajo_white3 grey69 gray69 light_steel_blue3 light_steel_blue yellow3",
  "dark_sea_green2 light_cyan3 light_sky_blue1 green_yellow dark_olive_green2 dark_sea_green1",
  "pale_turquoise1 deep_pink3 magenta2 hot_pink2 orchid medium_orchid1 orange3 light_pink3",
  "pink3 plum3 violet light_goldenrod3 tan misty_rose3 thistle3 plum2 khaki3 light_goldenrod2",
  "light_yellow3 grey84 gray84 light_steel_blue1 yellow2 dark_olive_green1 honeydew2",
  "light_cyan1 red1 deep_pink2 deep_pink1 magenta1 orange_red1 indian_red1 hot_pink",
  "dark_orange salmon1 light_coral pale_violet_red1 orchid2 orchid1 orange1 sandy_brown",
  "light_salmon1 light_pink1 pink1 plum1 gold1 navajo_white1 misty_rose1 thistle1 yellow1",
  "light_goldenrod1 khaki1 wheat1 cornsilk1 grey100 gray100 grey3 gray3 grey7 gray7 grey11",
  "gray11 grey15 gray15 grey19 gray19 grey23 gray23 grey27 gray27 grey30 gray30 grey35 gray35",
  "grey39 gray39 grey42 gray42 grey46 gray46 grey50 gray50 grey54 gray54 grey58 gray58 grey62",
  "gray62 grey66 gray66 grey70 gray70 grey74 gray74 grey78 gray78 grey82 gray82 grey85 gray85",
  "grey89 gray89 grey93 gray93 default"]

def names : List Text := nameLines.flatMap fun line => Text.words line.toList

/-- What stands in the brackets of a colour such as `rgb(1,2,3)`. -/
def inner? (head t : Text) : Option Text :=
  if head.isPrefixOf t && t.getLast? = some ')' then some (t.drop head.length).dropLast else none

def isHexSmall (c : Char) : Bool := c.isDigit || ('a' ≤ c && c ≤ 'f')

/-- A part of a colour; it is known to hold decimal digits of any script. -/
def part (t : Text) : Except StyleFault Nat :=
  if t.isEmpty then .error .missingNumber
  else if Text.mostDigits < t.length then .error (.longNumber t.length)
  else .ok (Text.decimal t)

/-- Red, green and blue, each up to 255. -/
def checkParts (t : Text) : Except StyleFault Unit :=
  match Text.fields ',' t with
  | [red, green, blue] => do
    let red ← part red
    let green ← part green
    let blue ← part blue
    if red ≤ 255 && green ≤ 255 && blue ≤ 255 then .ok () else .error .unknown
  | _ => .error .unknown

/-- A colour is a name, six digits in base sixteen, a number up to 255, or red, green and blue. -/
def check (t : Text) : Except StyleFault Unit :=
  if names.contains t then .ok ()
  else match t with
  | '#' :: digits =>
    if digits.length = 6 && digits.all isHexSmall then .ok () else .error .unknown
  | _ =>
    match inner? "color(" t, inner? "rgb(" t with
    | some number, _ =>
      if 1 ≤ number.length && number.length ≤ 3 && number.all Char.isDigit &&
          decimalValue number ≤ 255 then .ok () else .error .unknown
    | none, some parts =>
      if !parts.isEmpty && parts.all fun c => c = ',' || isDecimal c then checkParts parts
      else .error .unknown
    | none, none => .error .unknown

end Color

structure Style where
  /-- attributes switched on or off, the latest first -/
  attributes : List (Attribute × Bool)
  color : Option Text
  background : Option Text
  link : Option Text
  deriving DecidableEq, Repr

namespace Style

def plain : Style := ⟨[], none, none, none⟩

def readWords (s : Style) : List Text → Except StyleFault Style
  | [] => .ok s
  | word :: rest =>
    match String.ofList word.lower, rest with
    | "on", color :: rest => do
      Color.check color.lower
      readWords { s with background := some color.lower } rest
    | "not", word :: rest =>
      match Attribute.ofWord? word with
      | some a => readWords { s with attributes := (a, false) :: s.attributes } rest
      | none => .error .unknown
    | "link", address :: rest => readWords { s with link := some address } rest
    | _, rest =>
      match Attribute.ofWord? word.lower with
      | some a => readWords { s with attributes := (a, true) :: s.attributes } rest
      | none => do
        Color.check word.lower
        readWords { s with color := some word.lower } rest

def ofText (t : Text) : Except StyleFault Style :=
  if t.strip = "none".toList then .ok plain else readWords plain (Text.words t)

def writtenAttribute (s : Style) (a : Attribute) : Option Text :=
  (s.attributes.lookup a).map fun isOn => if isOn then a.name else "not " ++ a.name

def written (s : Style) : Text :=
  let after (word : Text) (t : Option Text) : List Text := (t.map (word ++ ·)).toList
  let words := Attribute.all.filterMap s.writtenAttribute ++ s.color.toList ++
    after "on " s.background ++ after "link " s.link
  if words.isEmpty then "none" else Text.join " " words

/-- The name that all words for one style come to. Words for no style stand for themselves. -/
def nameOf (t : Text) : Except StyleFault Text :=
  match ofText t with
  | .ok s => .ok s.written
  | .error .unknown => .ok t.strip.lower
  | .error fault => .error fault

end Style

end TypeAtlas
