import TypeAtlas.Console.Emoji
import TypeAtlas.Console.Handler
import TypeAtlas.Console.Style

/-!
Styled text. A tag in square brackets switches a style on, a tag with a slash in front switches it
off again, and a backslash keeps what follows from being a tag. A console without colours shows
what is left once the tags are taken out.
-/

namespace TypeAtlas

/-- Why styled text cannot be read. -/
inductive StyledFault
  /-- the tag at a position switches off a style that is not on -/
  | notOpen (tag : Text) (position : Nat)
  | nothingOpen (position : Nat)
  | style (fault : StyleFault)
  | handler (fault : HandlerFault)
  deriving DecidableEq, Repr

namespace StyledFault

def message : StyledFault → Text
  | notOpen tag position => "closing tag '" ++ tag ++ "' at position " ++ Text.ofNat position ++
      " doesn't match any open tag"
  | nothingOpen position => "closing tag '[/]' at position " ++ Text.ofNat position ++
      " has nothing to close"
  | style (.longNumber digits) => "Exceeds the limit (4300 digits) for integer string conversion: " ++
      "value has ".toList ++ Text.ofNat digits ++
      " digits; use sys.set_int_max_str_digits() to increase the limit"
  | handler fault => fault.message
  | style _ => "invalid literal for int() with base 10: ''"

end StyledFault

inductive StyledPiece
  | plain (t : Text)
  | opening (style parameters : Text)
  /-- no style stands for the one switched on last -/
  | closing (style tag : Text) (position : Nat)
  deriving DecidableEq, Repr

namespace StyledPiece

def isTagStart (c : Char) : Bool := c.isLower || c = '#' || c = '/' || c = '@'

/-- The tag that starts a text without opening brackets, and what follows its closing bracket. -/
def cutTag? (t : Text) : Option (Text × Text) :=
  match t with
  | [] => none
  | c :: _ => if isTagStart c then Text.cut? "]" t else none

/-- What a tag at a position does. Its parameters follow an equals sign. -/
def ofTag (tag : Text) (position : Nat) : StyledPiece :=
  match tag.takeWhile (· ≠ '=') with
  | '/' :: style => closing (Text.strip style) ('[' :: (tag ++ [']'])) position
  | style => opening style ((tag.dropWhile (· ≠ '=')).drop 1)

/-- Text between tags. A backslash in front of a bracket that starts no tag is left out, and
names of emoji give way to them. -/
def ofPlain (t : Text) : StyledPiece := plain (Emoji.replaced (Text.replaceAll "\\[" "[" t))

/-- The pieces of a tag and the text before it. Backslashes in front of a tag stand for half their
number; an odd one makes the tag plain. The text before the tag starts at `start`. -/
def ofTagged (start : Nat) (before tag : Text) : List StyledPiece :=
  let slashes := (before.reverse.takeWhile (· = '\\')).length
  let text := before.take (before.length - slashes)
  [ofPlain text, plain (List.replicate (slashes / 2) '\\'),
    if slashes % 2 = 1 then ofPlain ('[' :: (tag ++ [']']))
    else ofTag tag (start + text.length + 2 * (slashes / 2))]

/-- The pieces of a text, given as the part before a bracket and the parts after each one; the part
before starts at `start`. -/
def ofParts (start : Nat) (before : Text) : List Text → List StyledPiece
  | [] => [ofPlain before]
  | part :: rest =>
    match cutTag? part with
    | some (tag, after) =>
      ofTagged start before tag ++ ofParts (start + before.length + tag.length + 2) after rest
    | none => ofParts start (before ++ '[' :: part) rest

def ofText (t : Text) : List StyledPiece :=
  match Text.fields '[' t with
  | [] => []
  | before :: parts => ofParts 0 before parts

def styleName (t : Text) : Except StyledFault Text := (Style.nameOf t).mapError .style

/-- A style that is on, with its parameters. -/
structure Active where
  name : Text
  parameters : Text

namespace Active

/-- The parameters matter where the style is a handler. -/
def fault? (a : Active) : Option HandlerFault :=
  if a.name.head? = some '@' then Handler.fault? a.parameters else none

end Active

/-- The style that is switched off by a name, and those that stay on; the latest come first. -/
def split? (name : Text) : List Active → Option (Active × List Active)
  | [] => none
  | a :: rest =>
    if a.name = name then some (a, rest)
    else (split? name rest).map fun (found, rest) => (found, a :: rest)

/-- The styles that stay on, the latest first, when `style` is switched off. -/
def switchOff (style tag : Text) (position : Nat) (styles : List Active) :
    Except StyledFault (List Active) := do
  let (closed, rest) ←
    if style.isEmpty then
      match styles with
      | [] => .error (.nothingOpen position)
      | a :: rest => .ok (a, rest)
    else match split? (← styleName style) styles with
      | some found => .ok found
      | none => .error (.notOpen tag position)
  match closed.fault? with
  | some fault => .error (.handler fault)
  | none => return rest

def plainFrom (styles : List Active) : List StyledPiece → Except StyledFault Text
  | [] => .ok []
  | plain t :: rest => do return t ++ (← plainFrom styles rest)
  | opening style parameters :: rest => do
    plainFrom (⟨← styleName style, parameters⟩ :: styles) rest
  | closing style tag position :: rest => do
    plainFrom (← switchOff style tag position styles) rest

end StyledPiece

/-- Styled text without its tags. -/
def plainText (t : Text) : Except StyledFault Text := StyledPiece.plainFrom [] (StyledPiece.ofText t)

end TypeAtlas
