import TypeAtlas.Text.WordClass
import TypeAtlas.Text.HiddenTable

/-!
Quoted text for messages. Single quotes, unless the text holds a single quote and no double one; a
character without a shape is written by its number.
-/

namespace TypeAtlas

def isShown (c : Char) : Bool :=
  if c.toNat < 128 then 32 ≤ c.toNat && c.toNat < 127 else !inRanges hiddenRanges c

namespace Text

def quoteMark (t : Text) : Char := if t.contains '\'' && !t.contains '"' then '"' else '\''

/-- One character between quotation marks of the kind `mark`. -/
def quoteChar (mark c : Char) : Text :=
  if c = mark || c = '\\' then ['\\', c]
  else if c = '\n' then "\\n"
  else if c = '\r' then "\\r"
  else if c = '\t' then "\\t"
  else if isShown c then [c]
  else if c.toNat < 0x100 then "\\x" ++ hex 2 c.toNat
  else if c.toNat < 0x10000 then "\\u" ++ hex 4 c.toNat
  else "\\U" ++ hex 8 c.toNat

def quoted (t : Text) : Text :=
  let mark := quoteMark t
  mark :: (t.flatMap (quoteChar mark) ++ [mark])

end Text

end TypeAtlas
