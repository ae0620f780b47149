import TypeAtlas.Text.MarkTable
import TypeAtlas.Text.WordClass

/-!
Marks, which combine with the character in front of them.
-/

namespace TypeAtlas

def isPlainMark (c : Char) : Bool := inRanges plainMarkRanges c

def isSpacingMark (c : Char) : Bool := inRanges spacingMarkRanges c

def isEnclosingMark (c : Char) : Bool := inRanges enclosingMarkRanges c

def isMark (c : Char) : Bool := isPlainMark c || isSpacingMark c || isEnclosingMark c

end TypeAtlas
