import TypeAtlas.Text.Mark

/-!
Identifiers of any script: a letter or an underscore, and then letters, decimal digits, marks, and
signs that connect them.
-/

namespace TypeAtlas

/-- Letters whose compatibility form starts with a blank or a mark. -/
def unfitStartRanges : List (Nat × Nat) := [
   (0x37a, 0x37a), (0xe33, 0xe33), (0xeb3, 0xeb3), (0x2e2f, 0x2e2f), (0xfc5e, 0xfc63),
   (0xfdfa, 0xfdfb), (0xfe70, 0xfe70), (0xfe72, 0xfe72), (0xfe74, 0xfe74), (0xfe76, 0xfe76),
   (0xfe78, 0xfe78), (0xfe7a, 0xfe7a), (0xfe7c, 0xfe7c), (0xfe7e, 0xfe7e), (0xff9e, 0xff9f)]

/-- Letters whose compatibility form holds a blank. -/
def unfitRanges : List (Nat × Nat) := [
   (0x37a, 0x37a), (0x2e2f, 0x2e2f), (0xfc5e, 0xfc63), (0xfdfa, 0xfdfb), (0xfe70, 0xfe70),
   (0xfe72, 0xfe72), (0xfe74, 0xfe74), (0xfe76, 0xfe76), (0xfe78, 0xfe78), (0xfe7a, 0xfe7a),
   (0xfe7c, 0xfe7c), (0xfe7e, 0xfe7e)]

/-- Signs and numerals that go on with an identifier. -/
def connectorRanges : List (Nat × Nat) := [
   (0x5f, 0x5f), (0xb7, 0xb7), (0x387, 0x387), (0x1369, 0x1371), (0x19da, 0x19da),
   (0x203f, 0x2040), (0x2054, 0x2054), (0x2118, 0x2118), (0x212e, 0x212e), (0xfe33, 0xfe34),
   (0xfe4d, 0xfe4f), (0xff3f, 0xff3f)]

/-- Letters as identifiers know them: some numerals are formed like letters, and some signs and
marks once were. -/
def isIdentifierStart (c : Char) : Bool :=
  c == '_' || [0x1885, 0x1886, 0x2118, 0x212e].contains c.toNat ||
    ((isLetter c || inRanges letterNumeralRanges c) && !inRanges unfitStartRanges c)

def continuesIdentifier (c : Char) : Bool :=
  inRanges connectorRanges c ||
    ((isLetter c || inRanges letterNumeralRanges c || isDecimal c || isPlainMark c ||
      isSpacingMark c) && !inRanges unfitRanges c)

def isIdentifier : Text → Bool
  | [] => false
  | c :: r => isIdentifierStart c && r.all continuesIdentifier

end TypeAtlas
