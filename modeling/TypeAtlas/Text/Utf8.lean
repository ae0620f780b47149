import TypeAtlas.Text.Basic

/-!
Octets read as UTF-8. The first octet that no character can hold is reported, with the octets of
the character it breaks. Texts measured by their octets.
-/

namespace TypeAtlas

inductive Utf8Fault
  | badStart | badContinuation | cutShort
  deriving DecidableEq, Repr

/-- A character that cannot be read: the offset of its first octet, that octet, and how many octets
the fault spans. -/
structure Utf8Error where
  offset : Nat
  octet : Nat
  count : Nat
  fault : Utf8Fault
  deriving DecidableEq, Repr

namespace Utf8Error

def reason (e : Utf8Error) : Text :=
  match e.fault with
  | .badStart => "invalid start byte"
  | .badContinuation => "invalid continuation byte"
  | .cutShort => "unexpected end of data"

def place (e : Utf8Error) : Text :=
  if e.count = 1 then "byte 0x" ++ Text.hex 2 e.octet ++ " in position " ++ Text.ofNat e.offset
  else "bytes in position " ++ Text.ofNat e.offset ++ "-" ++ Text.ofNat (e.offset + e.count - 1)

def message (e : Utf8Error) : Text := "'utf-8' codec can't decode " ++ e.place ++ ": " ++ e.reason

end Utf8Error

/-- A character under way: its first octet, how many octets are read and owed, the range the next
one lies in, and the bits so far. -/
structure PartialChar where
  lead : Nat
  taken : Nat
  owed : Nat
  low : Nat
  high : Nat
  bits : Nat

namespace PartialChar

/-- The range of the second octet keeps out overlong forms, surrogates, and what lies above the
last code point. -/
def ofLead? (b : Nat) : Option PartialChar :=
  if b < 0xC2 then none
  else if b < 0xE0 then some ⟨b, 1, 1, 0x80, 0xBF, b - 0xC0⟩
  else if b = 0xE0 then some ⟨b, 1, 2, 0xA0, 0xBF, 0⟩
  else if b = 0xED then some ⟨b, 1, 2, 0x80, 0x9F, b - 0xE0⟩
  else if b < 0xF0 then some ⟨b, 1, 2, 0x80, 0xBF, b - 0xE0⟩
  else if b = 0xF0 then some ⟨b, 1, 3, 0x90, 0xBF, 0⟩
  else if b = 0xF4 then some ⟨b, 1, 3, 0x80, 0x8F, b - 0xF0⟩
  else if b < 0xF4 then some ⟨b, 1, 3, 0x80, 0xBF, b - 0xF0⟩
  else none

def add (c : PartialChar) (b : Nat) : PartialChar :=
  ⟨c.lead, c.taken + 1, c.owed - 1, 0x80, 0xBF, c.bits * 64 + (b - 0x80)⟩

def error (c : PartialChar) (position : Nat) (fault : Utf8Fault) : Utf8Error :=
  ⟨position - c.taken, c.lead, c.taken, fault⟩

end PartialChar

namespace Text

/-- Reads the octets from `position` on. -/
def decodeFrom (position : Nat) (pending : Option PartialChar) : List Nat → Except Utf8Error Text
  | [] =>
    match pending with
    | none => .ok []
    | some c => .error (c.error position .cutShort)
  | b :: rest =>
    match pending with
    | none =>
      if b < 0x80 then (decodeFrom (position + 1) none rest).map (Char.ofNat b :: ·)
      else match PartialChar.ofLead? b with
        | some c => decodeFrom (position + 1) (some c) rest
        | none => .error ⟨position, b, 1, .badStart⟩
    | some c =>
      if b < c.low || c.high < b then .error (c.error position .badContinuation)
      else
        let c := c.add b
        if c.owed = 0 then (decodeFrom (position + 1) none rest).map (Char.ofNat c.bits :: ·)
        else decodeFrom (position + 1) (some c) rest

def ofUtf8 (octets : List Nat) : Except Utf8Error Text := decodeFrom 0 none octets

/-- What stands for octets that cannot be read. -/
def replacement : Char := Char.ofNat 0xfffd

/-- Reads octets of which some may be unreadable, at most `steps` times. -/
def readLeniently : Nat → List Nat → Text
  | 0, _ => []
  | steps + 1, octets =>
    match ofUtf8 octets with
    | .ok t => t
    | .error e =>
      readLeniently steps (octets.take e.offset) ++
        replacement :: readLeniently steps (octets.drop (e.offset + e.count))

def ofUtf8Leniently (octets : List Nat) : Text := readLeniently (octets.length + 1) octets

def utf8Size (t : Text) : Nat := t.foldl (fun n c => n + c.utf8Size) 0

/-- The longest beginning of at most `n` octets. -/
def takeOctets (n : Nat) : Text → Text
  | [] => []
  | c :: rest => if c.utf8Size ≤ n then c :: takeOctets (n - c.utf8Size) rest else []

/-- The longest end of at most `n` octets. -/
def takeEndOctets (n : Nat) (t : Text) : Text := (takeOctets n t.reverse).reverse

/-- Line ends of every kind become a line feed. -/
def withPlainLineEnds : Text → Text
  | [] => []
  | '\r' :: '\n' :: rest => '\n' :: withPlainLineEnds rest
  | '\r' :: rest => '\n' :: withPlainLineEnds rest
  | c :: rest => c :: withPlainLineEnds rest

end Text

end TypeAtlas
