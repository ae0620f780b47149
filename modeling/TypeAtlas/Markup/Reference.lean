import TypeAtlas.Markup.NameTable

/-!
Character references in markup: by name, the longest that fits, or by number. What is no reference
stays as it is.
-/

namespace TypeAtlas

namespace Markup

/-- What the numbers of the old control range stand for. -/
def controlMeanings : List (Nat × Nat) := [
  (0x80, 0x20AC), (0x82, 0x201A), (0x83, 0x0192), (0x84, 0x201E), (0x85, 0x2026), (0x86, 0x2020),
  (0x87, 0x2021), (0x88, 0x02C6), (0x89, 0x2030), (0x8A, 0x0160), (0x8B, 0x2039), (0x8C, 0x0152),
  (0x8E, 0x017D), (0x91, 0x2018), (0x92, 0x2019), (0x93, 0x201C), (0x94, 0x201D), (0x95, 0x2022),
  (0x96, 0x2013), (0x97, 0x2014), (0x98, 0x02DC), (0x99, 0x2122), (0x9A, 0x0161), (0x9B, 0x203A),
  (0x9C, 0x0153), (0x9E, 0x017E), (0x9F, 0x0178)]

def replacementChar : Char := Char.ofNat 0xFFFD

/-- The character of a number; a number that is no character gives the replacement character. -/
def numbered (n : Nat) : Char :=
  match controlMeanings.lookup n with
  | some meaning => Char.ofNat meaning
  | none => if n = 0 || !decide n.isValidChar then replacementChar else Char.ofNat n

/-- What stands for a reference, and how much of the text behind the ampersand it takes. -/
structure Replacement where
  value : Text
  length : Nat

/-- A number with the `lead` characters in front of it and a semicolon that may follow. -/
def numberReference? (lead : Nat) (isDigit : Char → Bool) (value : Text → Nat) (t : Text) :
    Option Replacement :=
  let digits := t.takeWhile isDigit
  if digits.isEmpty then none
  else
    let stop := if (t.drop digits.length).head? = some ';' then 1 else 0
    some ⟨[numbered (value digits)], lead + digits.length + stop⟩

def longer (a b : Option NamedText) : Option NamedText :=
  match a, b with
  | some x, some y => if x.name.length < y.name.length then b else a
  | none, b => b
  | a, none => a

def longestName? (t : Text) : Option NamedText :=
  namedTexts.foldl (fun best n => if n.name.isPrefixOf t then longer best (some n) else best) none

/-- In an attribute a name without semicolon is none when the text goes on like a word or an
assignment. -/
def runsOn (n : NamedText) (t : Text) : Bool :=
  n.name.getLast? != some ';' &&
    ((t.drop n.name.length).head?.map fun c => c = '=' || c.isAlphanum).getD false

/-- The reference at the beginning of the text behind an ampersand. -/
def reference? (isAttribute : Bool) : Text → Option Replacement
  | '#' :: 'x' :: r => numberReference? 2 isHexDigit hexValue r
  | '#' :: 'X' :: r => numberReference? 2 isHexDigit hexValue r
  | '#' :: r => numberReference? 1 Char.isDigit decimalValue r
  | t =>
    match longestName? t with
    | some n => if isAttribute && runsOn n t then none else some ⟨n.value, n.name.length⟩
    | none => none

/-- Resolves references, where the first `skip` characters belong to one already resolved. -/
def resolveFrom (isAttribute : Bool) (skip : Nat) : Text → Text
  | [] => []
  | c :: r =>
    match skip with
    | skip + 1 => resolveFrom isAttribute skip r
    | 0 =>
      if c = '&' then
        match reference? isAttribute r with
        | some x => x.value ++ resolveFrom isAttribute x.length r
        | none => c :: resolveFrom isAttribute 0 r
      else (if c.toNat = 0 then replacementChar else c) :: resolveFrom isAttribute 0 r

def resolved (t : Text) : Text := resolveFrom false 0 t

def resolvedValue (t : Text) : Text := resolveFrom true 0 t

end Markup

end TypeAtlas
