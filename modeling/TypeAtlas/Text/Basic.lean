/-!
Text as a list of code points: offsets and lengths count code points, and a scan is a recursion on
the list. Cutting at a separator, replacing, joining, and the maximal runs of a class of characters.
-/

namespace TypeAtlas

abbrev Text := List Char

instance : Coe String Text := ⟨String.toList⟩

namespace Text

def join (separator : Text) (parts : List Text) : Text :=
  (parts.intersperse separator).flatten

theorem join_cons_cons (separator a b : Text) (parts : List Text) :
    join separator (a :: b :: parts) = a ++ (separator ++ join separator (b :: parts)) := rfl

/-- The text where the condition holds, and nothing elsewhere. -/
def onlyIf (condition : Bool) (t : Text) : Text := if condition then t else []

/-- The text before and after the first `separator`. -/
def cut? (separator : Text) : Text → Option (Text × Text)
  | [] => if separator.isEmpty then some ([], []) else none
  | c :: r =>
    if separator.isPrefixOf (c :: r) then some ([], (c :: r).drop separator.length)
    else (cut? separator r).map fun (before, after) => (c :: before, after)

/-- The text before and after the last `separator`. -/
def cutLast? (separator : Text) : Text → Option (Text × Text)
  | [] => if separator.isEmpty then some ([], []) else none
  | c :: r =>
    match cutLast? separator r with
    | some (before, after) => some (c :: before, after)
    | none =>
      if separator.isPrefixOf (c :: r) then some ([], (c :: r).drop separator.length) else none

def includes (needle t : Text) : Bool := (cut? needle t).isSome

/-- The fields between the separators; there is always at least one. -/
def fields (separator : Char) : Text → List Text
  | [] => [[]]
  | c :: r =>
    if c = separator then [] :: fields separator r
    else match fields separator r with
      | [] => [[c]]
      | field :: rest => (c :: field) :: rest

/-- Replacement in which the first `skip` characters belong to a match already replaced. -/
def replaceFrom (old new : Text) (skip : Nat) : Text → Text
  | [] => []
  | c :: r =>
    match skip with
    | skip + 1 => replaceFrom old new skip r
    | 0 =>
      if old.isPrefixOf (c :: r) then new ++ replaceFrom old new (old.length - 1) r
      else c :: replaceFrom old new 0 r

/-- Every occurrence of `old`, from the left and without overlap, becomes `new`. -/
def replaceAll (old new t : Text) : Text :=
  if old.isEmpty then t else replaceFrom old new 0 t

def closeRun (run : Text) : List Text := if run.isEmpty then [] else [run.reverse]

/-- The maximal runs of characters that satisfy `p`; `run` holds the open one, reversed. -/
def runsFrom (p : Char → Bool) (run : Text) : Text → List Text
  | [] => closeRun run
  | c :: r => if p c then runsFrom p (c :: run) r else closeRun run ++ runsFrom p [] r

def runs (p : Char → Bool) (t : Text) : List Text := runsFrom p [] t

def dropEndWhile (p : Char → Bool) (t : Text) : Text := (t.reverse.dropWhile p).reverse

def trim (p : Char → Bool) (t : Text) : Text := dropEndWhile p (t.dropWhile p)

/-- The part of the text from `start` up to `stop`. -/
def slice (start stop : Nat) (t : Text) : Text := (t.drop start).take (stop - start)

def endsWith (ending t : Text) : Bool := ending.reverse.isPrefixOf t.reverse

/-- Order by code points, a proper beginning first. -/
def le : Text → Text → Bool
  | [], _ => true
  | _ :: _, [] => false
  | a :: as, b :: bs => if a = b then le as bs else a.toNat < b.toNat

def sort (ts : List Text) : List Text := ts.mergeSort le

/-- The distinct texts in order. -/
def sortedSet (ts : List Text) : List Text := sort ts.eraseDups

def ofNat (n : Nat) : Text := Nat.toDigits 10 n

def ofInt : Int → Text
  | .ofNat n => ofNat n
  | .negSucc n => '-' :: ofNat (n + 1)

/-- `n` in base sixteen, with zeros in front up to `width` digits. -/
def hex (width n : Nat) : Text :=
  let digits := Nat.toDigits 16 n
  List.replicate (width - digits.length) '0' ++ digits

end Text

end TypeAtlas
