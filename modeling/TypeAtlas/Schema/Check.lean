import TypeAtlas.Schema.Issue

/-!
Reading values of a given shape out of JSON. All issues of a value are collected, not only the
first: those of the declared fields in their order, then unknown entries in the order of the object.
-/

namespace TypeAtlas

/-- Why a check ends without a verdict on the value. -/
inductive CheckFault
  | repetitionTooLarge
  deriving DecidableEq, Repr

def CheckFault.message : CheckFault → Text
  | repetitionTooLarge => "the repetition number is too large"

/-- Why a value is not taken. -/
inductive Rejection
  | issues (found : List Issue)
  | stopped (fault : CheckFault)
  deriving Repr

namespace Rejection

def found : Rejection → List Issue
  | issues found => found
  | stopped _ => []

def message : Rejection → Text
  | issues found => Text.join "\n" (found.map Issue.message)
  | stopped fault => fault.message

end Rejection

inductive Checked (α : Type)
  | value (a : α)
  | issues (found : List Issue)
  | stopped (fault : CheckFault)

namespace Checked

variable {α β : Type}

def map (f : α → β) : Checked α → Checked β
  | value a => value (f a)
  | issues found => issues found
  | stopped fault => stopped fault

/-- Issues of both sides add up, unless one side has ended the check. -/
def app (f : Checked (α → β)) (x : Checked α) : Checked β :=
  match f, x with
  | value f, value a => value (f a)
  | value _, issues found => issues found
  | issues found, value _ => issues found
  | issues found, issues more => issues (found ++ more)
  | stopped fault, _ => stopped fault
  | _, stopped fault => stopped fault

instance : Applicative Checked where
  pure := value
  map := map
  seq f x := app f (x ())

def issue (cause : IssueCause) (input : Json) : Checked α := issues [⟨[], cause, input⟩]

/-- Issues of a part, placed at a step down from the whole. -/
def under (step : Text) : Checked α → Checked α
  | value a => value a
  | issues found => issues (found.map fun i => { i with path := step :: i.path })
  | stopped fault => stopped fault

/-- A further condition on a value that is free of issues. -/
def andThen (x : Checked α) (f : α → Checked β) : Checked β :=
  match x with
  | value a => f a
  | issues found => issues found
  | stopped fault => stopped fault

def all (f : α → Checked β) : List α → Checked (List β)
  | [] => value []
  | a :: as => app (map List.cons (f a)) (all f as)

def toExcept : Checked α → Except Rejection α
  | value a => .ok a
  | issues found => .error (.issues found)
  | stopped fault => .error (.stopped fault)

end Checked

/-- An entry of an object may go by either name; the first one is preferred. -/
structure FieldName where
  key : Text
  other : Text

namespace FieldName

def used (f : FieldName) (entries : List (Text × Json)) : Text :=
  if (Json.lookup? f.key entries).isSome then f.key else f.other

def find? (f : FieldName) (entries : List (Text × Json)) : Option Json :=
  Json.lookup? (f.used entries) entries

end FieldName

def FieldName.same (key : Text) : FieldName := ⟨key, key⟩

namespace Schema

variable {α : Type}

def required (f : FieldName) (check : Json → Checked α) (entries : List (Text × Json)) : Checked α :=
  match f.find? entries with
  | some v => (check v).under (f.used entries)
  | none => (Checked.issue .missing (.object entries)).under f.key

def optional (f : FieldName) (default : α) (check : Json → Checked α)
    (entries : List (Text × Json)) : Checked α :=
  match f.find? entries with
  | some v => (check v).under (f.used entries)
  | none => .value default

/-- No entry is left over once the fields have taken theirs. -/
def noExtras (fields : List FieldName) (entries : List (Text × Json)) : Checked Unit :=
  let taken := fields.map (·.used entries)
  match entries.filter (fun e => !taken.contains e.1) with
  | [] => .value ()
  | extra => .issues (extra.map fun e => ⟨[e.1], .extra, e.2⟩)

def object (check : List (Text × Json) → Checked α) (v : Json) : Checked α :=
  match v with
  | .object entries => check entries
  | v => .issue .notObject v

def text (v : Json) : Checked Text :=
  match v with
  | .text t => .value t
  | v => .issue .notText v

def someText (v : Json) : Checked Text :=
  (text v).andThen fun t => if t.isEmpty then .issue .emptyText v else .value t

def text? (v : Json) : Checked (Option Text) :=
  match v with
  | .null => .value none
  | v => (text v).map some

def list (check : Json → Checked α) (v : Json) : Checked (List α) :=
  match v with
  | .list items =>
    Checked.all (fun (x : Json × Nat) => (check x.1).under (Text.ofNat x.2)) items.zipIdx
  | v => .issue .notList v

def someList (check : Json → Checked α) (v : Json) : Checked (List α) :=
  (list check v).andThen fun items => if items.isEmpty then .issue .emptyList v else .value items

/-- More characters than this, with the sign, are not read as a number. -/
def longestInteger : Nat := 4300

/-- A number in its plain form: a minus perhaps, and digits that start with no further zero. -/
def plainInteger (t : Text) : Except IssueCause Int :=
  let (isNegative, body) := match t with
    | '-' :: r => (true, r)
    | r => (false, r)
  let digits := body.takeWhile Char.isDigit
  if body.head? = some '0' then
    if body.length = 1 then .ok 0 else .error .integerUnreadable
  else if longestInteger < t.length - body.length + digits.length then .error .integerTooLarge
  else if digits.isEmpty || digits.length < body.length then .error .integerUnreadable
  else
    let n : Int := Json.natOf digits
    .ok (if isNegative then -n else n)

/-- A number without the zeros and underscores in front of it; one zero stays in front of a point,
and the last character stays in any case. -/
def dropZeros : Text → Option Text
  | [] => none
  | '0' :: r => dropFrom '0' r
  | c :: r => if c.isDigit || c = '-' then some (c :: r) else none
where
  dropFrom (last : Char) : Text → Option Text
    | [] => some [last]
    | c :: r =>
      if c = '0' || c = '_' then dropFrom c r
      else if c.isDigit then some (c :: r)
      else if c = '.' then some (last :: c :: r)
      else none

/-- A number without a point that only zeros follow. -/
def dropDecimals (t : Text) : Text :=
  match Text.cut? "." t with
  | some (whole, decimals) => if decimals.all (· = '0') then whole else t
  | none => t

/-- A number without underscores, if they stand alone and within it. -/
def dropUnderscores (t : Text) : Text :=
  if t.head? = some '_' || t.getLast? = some '_' || Text.includes "__" t then t
  else t.filter (· ≠ '_')

/-- The plain form of a number that is written otherwise. -/
def plainForm? (t : Text) : Option Text :=
  let unsigned := if t.head? = some '+' then t.tail else t
  if t.head? = some '+' && unsigned.head? = some '-' then none
  else (dropZeros unsigned).map fun t => dropUnderscores (dropDecimals t)

/-- A whole number in text: in plain form, or with a sign, zeros in front, single underscores, or
decimals that are zeros. -/
def integerIn (t : Text) : Except IssueCause Int :=
  let t := Text.trim isWhite t
  match plainInteger t with
  | .error .integerUnreadable =>
    match plainForm? t with
    | some t => plainInteger t
    | none => .error .integerUnreadable
  | found => found

def wholePart (x : Binary) (v : Json) : Checked Int :=
  if !x.isFinite then .issue .notFinite v
  else match x.toInt? with
    | none => .issue .integerFractional v
    | some n => if n.natAbs < Binary.twoTo 63 then .value n else .issue .integerTooLarge v

def integer (v : Json) : Checked Int :=
  match v with
  | .int n => .value n
  | .bool b => .value (if b then 1 else 0)
  | .real x => wholePart x v
  | .text t =>
    match integerIn t with
    | .ok n => .value n
    | .error cause => .issue cause v
  | v => .issue .notInteger v

def trueWords : List Text := ["1", "on", "t", "true", "y", "yes"]

def falseWords : List Text := ["0", "off", "f", "false", "n", "no"]

/-- Zero and one are truth values; a number of more than 64 bits is not even looked at. -/
def booleanOfInt (n : Int) (v : Json) : Checked Bool :=
  if n = 0 then .value false
  else if n = 1 then .value true
  else if -(Binary.twoTo 63 : Int) ≤ n ∧ n < Binary.twoTo 63 then .issue .booleanUnclear v
  else .issue .notBoolean v

def boolean (v : Json) : Checked Bool :=
  match v with
  | .bool b => .value b
  | .int n => booleanOfInt n v
  | .real x =>
    match x.toInt? with
    | some n => if n = -(Binary.twoTo 63 : Int) then .issue .notBoolean v else booleanOfInt n v
    | none => .issue .notBoolean v
  | .text t =>
    let word := t.map Char.toLower
    if trueWords.contains word then .value true
    else if falseWords.contains word then .value false
    else .issue .booleanUnclear v
  | v => .issue .notBoolean v

end Schema

end TypeAtlas
