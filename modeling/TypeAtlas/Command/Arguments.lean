import TypeAtlas.Text.Basic

/-!
The arguments of a command: options in any place, with or without a value, and everything else in
order. Two dashes alone end the options.
-/

namespace TypeAtlas

inductive Switch
  | json | config | category | primaryNamespace | roundLimit | documentRoot | enums | noEnums | verbose
  deriving DecidableEq, Repr

namespace Switch

def longName : Switch → Text
  | json => "--json"
  | config => "--config"
  | category => "--category"
  | primaryNamespace => "--namespace"
  | roundLimit => "--max-iterations"
  | documentRoot => "--document-root"
  | enums => "--enums"
  | noEnums => "--no-enums"
  | verbose => "--verbose"

def letter? : Switch → Option Char
  | json => some 'j'
  | config => some 'c'
  | category => some 't'
  | primaryNamespace => some 'n'
  | roundLimit => some 'm'
  | documentRoot => some 'r'
  | enums | noEnums => none
  | verbose => some 'v'

def takesValue : Switch → Bool
  | json | enums | noEnums | verbose => false
  | _ => true

end Switch

/-- A switch that was given, with its value if it takes one. -/
structure Given where
  switch : Switch
  value : Text
  deriving DecidableEq, Repr

/-- What one argument says. -/
inductive Word
  | plain
  | endOfSwitches
  | switches (given : List Given)
  /-- the value of the last switch is the next argument -/
  | wantsValue (given : List Given) (switch : Switch)
  | unknown
  deriving DecidableEq, Repr

namespace Word

def addFirst (g : Given) : Word → Word
  | switches given => switches (g :: given)
  | wantsValue given s => wantsValue (g :: given) s
  | w => w

/-- Letters after a single dash; a switch that takes a value takes the rest of them. -/
def ofLetters (allowed : List Switch) : Text → Word
  | [] => switches []
  | c :: r =>
    match allowed.find? (·.letter? = some c) with
    | none => unknown
    | some s =>
      if !s.takesValue then addFirst ⟨s, []⟩ (ofLetters allowed r)
      else if r.isEmpty then wantsValue [] s
      else switches [⟨s, r⟩]

/-- A switch by its long name, perhaps with a value after an equals sign. -/
def ofLong? (allowed : List Switch) (arg : Text) : Option Word :=
  let (name, value) := match Text.cut? "=" arg with
    | some (name, value) => (name, some value)
    | none => (arg, none)
  (allowed.find? (·.longName = name)).map fun s =>
    match s.takesValue, value with
    | true, some value => switches [⟨s, value⟩]
    | true, none => wantsValue [] s
    | false, none => switches [⟨s, []⟩]
    | false, some _ => unknown

def ofArgument (allowed : List Switch) (arg : Text) : Word :=
  match arg with
  | ['-', '-'] => endOfSwitches
  | '-' :: '-' :: _ => (ofLong? allowed arg).getD unknown
  | '-' :: c :: letters => ofLetters allowed (c :: letters)
  | _ => plain

end Word

structure Arguments where
  plain : List Text
  given : List Given
  deriving DecidableEq, Repr

namespace Arguments

def addPlain (arg : Text) (a : Arguments) : Arguments := { a with plain := arg :: a.plain }

def addGiven (given : List Given) (a : Arguments) : Arguments := { a with given := given ++ a.given }

/-- None for a switch that is not allowed, or one that lacks its value or has one too many. -/
def read? (allowed : List Switch) : List Text → Option Arguments
  | [] => some ⟨[], []⟩
  | arg :: rest =>
    match Word.ofArgument allowed arg with
    | .plain => (read? allowed rest).map (addPlain arg)
    | .endOfSwitches => some ⟨rest, []⟩
    | .switches given => (read? allowed rest).map (addGiven given)
    | .wantsValue given s =>
      match rest with
      | [] => none
      | value :: rest => (read? allowed rest).map (addGiven (given ++ [⟨s, value⟩]))
    | .unknown => none

/-- The value given last. -/
def value? (a : Arguments) (s : Switch) : Option Text :=
  (a.given.reverse.find? (·.switch = s)).map (·.value)

def has (a : Arguments) (s : Switch) : Bool := (a.value? s).isSome

/-- Of a switch and its opposite, whether the switch was given last. -/
def latest? (a : Arguments) (s opposite : Switch) : Option Bool :=
  (a.given.reverse.find? fun g => g.switch = s || g.switch = opposite).map (·.switch = s)

end Arguments

end TypeAtlas
