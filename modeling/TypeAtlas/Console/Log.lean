import TypeAtlas.Text.Basic

/-!
Where messages about the program's work go: to the error output, from a level on.
-/

namespace TypeAtlas

inductive LogLevel
  | debug | warning
  deriving DecidableEq, Repr

namespace LogLevel

def rank : LogLevel → Nat
  | debug => 10
  | warning => 30

end LogLevel

/-- A named channel of messages, with the number of consoles that show them. -/
structure LogChannel where
  name : Text
  level : LogLevel
  consoles : Nat
  /-- whether messages also go to the channels above -/
  isShared : Bool
  deriving DecidableEq, Repr

namespace LogChannel

/-- The channel as a command sets it up; the console of an earlier command is replaced. -/
def setUp (isVerbose : Bool) : LogChannel :=
  ⟨"typelink", if isVerbose then .debug else .warning, 1, false⟩

end LogChannel

end TypeAtlas
