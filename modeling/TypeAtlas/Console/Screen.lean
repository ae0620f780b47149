import TypeAtlas.Console.Layout
import TypeAtlas.Console.Styled

/-!
Printing on a console. What was printed stays printed when a program ends early, with an exit code
of its own or with a fault that nobody answers for.
-/

namespace TypeAtlas

/-- How a program ends early. -/
inductive Ending (ε : Type)
  | exit (code : Nat)
  | fault (f : ε)
  deriving DecidableEq, Repr

/-- The printed texts, the latest first, and an early end. -/
abbrev Screen (ε : Type) := ExceptT (Ending ε) (StateM (List Text))

namespace Screen

variable {ε α : Type}

/-- The columns of a line. -/
def lineWidth : Nat := 1000

/-- The bell and the controls that move a printer's head leave nothing on the screen. -/
def isSilent (c : Char) : Bool :=
  let n := c.toNat
  n = 7 || n = 8 || n = 11 || n = 12 || n = 13

/-- What a styled text shows, before it is laid out in lines. -/
def shown (t : Text) : Except StyledFault Text := do
  return (← plainText t).filter fun c => !isSilent c

def print (t : Text) : Screen ε Unit := modify fun printed => (t ++ ['\n']) :: printed

/-- Ends with an exit code. -/
def exit (code : Nat) : Screen ε α := throw (.exit code)

/-- Ends with a fault. -/
def crash (f : ε) : Screen ε α := throw (.fault f)

/-- The exit code of a program that cannot go on. -/
def failure : Nat := 1

/-- The exit code of a program whose arguments make no sense. -/
def misuse : Nat := 2

variable [Coe StyledFault ε]

/-- Prints styled text, if it can be read. -/
def printStyled (t : Text) : Screen ε Unit :=
  match shown t with
  | .ok t => print (Text.join "\n" (Layout.lines lineWidth .fold t))
  | .error f => crash f

/-- Prints why the program fails, and ends it. -/
def fail (message : Text) : Screen ε α := do
  printStyled ("[red]Error:[/red] " ++ message)
  exit failure

end Screen

/-- What a program leaves behind. -/
structure Transcript where
  exitCode : Nat
  printed : Text
  deriving DecidableEq, Repr

def Screen.run {ε : Type} (program : Screen ε Unit) : Except ε Transcript :=
  match (ExceptT.run program).run [] with
  | (.ok (), printed) => .ok ⟨0, printed.reverse.flatten⟩
  | (.error (.exit code), printed) => .ok ⟨code, printed.reverse.flatten⟩
  | (.error (.fault f), _) => .error f

end TypeAtlas
