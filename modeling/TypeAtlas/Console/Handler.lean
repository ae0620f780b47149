import TypeAtlas.Console.Literal
import TypeAtlas.Text.WordClass

/-!
Handlers in styled text. A tag with an at sign names an event; its parameters are the name of a
handler with arguments in brackets, or the arguments alone. Arguments are literals.
-/

namespace TypeAtlas

structure HandlerFault where
  parameters : Text
  arguments : Text
  cause : LiteralFault
  deriving DecidableEq, Repr

namespace HandlerFault

def message (f : HandlerFault) : Text :=
  "error parsing " ++
    (if f.cause.isSyntactic then f.arguments.quoted ++ " in " else []) ++
    f.parameters.quoted ++ "; " ++ f.cause.message

end HandlerFault

namespace Handler

def isNamePart (c : Char) : Bool := isWord c || c = '.'

def isBracketed (t : Text) : Bool :=
  t.head? = some '(' && t.getLast? = some ')' && !t.contains '\n'

/-- The arguments among the parameters; a name alone has none. -/
def arguments (parameters : Text) : Text :=
  let t := Text.strip parameters
  let rest := t.dropWhile isNamePart
  if rest.isEmpty then "()" else if isBracketed rest then rest else t

def fault? (parameters : Text) : Option HandlerFault :=
  if parameters.isEmpty then none
  else (Literal.fault? (arguments parameters)).map (HandlerFault.mk parameters (arguments parameters))

end Handler

end TypeAtlas
