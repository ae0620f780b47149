import TypeAtlas.Json.Basic

/-!
What a reference page declares: classes with their members, and enumerations.
-/

namespace TypeAtlas

inductive Visibility
  | everyone | heirs | nobody
  deriving DecidableEq, Repr

namespace Visibility

def word : Visibility → Text
  | everyone => "public"
  | heirs => "protected"
  | nobody => "private"

end Visibility

structure Parameter where
  name : Text
  type : Text
  value : Option Text
  description : Option Text
  deriving DecidableEq, Repr

structure Method where
  name : Text
  result : Text
  parameters : List Parameter
  visibility : Visibility
  isStatic : Bool
  isConst : Bool
  isVirtual : Bool
  isOverride : Bool
  isAbstract : Bool
  decorators : List Text
  description : Option Text
  deriving DecidableEq, Repr

structure Property where
  name : Text
  type : Text
  isReadonly : Bool
  description : Option Text
  deriving DecidableEq, Repr

structure EnumValue where
  name : Text
  value : Option Text
  description : Option Text
  deriving DecidableEq, Repr

structure EnumType where
  name : Text
  values : List EnumValue
  description : Option Text
  deriving DecidableEq, Repr

namespace EnumType

/-- Two enumerations with one signature count as the same. -/
def signature (e : EnumType) : Text := e.name ++ ":" ++ Text.join "|" (e.values.map (·.name))

/-- The enumerations without those whose signature came before. -/
def distinctFrom (seen : List Text) : List EnumType → List EnumType
  | [] => []
  | e :: es =>
    if e.signature ∈ seen then distinctFrom seen es
    else e :: distinctFrom (e.signature :: seen) es

def distinct (es : List EnumType) : List EnumType := distinctFrom [] es

end EnumType

/-- A class. -/
structure Declaration where
  name : Text
  scope : Text
  fullName : Text
  parents : List Text
  enums : List EnumType
  methods : List Method
  slots : List Method
  signals : List Method
  properties : List Property
  description : Option Text
  isAbstract : Bool
  deriving DecidableEq, Repr

/-- A namespace; of its page only the enumerations are of interest. -/
structure NamespaceInfo where
  name : Text
  fullName : Text
  enums : List EnumType
  deriving DecidableEq, Repr

end TypeAtlas
