import TypeAtlas.Json.Reader

/-!
What can be wrong with a value that should have a given shape, and where in it.
-/

namespace TypeAtlas

inductive IssueCause
  | missing | extra
  | notText | notInteger | notBoolean | notList | notObject
  | integerUnreadable | integerFractional | integerTooLarge | notFinite
  | booleanUnclear
  | emptyText | emptyList | belowOne
  | unknownTag (tag : Text)
  | noTag
  | invalid (reason : Text)
  | badJson (reason : Text)
  deriving DecidableEq, Repr

namespace IssueCause

def message : IssueCause → Text
  | missing => "Field required"
  | extra => "Extra inputs are not permitted"
  | notText => "Input should be a valid string"
  | notInteger => "Input should be a valid integer"
  | notBoolean => "Input should be a valid boolean"
  | notList => "Input should be a valid array"
  | notObject => "Input should be an object"
  | integerUnreadable => "Input should be a valid integer, unable to parse string as an integer"
  | integerFractional => "Input should be a valid integer, got a number with a fractional part"
  | integerTooLarge => "Unable to parse input string as an integer, exceeded maximum size"
  | notFinite => "Input should be a finite number"
  | booleanUnclear => "Input should be a valid boolean, unable to interpret input"
  | emptyText => "String should have at least 1 character"
  | emptyList => "List should have at least 1 item after validation, not 0"
  | belowOne => "Input should be greater than or equal to 1"
  | unknownTag tag => "Input tag '" ++ tag ++
      "' found using 'kind' does not match any of the expected tags: 'regex', 'literal'"
  | noTag => "Unable to extract tag using discriminator 'kind'"
  | invalid reason => "Value error, " ++ reason
  | badJson reason => "Invalid JSON: " ++ reason

/-- The short name of a cause. -/
def code : IssueCause → Text
  | missing => "missing"
  | extra => "extra_forbidden"
  | notText => "string_type"
  | notInteger => "int_type"
  | notBoolean => "bool_type"
  | notList => "list_type"
  | notObject => "model_type"
  | integerUnreadable => "int_parsing"
  | integerFractional => "int_from_float"
  | integerTooLarge => "int_parsing_size"
  | notFinite => "finite_number"
  | booleanUnclear => "bool_parsing"
  | emptyText => "string_too_short"
  | emptyList => "too_short"
  | belowOne => "greater_than_equal"
  | unknownTag _ => "union_tag_invalid"
  | noTag => "union_tag_not_found"
  | invalid _ => "value_error"
  | badJson _ => "json_invalid"

end IssueCause

structure Issue where
  path : List Text
  cause : IssueCause
  input : Json
  deriving Repr

namespace Issue

def place (i : Issue) : Text := if i.path.isEmpty then "<root>" else Text.join "." i.path

def message (i : Issue) : Text := i.place ++ ": " ++ i.cause.message

/-- Of a value of more than 50 octets the first 25 and the last 24 are shown, less what is left of
a character in between. -/
def shownInput (i : Issue) : Text :=
  let t := i.input.shown
  if t.utf8Size > 50 then t.takeOctets 25 ++ "..." ++ t.takeEndOctets 24 else t

def details (i : Issue) : Text :=
  Text.join "." i.path ++ "\n  " ++ i.cause.message ++ " [type=" ++ i.cause.code ++
    ", input_value=" ++ i.shownInput ++ ", input_type=" ++ i.input.kindName ++ "]\n" ++
    "    For further information visit https://errors.pydantic.dev/2.14/v/" ++ i.cause.code

/-- All issues of a value named `title`, each with its details. -/
def report (title : Text) (issues : List Issue) : Text :=
  let count := Text.ofNat issues.length ++
    (if issues.length = 1 then " validation error for ".toList else " validation errors for ".toList)
  Text.join "\n" ((count ++ title) :: issues.map details)

end Issue

end TypeAtlas
