import TypeAtlas.Text.Basic

/-!
Templates with numbered placeholders: `$1` stands for the first value. The highest number is
replaced first, so that `$10` is not taken for `$1` with a zero behind it.
-/

namespace TypeAtlas

def placeholder (index : Nat) : Text := '$' :: Text.ofNat index

/-- The template with the placeholders of the values from `n` down replaced; the values are
numbered from one. -/
def substituteDown (values : List Text) : Nat → Text → Text
  | 0, template => template
  | n + 1, template =>
    substituteDown values n
      (Text.replaceAll (placeholder (n + 1)) (values.getD n []) template)

def substitute (template : Text) (values : List Text) : Text :=
  substituteDown values values.length template

end TypeAtlas
