import TypeAtlas.Page.Fault

/-!
What is worth a warning while links are followed.
-/

namespace TypeAtlas

inductive Warning
  | enumDiffers (name : Text)
  | circular (name : Text) (path : List Text)
  | circularNames (names : List Text)
  | failed (name : Text) (fault : PageFault)
  | unexpected (name location : Text)
  | noDeclaration (location name : Text)
  | emptySeed (source : Text)
  | roundLimit (limit pending : Nat)
  | skipped (location : Text) (fault : PageFault)
  deriving DecidableEq, Repr

namespace Warning

def message : Warning → Text
  | enumDiffers name => "Enum " ++ name ++ " has different values, keeping existing"
  | circular name path => circularMessage name path
  | circularNames names => "Circular references detected: " ++ Text.join ", " names
  | failed name fault => "Failed to resolve " ++ name ++ ": " ++ fault.message
  | unexpected name location => "Unexpected error resolving " ++ name ++ " from " ++ location
  | noDeclaration location name => "No declaration found in " ++ location ++ " for " ++ name
  | emptySeed source => "No declaration found in seed document " ++ source
  | roundLimit limit pending => "Maximum iterations (" ++ Text.ofNat limit ++ ") reached with " ++
      Text.ofNat pending ++ " dependencies pending"
  | skipped location fault => "Skipping namespace document " ++ location ++ ": " ++ fault.message

end Warning

end TypeAtlas
