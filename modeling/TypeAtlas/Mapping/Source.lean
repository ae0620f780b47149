import TypeAtlas.Document.Shelf
import TypeAtlas.Mapping.Defaults
import TypeAtlas.Mapping.Mapper

/-!
Configurations in files.
-/

namespace TypeAtlas

inductive ConfigFault
  | unreadable (path : Text) (fault : FileFault)
  | notText (e : Utf8Error)
  | invalid (path : Text) (issues : List Issue)
  | stopped (fault : CheckFault)

namespace ConfigFault

def issues : ConfigFault → List Issue
  | invalid _ issues => issues
  | _ => []

def message : ConfigFault → Text
  | unreadable path fault => "Cannot read type configuration " ++ path ++ ": " ++ fault.message
  | notText e => e.message
  | invalid path issues =>
    Text.join "\n" (("Invalid type configuration " ++ path ++ ":") ::
      issues.map fun i => "  " ++ i.message)
  | stopped fault => fault.message

/-- Faults of finding and reading a configuration; any other one is unexpected. -/
def isExpected : ConfigFault → Bool
  | unreadable .. | invalid .. => true
  | notText _ | stopped _ => false

def ofRejection (path : Text) : Rejection → ConfigFault
  | .issues found => invalid path found
  | .stopped fault => stopped fault

end ConfigFault

namespace MappingConfig

def load (shelf : Shelf) (path : Text) : Except ConfigFault MappingConfig :=
  let path := Path.normalize path
  match shelf.readText path with
  | .error (.notText e) => .error (.notText e)
  | .error fault => .error (.unreadable path fault)
  | .ok t => (ofText t).mapError (.ofRejection path)

end MappingConfig

/-- The mapper of a configuration file, or of the built-in mappings. -/
def Mapper.configured (shelf : Shelf) : Option Text → Except ConfigFault Mapper
  | some path => (MappingConfig.load shelf path).map Mapper.ofConfig
  | none => .ok (.ofConfig .builtIn)

end TypeAtlas
