import TypeAtlas.Console.Styled
import TypeAtlas.Mapping.Source
import TypeAtlas.Page.Fault

/-!
Failures of a command that it does not explain to its user.
-/

namespace TypeAtlas

inductive CommandFault
  | styled (f : StyledFault)
  | config (f : ConfigFault)
  | page (f : PageFault)
  | mapper (f : MapperError)

instance : Coe StyledFault CommandFault := ⟨CommandFault.styled⟩

namespace CommandFault

def message : CommandFault → Text
  | styled f => f.message
  | config f => f.message
  | page f => f.message
  | mapper f => f.message

end CommandFault

end TypeAtlas
