import TypeAtlas.Location.Path
import TypeAtlas.Text.Quoted
import TypeAtlas.Text.Utf8

/-!
What can be read: local files by path, and the answers of the network by address.
-/

namespace TypeAtlas

inductive Stored
  | text (t : Text)
  | octets (bytes : List Nat)
  | response (status : Nat) (body : Text) (redirect : Option Text)
  | unreachable (reason : Text)
  deriving Repr

inductive FileFault
  | missing (path : Text)
  | notText (e : Utf8Error)
  deriving DecidableEq, Repr

namespace FileFault

def message : FileFault → Text
  | missing path => "[Errno 2] No such file or directory: " ++ path.quoted
  | notText e => e.message

end FileFault

structure Shelf where
  entries : List (Text × Stored)

namespace Shelf

def empty : Shelf := ⟨[]⟩

def find? (s : Shelf) (key : Text) : Option Stored := s.entries.lookup key

def put (s : Shelf) (key : Text) (v : Stored) : Shelf :=
  ⟨(key, v) :: s.entries.filter (·.1 ≠ key)⟩

/-- The text of a local file, under any spelling of its path. -/
def readText (s : Shelf) (path : Text) : Except FileFault Text :=
  let path := Path.normalize path
  match s.find? path with
  | some (.text t) => .ok (Text.withPlainLineEnds t)
  | some (.octets bytes) =>
    match Text.ofUtf8 bytes with
    | .ok t => .ok (Text.withPlainLineEnds t)
    | .error e => .error (.notText e)
  | _ => .error (.missing path)

end Shelf

end TypeAtlas
