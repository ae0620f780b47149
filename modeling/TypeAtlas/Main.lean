import TypeAtlas.Command.Perform

/-!
The program itself. A command is asked what it needs, the files are read, and since their links may
ask for more, this goes on until nothing is missing. There is no network.
-/

namespace TypeAtlas

/-- Reads one file, or notes that an address does not answer. -/
def stock (shelf : Shelf) (location : Text) : IO Shelf := do
  match Location.isNetwork location, WebAddress.ofText location with
  | .ok true, .ok address => return shelf.put address.render (.unreachable "no network")
  | .ok true, .error _ => return shelf
  | _, _ =>
    let path := Path.normalize location
    try
      let bytes ← IO.FS.readBinFile (String.ofList path)
      return shelf.put path (.octets (bytes.toList.map UInt8.toNat))
    catch _ => return shelf

partial def stockFor (c : Command) (shelf : Shelf) (tried : List Text) : IO Shelf := do
  let wanted := ((c.locations shelf).filter fun l => !tried.contains l).eraseDups
  if wanted.isEmpty then return shelf
  else stockFor c (← wanted.foldlM stock shelf) (tried ++ wanted)

def runProgram (args : List String) : IO UInt32 := do
  let args := args.map String.toList
  let shelf ← match Command.ofArguments? args with
    | some c => stockFor c .empty []
    | none => pure .empty
  match Command.performArguments shelf args with
  | .ok t =>
    IO.print (String.ofList t.printed)
    return UInt32.ofNat t.exitCode
  | .error fault =>
    IO.eprintln (String.ofList fault.message)
    return 1

end TypeAtlas

def main (args : List String) : IO UInt32 := TypeAtlas.runProgram args
