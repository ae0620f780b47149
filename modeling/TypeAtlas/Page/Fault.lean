import TypeAtlas.Document.Shelf
import TypeAtlas.Location.WebAddress

/-!
Why a page cannot be had.
-/

namespace TypeAtlas

/-- What makes text unreadable as markup. -/
inductive MarkupFault
  | noElement
  | declaresEncoding
  deriving DecidableEq, Repr

namespace MarkupFault

def message : MarkupFault → Text
  | noElement => "Document is empty"
  | declaresEncoding => "Unicode strings with encoding declaration are not supported. " ++
      "Please use bytes input or XML fragments without declaration.".toList

end MarkupFault

/-- How a path that comes back to one of its names is told. -/
def circularMessage (name : Text) (path : List Text) : Text :=
  "circular reference detected for " ++ name ++ ": " ++ Text.join " -> " (path ++ [name])

/-- A failure that has nothing to do with a page. -/
inductive ForeignFault
  | other (reason : Text)
  /-- one of the failures named in this library -/
  | named (reason : Text)
  /-- whoever looks for the page went round in a circle -/
  | cycle (name : Text) (path : List Text)
  deriving DecidableEq, Repr

instance : Coe String ForeignFault := ⟨fun reason => .other reason⟩

namespace ForeignFault

def message : ForeignFault → Text
  | other reason | named reason => reason
  | cycle name path => circularMessage name path

end ForeignFault

inductive PageFault
  | unreadable (path : Text) (fault : FileFault)
  | unreachable (address reason : Text)
  | empty (source : Text)
  | malformed (source : Text) (fault : MarkupFault)
  | badLocation (fault : UrlFault)
  | badAddress (fault : AddressFault)
  | badScheme (address : Text)
  | badHost (fault : LabelFault)
  /-- what is sent ahead of a text has to be ASCII -/
  | notAscii (e : AsciiError)
  /-- a comment stands where a row's description is looked for -/
  | strayComment
  /-- a failure that the source of pages does not explain -/
  | unexplained (fault : ForeignFault)
  deriving DecidableEq, Repr

namespace PageFault

def message : PageFault → Text
  | unreadable path fault => "Failed to read file " ++ path ++ ": " ++ fault.message
  | unreachable address reason => "Failed to fetch " ++ address ++ ": " ++ reason
  | empty source => "Empty document: " ++ source
  | malformed source fault => "Failed to parse HTML from " ++ source ++ ": " ++ fault.message
  | badLocation fault => fault.message
  | badAddress fault => fault.message
  | badScheme address => "unknown url type: " ++ address.quoted
  | badHost fault => fault.message
  | notAscii e => e.message
  | strayComment => "'NoneType' object has no attribute 'startswith'"
  | unexplained fault => fault.message

/-- Faults of fetching and reading a page; any other one is unexpected. -/
def isExpected : PageFault → Bool
  | unreadable .. | unreachable .. | empty .. | malformed .. => true
  | _ => false

/-- Faults that this library has a name for. -/
def isNamed : PageFault → Bool
  | unexplained (.named _) | unexplained (.cycle ..) => true
  | fault => fault.isExpected

end PageFault

end TypeAtlas
