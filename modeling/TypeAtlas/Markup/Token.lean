import TypeAtlas.Markup.Reference

/-!
Markup as tags, text and comments. The reader is a machine that takes one character at a time and
never fails: what is no markup is text. Names are in small letters.
-/

namespace TypeAtlas

namespace Markup

structure Tag where
  name : Text
  attributes : List (Text × Text)
  deriving DecidableEq, Repr

inductive Token
  | opening (tag : Tag) (isClosed : Bool)
  | closing (name : Text)
  | text (t : Text)
  | comment
  /-- the beginning of an element whose tag the document ends in -/
  | cutOff (name : Text)
  deriving DecidableEq, Repr

/-- How text is read: all markup counts; only the end of one element counts, with references or
without; nothing counts any more. -/
inductive Reading
  | markup
  | escapable (name : Text)
  | raw (name : Text)
  | everything
  deriving DecidableEq, Repr

namespace Reading

def escapableNames : List Text := ["title", "textarea"]

def rawNames : List Text := ["iframe", "noembed", "noframes", "script", "style", "xmp"]

def plainName : Text := "plaintext"

/-- How the text inside an element is read. -/
def inside (name : Text) : Reading :=
  if escapableNames.contains name then escapable name
  else if rawNames.contains name then raw name
  else if name = plainName then everything
  else markup

def name? : Reading → Option Text
  | escapable name => some name
  | raw name => some name
  | _ => none

/-- The text that a run of characters stands for. -/
def meaning (r : Reading) (run : Text) : Text :=
  match r with
  | markup => resolved run
  | escapable _ => resolved run
  | _ => run.map fun c => if c.toNat = 0 then replacementChar else c

/-- The token of a run of characters, which is kept in reverse. -/
def token (r : Reading) (run : Text) : List Token :=
  if run.isEmpty then [] else [.text (r.meaning run.reverse)]

end Reading

/-- A tag under way. -/
structure Draft where
  isEnd : Bool
  name : Text
  attributes : List (Text × Text)

namespace Draft

/-- Adds an attribute; of two with one name the first one counts. -/
def add (d : Draft) (name value : Text) : Draft :=
  if d.attributes.any (·.1 = name) then d
  else { d with attributes := d.attributes ++ [(name, value)] }

def token (d : Draft) (isClosed : Bool) : Token :=
  if d.isEnd then .closing d.name else .opening ⟨d.name, d.attributes⟩ isClosed

end Draft

/-- Where the reader stands. Runs, names and values are kept in reverse. -/
inductive State
  | text (reading : Reading) (run : Text)
  | opened (reading : Reading) (run : Text)
  | ended (reading : Reading) (run : Text)
  | endName (reading : Reading) (run seen : Text)
  | tagName (isEnd : Bool) (seen : Text)
  | between (draft : Draft)
  | slash (draft : Draft)
  | key (draft : Draft) (name : Text)
  | afterKey (draft : Draft) (name : Text)
  | beforeValue (draft : Draft) (name : Text)
  | value (draft : Draft) (name : Text) (quote : Option Char) (seen : Text)
  | declaration (seen : Text)
  | doctype
  | comment (seen : Text)
  | bogus

def isSpace (c : Char) : Bool := c = ' ' || c = '\t' || c = '\n' || c = Char.ofNat 12 || c = '\r'

namespace State

def start : State := text .markup []

/-- A tag that is complete. -/
def complete (d : Draft) (isClosed : Bool) : List Token × State :=
  ([d.token isClosed], text (if d.isEnd || isClosed then .markup else .inside d.name) [])

def readText (reading : Reading) (run : Text) (c : Char) : List Token × State :=
  if c = '<' && reading != .everything then ([], opened reading run) else ([], text reading (c :: run))

def readBogus (c : Char) : List Token × State :=
  if c = '>' then ([.comment], start) else ([], bogus)

def readOpened (reading : Reading) (run : Text) (c : Char) : List Token × State :=
  if c = '/' then ([], ended reading run)
  else if reading != .markup then readText reading ('<' :: run) c
  else if c.isAlpha then (reading.token run, tagName false [c.toLower])
  else if c = '!' then (reading.token run, declaration [])
  else if c = '?' then (reading.token run, bogus)
  else readText reading ('<' :: run) c

def readEnded (reading : Reading) (run : Text) (c : Char) : List Token × State :=
  if reading != .markup then
    if c.isAlpha then ([], endName reading run [c]) else readText reading ('/' :: '<' :: run) c
  else if c.isAlpha then (reading.token run, tagName true [c.toLower])
  else if c = '>' then ([], text reading run)
  else (reading.token run, bogus)

def readBetween (d : Draft) (c : Char) : List Token × State :=
  if isSpace c then ([], between d)
  else if c = '/' then ([], slash d)
  else if c = '>' then complete d false
  else ([], key d [c.toLower])

def readSlash (d : Draft) (c : Char) : List Token × State :=
  if c = '>' then complete d true else readBetween d c

/-- Only the end tag of the element itself ends text that is read raw. -/
def readEndName (reading : Reading) (run seen : Text) (c : Char) : List Token × State :=
  if c.isAlpha then ([], endName reading run (c :: seen))
  else
    let name := seen.reverse.map Char.toLower
    if (isSpace c || c = '/' || c = '>') && reading.name? = some name then
      let (tokens, next) := readBetween ⟨true, name, []⟩ c
      (reading.token run ++ tokens, next)
    else readText reading (seen ++ '/' :: '<' :: run) c

def readName (isEnd : Bool) (seen : Text) (c : Char) : List Token × State :=
  if isSpace c || c = '/' || c = '>' then readBetween ⟨isEnd, seen.reverse, []⟩ c
  else ([], tagName isEnd (c.toLower :: seen))

def readAfterKey (d : Draft) (name : Text) (c : Char) : List Token × State :=
  if isSpace c then ([], afterKey d name)
  else if c = '=' then ([], beforeValue d name)
  else readBetween (d.add name.reverse []) c

def readKey (d : Draft) (name : Text) (c : Char) : List Token × State :=
  if isSpace c || c = '/' || c = '>' || c = '=' then readAfterKey d name c
  else ([], key d (c.toLower :: name))

def readBeforeValue (d : Draft) (name : Text) (c : Char) : List Token × State :=
  if isSpace c then ([], beforeValue d name)
  else if c = '"' || c = '\'' then ([], value d name (some c) [])
  else if c = '>' then complete (d.add name.reverse []) false
  else ([], value d name none [c])

def withValue (d : Draft) (name seen : Text) : Draft :=
  d.add name.reverse (resolvedValue seen.reverse)

def readValue (d : Draft) (name : Text) (quote : Option Char) (seen : Text) (c : Char) :
    List Token × State :=
  match quote with
  | some q =>
    if c = q then ([], between (withValue d name seen)) else ([], value d name quote (c :: seen))
  | none =>
    if isSpace c || c = '>' then readBetween (withValue d name seen) c
    else ([], value d name quote (c :: seen))

def doctypeWord : Text := "doctype"

def readDeclaration (seen : Text) (c : Char) : List Token × State :=
  let seen := c.toLower :: seen
  let t := seen.reverse
  if t = "--" then ([], comment [])
  else if t = doctypeWord then ([], doctype)
  else if t = "-" || t.isPrefixOf doctypeWord then ([], declaration seen)
  else readBogus c

/-- A comment ends at `-->` or `--!>`; right behind its beginning already `>` or `->` ends it. -/
def endsComment (seen : Text) : Bool :=
  match seen with
  | [] => true
  | ['-'] => true
  | '-' :: '-' :: _ => true
  | '!' :: '-' :: '-' :: _ => true
  | _ => false

def step (s : State) (c : Char) : List Token × State :=
  match s with
  | text reading run => readText reading run c
  | opened reading run => readOpened reading run c
  | ended reading run => readEnded reading run c
  | endName reading run seen => readEndName reading run seen c
  | tagName isEnd seen => readName isEnd seen c
  | between d => readBetween d c
  | slash d => readSlash d c
  | key d name => readKey d name c
  | afterKey d name => readAfterKey d name c
  | beforeValue d name => readBeforeValue d name c
  | value d name quote seen => readValue d name quote seen c
  | declaration seen => readDeclaration seen c
  | doctype => ([], if c = '>' then start else doctype)
  | comment seen =>
    if c = '>' && endsComment seen then ([.comment], start) else ([], comment (c :: seen))
  | bogus => readBogus c

/-- A tag that is cut off: nothing but its name counts, and nothing of an end tag. -/
def cutOff (d : Draft) : List Token := if d.isEnd then [] else [.cutOff d.name]

/-- What is left when the text ends. -/
def finish : State → List Token
  | text reading run => reading.token run
  | opened reading run => reading.token ('<' :: run)
  | ended reading run => reading.token ('/' :: '<' :: run)
  | endName reading run seen => reading.token (seen ++ '/' :: '<' :: run)
  | tagName isEnd seen => cutOff ⟨isEnd, seen.reverse, []⟩
  | between d => cutOff d
  | slash d => cutOff d
  | key d _ => cutOff d
  | afterKey d _ => cutOff d
  | beforeValue d _ => cutOff d
  | value d _ _ _ => cutOff d
  | declaration _ => [.comment]
  | doctype => []
  | comment _ => [.comment]
  | bogus => [.comment]

end State

/-- The tokens of the rest of a text; `done` holds those before it, the last one first. -/
def scanFrom (s : State) (done : List Token) : Text → List Token
  | [] => done.reverse ++ s.finish
  | c :: r =>
    let (found, s) := s.step c
    scanFrom s (found.reverse ++ done) r

/-- Text whose lines all end in a line feed; a carriage return ends a line, with a line feed behind
it or without. -/
def unifyLines : Text → Text
  | [] => []
  | '\r' :: '\n' :: r => '\n' :: unifyLines r
  | c :: r => (if c = '\r' then '\n' else c) :: unifyLines r

/-- The mark of byte order, which may stand at the beginning and is not part of the text. -/
def orderMark : Char := Char.ofNat 0xFEFF

def withoutOrderMark : Text → Text
  | [] => []
  | c :: r => if c = orderMark then r else c :: r

def scan (t : Text) : List Token := scanFrom .start [] (unifyLines (withoutOrderMark t))

end Markup

end TypeAtlas
