import TypeAtlas.Json.Basic

/-!
Writing JSON in ASCII, on one line or with every item on a line of its own.
-/

namespace TypeAtlas.Json

/-- A code point in sixteen-bit units, a pair of surrogates beyond the first plane. -/
def units (n : Nat) : List Nat :=
  if n < 0x10000 then [n]
  else [0xd800 + (n - 0x10000) / 0x400, 0xdc00 + (n - 0x10000) % 0x400]

def escapeChar (c : Char) : Text :=
  if c = '"' then "\\\""
  else if c = '\\' then "\\\\"
  else if c = '\n' then "\\n"
  else if c = '\r' then "\\r"
  else if c = '\t' then "\\t"
  else if c.toNat = 8 then "\\b"
  else if c.toNat = 12 then "\\f"
  else if 32 ≤ c.toNat ∧ c.toNat < 127 then [c]
  else (units c.toNat).flatMap fun u => "\\u" ++ Text.hex 4 u

def renderText (t : Text) : Text := '"' :: (t.flatMap escapeChar ++ ['"'])

def renderReal : Binary → Text
  | .undefined => "NaN"
  | .infinite isNegative => Text.onlyIf isNegative "-" ++ "Infinity"
  | x => x.render

mutual
def render : Json → Text
  | null => "null"
  | bool b => if b then "true" else "false"
  | int n => Text.ofInt n
  | real x => renderReal x
  | text t => renderText t
  | list items => "[" ++ Text.join ", " (renderItems items) ++ "]"
  | object entries => "\x7b" ++ Text.join ", " (renderEntries entries) ++ "\x7d"

def renderItems : List Json → List Text
  | [] => []
  | v :: rest => render v :: renderItems rest

def renderEntries : List (Text × Json) → List Text
  | [] => []
  | (k, v) :: rest => (renderText k ++ ": " ++ render v) :: renderEntries rest
end

/-- The lines of a bracketed group; an empty group stays on one line. -/
def block (opening closing : Text) (depth : Nat) (lines : List Text) : Text :=
  if lines.isEmpty then opening ++ closing
  else
    let newline := '\n' :: List.replicate (2 * (depth + 1)) ' '
    opening ++ newline ++ Text.join (',' :: newline) lines ++
      '\n' :: List.replicate (2 * depth) ' ' ++ closing

mutual
/-- Two blanks of indentation for each level. -/
def pretty (depth : Nat) : Json → Text
  | list items => block "[" "]" depth (prettyItems (depth + 1) items)
  | object entries => block "\x7b" "\x7d" depth (prettyEntries (depth + 1) entries)
  | null => "null"
  | bool b => if b then "true" else "false"
  | int n => Text.ofInt n
  | real x => renderReal x
  | text t => renderText t

def prettyItems (depth : Nat) : List Json → List Text
  | [] => []
  | v :: rest => pretty depth v :: prettyItems depth rest

def prettyEntries (depth : Nat) : List (Text × Json) → List Text
  | [] => []
  | (k, v) :: rest => (renderText k ++ ": " ++ pretty depth v) :: prettyEntries depth rest
end

end TypeAtlas.Json
