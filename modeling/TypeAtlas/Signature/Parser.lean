import TypeAtlas.Signature.Token
import TypeAtlas.Signature.TypeTree

/-!
Reading a signature as a tree. A generic argument is read anew from its own stretch of the text, and
one that cannot be read is left out. What stands behind the name, the arguments and the array suffix
only contributes qualifiers.
-/

namespace TypeAtlas

inductive SignatureError
  | strays (found : List Stray)
  | noName
  deriving DecidableEq, Repr

namespace SignatureError

def message : SignatureError → Text
  | strays found => "lexing failed: " ++ Text.join ", " (found.map Stray.message)
  | noName => "expected a type name"

end SignatureError

def Token.isSeparator (t : Token) : Bool := t.kind = .scope || t.kind = .dot

/-- The names joined by separators at the front, as far as a name follows each separator. -/
def qualifiedRest : List Token → List Text × List Token
  | separator :: name :: rest =>
    if separator.isSeparator && name.kind = .identifier then
      let (names, rest) := qualifiedRest rest
      (name.image :: names, rest)
    else ([], separator :: name :: rest)
  | rest => ([], rest)

/-- A qualified name: its parts, at least one, and what follows. -/
def qualifiedName? : List Token → Option (Text × List Text × List Token)
  | name :: rest =>
    if name.kind = .identifier then
      let (names, rest) := qualifiedRest rest
      some (name.image, names, rest)
    else none
  | [] => none

/-- Generic arguments as runs of tokens, from behind the opening angle: `depth` angles are open
inside the argument `run`, which is reversed. A run that no comma and no closing angle ends is
dropped. -/
def argumentRuns (depth : Nat) (run : List Token) : List Token → List (List Token) × List Token
  | [] => ([], [])
  | t :: rest =>
    match t.kind, depth with
    | .leftAngle, _ => argumentRuns (depth + 1) (t :: run) rest
    | .rightAngle, 0 => ([run.reverse], rest)
    | .rightAngle, depth + 1 => argumentRuns depth (t :: run) rest
    | .comma, 0 =>
      let (runs, rest) := argumentRuns 0 [] rest
      (run.reverse :: runs, rest)
    | _, _ => argumentRuns depth (t :: run) rest

/-- What follows the brackets opened before, once they are all closed again. -/
def closeBrackets (depth : Nat) : List Token → Option (List Token)
  | [] => none
  | t :: rest =>
    match t.kind, depth with
    | .leftBracket, _ => closeBrackets (depth + 1) rest
    | .rightBracket, 0 => some rest
    | .rightBracket, depth + 1 => closeBrackets depth rest
    | _, _ => closeBrackets depth rest

/-- A balanced group of brackets makes an array; an unbalanced one is left where it is. -/
def arraySuffix? : List Token → Option (List Token)
  | t :: rest => if t.kind = .leftBracket then closeBrackets 0 rest else none
  | [] => none

def trailingQualifiers (isConst : Bool) (rest : List Token) : Qualifiers where
  isConst := isConst || rest.any (·.kind = .const)
  isPointer := rest.any (·.kind = .asterisk)
  isReference := rest.any (·.kind = .ampersand)

/-- The parts of a signature before its arguments are read. -/
structure SignatureParts where
  name : Text
  names : List Text
  runs : List (List Token)
  isArray : Bool
  qualifiers : Qualifiers

def takeConst : List Token → Bool × List Token
  | t :: rest => if t.kind = .const then (true, rest) else (false, t :: rest)
  | [] => (false, [])

/-- The arguments, none where no angle opens. -/
def takeArguments : List Token → List (List Token) × List Token
  | t :: rest => if t.kind = .leftAngle then argumentRuns 0 [] rest else ([], t :: rest)
  | [] => ([], [])

def takeArray (ts : List Token) : Bool × List Token :=
  match arraySuffix? ts with
  | some rest => (true, rest)
  | none => (false, ts)

def parts? (ts : List Token) : Option SignatureParts :=
  (qualifiedName? (takeConst ts).2).map fun (name, names, rest) =>
    let (runs, rest) := takeArguments rest
    let (isArray, rest) := takeArray rest
    ⟨name, names, runs.filter (!·.isEmpty), isArray, trailingQualifiers (takeConst ts).1 rest⟩

/-- The tree whose arguments have been read. -/
def SignatureParts.tree (o : SignatureParts) (arguments : List TypeTree) : TypeTree :=
  .mk ((o.name :: o.names).dropLast) ((o.name :: o.names).getLastD o.name) arguments o.isArray
    o.qualifiers

theorem mem_qualifiedRest {ts : List Token} {x : Token} (h : x ∈ (qualifiedRest ts).2) : x ∈ ts := by
  fun_induction qualifiedRest ts <;> simp_all

theorem mem_qualifiedName {ts rest : List Token} {name : Text} {names : List Text} {x : Token}
    (h : qualifiedName? ts = some (name, names, rest)) (hx : x ∈ rest) : x ∈ ts.tail := by
  cases ts with
  | nil => simp [qualifiedName?] at h
  | cons t ts =>
    simp only [qualifiedName?] at h
    split at h
    · simp only [Option.some.injEq, Prod.mk.injEq] at h
      obtain ⟨-, -, rfl⟩ := h
      exact mem_qualifiedRest hx
    · simp at h

theorem mem_argumentRuns {depth : Nat} {open_ ts run : List Token} {x : Token}
    (hr : run ∈ (argumentRuns depth open_ ts).1) (hx : x ∈ run) : x ∈ open_ ∨ x ∈ ts := by
  fun_induction argumentRuns depth open_ ts <;> grind

theorem mem_takeArguments {ts run : List Token} {x : Token} (hr : run ∈ (takeArguments ts).1)
    (hx : x ∈ run) : x ∈ ts := by
  cases ts with
  | nil => simp [takeArguments] at hr
  | cons t ts =>
    simp only [takeArguments] at hr
    split at hr
    · rcases mem_argumentRuns hr hx with h | h
      · simp at h
      · exact List.mem_cons_of_mem t h
    · simp at hr

theorem mem_tail_takeConst {ts : List Token} {x : Token} (h : x ∈ (takeConst ts).2.tail) :
    x ∈ ts.tail := by
  cases ts with
  | nil => simp [takeConst] at h
  | cons t ts =>
    simp only [takeConst] at h
    split at h
    · exact List.mem_of_mem_tail h
    · exact h

/-- An argument never starts where its type does. -/
theorem mem_parts {ts run : List Token} {p : SignatureParts} {x : Token} (h : parts? ts = some p)
    (hr : run ∈ p.runs) (hx : x ∈ run) : x ∈ ts.tail := by
  simp only [parts?, Option.map_eq_some_iff] at h
  obtain ⟨⟨name, names, rest⟩, hn, rfl⟩ := h
  exact mem_tail_takeConst (mem_qualifiedName hn
    (mem_takeArguments (List.mem_filter.1 hr).1 hx))

theorem nonempty_of_mem_parts {ts run : List Token} {p : SignatureParts} (h : parts? ts = some p)
    (hr : run ∈ p.runs) : run ≠ [] := by
  simp only [parts?, Option.map_eq_some_iff] at h
  obtain ⟨⟨name, names, rest⟩, -, rfl⟩ := h
  simpa using (List.mem_filter.1 hr).2

theorem length_spanOf_lt {t : Text} {run : List Token} {p : SignatureParts}
    (h : parts? (tokens t) = some p) (hr : run ∈ p.runs) : (spanOf t run).length < t.length := by
  cases run with
  | nil => exact absurd rfl (nonempty_of_mem_parts h hr)
  | cons x run =>
    have hx := scan_tail_start t 0 x (mem_parts h hr List.mem_cons_self)
    have ht : t ≠ [] := by
      rintro rfl
      simp [tokens, pieces, parts?, takeConst, qualifiedName?] at h
    have : 0 < t.length := List.length_pos_iff.2 ht
    simp only [spanOf, List.head?_cons, List.getLast?_cons, Text.slice, List.length_take,
      List.length_drop]
    omega

/-- Reads a signature. Arguments that cannot be read are left out. -/
def parse (t : Text) : Except SignatureError TypeTree :=
  if (criticalStrays t).isEmpty then
    match _h : parts? (tokens t) with
    | some p => .ok (p.tree (p.runs.attach.filterMap fun ⟨run, _hr⟩ =>
        (parse (spanOf t run)).toOption))
    | none => .error .noName
  else .error (.strays (criticalStrays t))
  termination_by t.length
  decreasing_by exact length_spanOf_lt _h _hr

def parse? (t : Text) : Option TypeTree := (parse t).toOption

/-- What is said of a text that is no signature. -/
def notParsed (t : Text) : Text := "Could not parse '" ++ t ++ "'"

end TypeAtlas
