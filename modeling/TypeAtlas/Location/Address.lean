import TypeAtlas.Text.Digits

/-!
Numeric host addresses.
-/

namespace TypeAtlas

/-- A number from 0 to 255 without a leading zero. -/
def isOctet (t : Text) : Bool :=
  !t.isEmpty && t.all Char.isDigit && t.length ≤ 3 && (t.length = 1 || t.head? != some '0') &&
    decimalValue t ≤ 255

def isAddress4 (t : Text) : Bool :=
  let octets := Text.fields '.' t
  octets.length = 4 && octets.all isOctet

def isGroup (t : Text) : Bool := !t.isEmpty && t.length ≤ 4 && t.all isHexDigit

/-- The groups with an address of the old kind at the end counted as two. -/
def groups? (t : Text) : Option (List Text) :=
  let groups := Text.fields ':' t
  if groups.length < 3 then none
  else match groups.getLast? with
    | some last =>
      if last.contains '.' then
        if isAddress4 last then some (groups.dropLast ++ (["0", "0"] : List Text)) else none
      else some groups
    | none => none

/-- Eight groups, or fewer around one gap of empty ones. -/
def areGroups (groups : List Text) : Bool :=
  let inner := groups.tail.dropLast
  match inner.filter List.isEmpty with
  | [] => groups.length = 8 && groups.all isGroup
  | [_] =>
    let before := groups.take (inner.takeWhile (!·.isEmpty)).length.succ
    let after := groups.drop (inner.takeWhile (!·.isEmpty)).length.succ.succ
    let full (side : List Text) : Bool := side = [[]] || side.all isGroup
    let size (side : List Text) : Nat := if side = [[]] then 0 else side.length
    full before && full after && size before + size after < 8
  | _ => false

def isAddress6 (t : Text) : Bool :=
  if t.contains '/' then false
  else
    let address := match Text.cut? "%" t with
      | some (address, zone) => if zone.isEmpty || zone.contains '%' then none else some address
      | none => some t
    match address.bind groups? with
    | some groups => areGroups groups
    | none => false

end TypeAtlas
