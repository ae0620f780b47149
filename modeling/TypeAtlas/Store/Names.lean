import TypeAtlas.Store.Keyed
import TypeAtlas.Text.Basic

/-!
Sets of names that keep the order in which the names came.
-/

namespace TypeAtlas

abbrev Names := Keyed Text Unit

namespace Names

def none : Names := Keyed.empty

def has (s : Names) (name : Text) : Bool := s.contains name

def add (s : Names) (name : Text) : Names := s.setNew name ()

def remove (s : Names) (name : Text) : Names := s.erase name

def inOrder (s : Names) : List Text := s.keys

@[simp] theorem has_iff {s : Names} {name : Text} : s.has name = true ↔ name ∈ s.keys :=
  Keyed.contains_iff

theorem has_eq_false_iff {s : Names} {name : Text} : s.has name = false ↔ name ∉ s.keys :=
  Keyed.contains_eq_false_iff

@[simp] theorem mem_keys_add {s : Names} {name x : Text} :
    x ∈ (s.add name).keys ↔ x = name ∨ x ∈ s.keys := Keyed.mem_keys_setNew

theorem inOrder_sublist_add (s : Names) (name : Text) :
    s.inOrder.Sublist (s.add name).inOrder := by
  by_cases h : name ∈ s.keys
  · have hadd : s.add name = s := Keyed.setNew_of_mem h
    exact hadd.symm ▸ List.Sublist.refl s.inOrder
  · rw [add, Keyed.setNew_of_not_mem h]
    have hkeys : (s.set name ()).keys = s.keys ++ [name] := Keyed.keys_set_of_not_mem h
    rw [inOrder, inOrder, hkeys]
    exact List.sublist_append_left _ _

def sorted (s : Names) : List Text := Text.sort s.keys

end Names

end TypeAtlas
