/-!
Values kept by key in the order in which the keys first came. Setting a key that is there keeps its
place; no key is there twice.
-/

namespace TypeAtlas

structure Keyed (κ ν : Type) where
  entries : List (κ × ν)
  nodup : (entries.map Prod.fst).Nodup

namespace Keyed

variable {κ ν : Type}

def empty : Keyed κ ν := ⟨[], List.nodup_nil⟩

instance : Inhabited (Keyed κ ν) := ⟨empty⟩

theorem eq_of_entries {s t : Keyed κ ν} (h : s.entries = t.entries) : s = t := by
  cases s
  cases h
  rfl

def keys (s : Keyed κ ν) : List κ := s.entries.map Prod.fst

def values (s : Keyed κ ν) : List ν := s.entries.map Prod.snd

def size (s : Keyed κ ν) : Nat := s.entries.length

variable [DecidableEq κ]

def get? (s : Keyed κ ν) (k : κ) : Option ν := s.entries.lookup k

def contains (s : Keyed κ ν) (k : κ) : Bool := k ∈ s.keys

/-- The entries with `k` set to `v`. -/
def put (k : κ) (v : ν) : List (κ × ν) → List (κ × ν)
  | [] => [(k, v)]
  | (k', v') :: rest => if k' = k then (k, v) :: rest else (k', v') :: put k v rest

theorem mem_keys_put {k x : κ} {v : ν} {es : List (κ × ν)} :
    x ∈ (put k v es).map Prod.fst ↔ x = k ∨ x ∈ es.map Prod.fst := by
  induction es with
  | nil => simp [put]
  | cons e es ih =>
    obtain ⟨k', v'⟩ := e
    simp only [put]
    split
    · rename_i h
      subst h
      simp
    · simp only [List.map_cons, List.mem_cons, ih]
      grind

theorem nodup_keys_put {k : κ} {v : ν} {es : List (κ × ν)} (h : (es.map Prod.fst).Nodup) :
    ((put k v es).map Prod.fst).Nodup := by
  induction es with
  | nil => simp [put]
  | cons e es ih =>
    obtain ⟨k', v'⟩ := e
    simp only [List.map_cons, List.nodup_cons] at h
    simp only [put]
    split
    · rename_i hk
      subst hk
      simpa using h
    · rename_i hk
      simp only [List.map_cons, List.nodup_cons, mem_keys_put, not_or]
      exact ⟨⟨hk, h.1⟩, ih h.2⟩

def set (s : Keyed κ ν) (k : κ) (v : ν) : Keyed κ ν := ⟨put k v s.entries, nodup_keys_put s.nodup⟩

/-- Sets a key only when it is not there yet. -/
def setNew (s : Keyed κ ν) (k : κ) (v : ν) : Keyed κ ν := if s.contains k then s else s.set k v

def erase (s : Keyed κ ν) (k : κ) : Keyed κ ν :=
  ⟨s.entries.filter (·.1 ≠ k), by
    have : (s.entries.filter (·.1 ≠ k)).map Prod.fst =
        (s.entries.map Prod.fst).filter (· ≠ k) := by
      rw [List.filter_map]
      rfl
    rw [this]
    exact s.nodup.sublist List.filter_sublist⟩

theorem lookup_cons_ne {α β : Type} [BEq α] [LawfulBEq α] {k x : α} {v : β} {es : List (α × β)}
    (h : x ≠ k) : List.lookup x ((k, v) :: es) = es.lookup x := by
  have : (x == k) = false := beq_eq_false_iff_ne.2 h
  simp [List.lookup_cons, this]

theorem lookup_put {k x : κ} {v : ν} {es : List (κ × ν)} :
    (put k v es).lookup x = if x = k then some v else es.lookup x := by
  induction es with
  | nil =>
    by_cases h : x = k
    · simp [put, h]
    · simp [put, lookup_cons_ne h, h]
  | cons e es ih =>
    obtain ⟨k', v'⟩ := e
    by_cases hk : k' = k
    · subst hk
      by_cases hx : x = k'
      · simp [put, hx]
      · simp [put, lookup_cons_ne hx, hx]
    · by_cases hx : x = k'
      · subst hx
        simp [put, hk]
      · simp [put, hk, lookup_cons_ne hx, ih]

@[simp] theorem get?_set (s : Keyed κ ν) (k x : κ) (v : ν) :
    (s.set k v).get? x = if x = k then some v else s.get? x := lookup_put

@[simp] theorem get?_empty (x : κ) : (empty : Keyed κ ν).get? x = none := rfl

@[simp] theorem mem_keys_set {s : Keyed κ ν} {k x : κ} {v : ν} :
    x ∈ (s.set k v).keys ↔ x = k ∨ x ∈ s.keys := mem_keys_put

theorem put_of_not_mem {k : κ} {v : ν} {es : List (κ × ν)} (h : k ∉ es.map Prod.fst) :
    put k v es = es ++ [(k, v)] := by
  induction es with
  | nil => rfl
  | cons e es ih =>
    obtain ⟨k', v'⟩ := e
    rw [List.map_cons, List.mem_cons, not_or] at h
    rw [put, if_neg (Ne.symm h.1), ih h.2]
    rfl

theorem keys_put_of_mem {k : κ} {v : ν} {es : List (κ × ν)} (h : k ∈ es.map Prod.fst) :
    (put k v es).map Prod.fst = es.map Prod.fst := by
  induction es with
  | nil => simp at h
  | cons e es ih =>
    obtain ⟨k', v'⟩ := e
    rw [put]
    split
    · rename_i hk
      rw [hk]
      rfl
    · rename_i hk
      rcases List.mem_cons.mp h with heq | hmem
      · exact absurd heq.symm hk
      · rw [List.map_cons, List.map_cons, ih hmem]

theorem put_of_lookup {k : κ} {v : ν} {es : List (κ × ν)} (h : es.lookup k = some v) :
    put k v es = es := by
  induction es with
  | nil => cases h
  | cons e es ih =>
    obtain ⟨k', v'⟩ := e
    rw [put]
    split
    · rename_i hk
      subst hk
      rw [List.lookup_cons_self] at h
      rw [Option.some.inj h]
    · rename_i hk
      rw [lookup_cons_ne (Ne.symm hk)] at h
      rw [ih h]

theorem lookup_eq_some_iff {k : κ} {v : ν} {es : List (κ × ν)} (h : (es.map Prod.fst).Nodup) :
    es.lookup k = some v ↔ (k, v) ∈ es := by
  induction es with
  | nil => simp
  | cons e es ih =>
    obtain ⟨k', v'⟩ := e
    rw [List.map_cons, List.nodup_cons] at h
    by_cases hk : k = k'
    · subst hk
      rw [List.lookup_cons_self, List.mem_cons, Option.some.injEq, Prod.mk.injEq]
      constructor
      · intro hv
        exact .inl ⟨rfl, hv.symm⟩
      · rintro (hv | hmem)
        · exact hv.2.symm
        · exact absurd (List.mem_map_of_mem hmem) h.1
    · rw [lookup_cons_ne hk, ih h.2, List.mem_cons, Prod.mk.injEq]
      exact ⟨.inr, fun hmem => hmem.resolve_left fun heq => hk heq.1⟩

@[simp] theorem contains_iff {s : Keyed κ ν} {k : κ} : s.contains k = true ↔ k ∈ s.keys :=
  decide_eq_true_iff

theorem contains_eq_false_iff {s : Keyed κ ν} {k : κ} : s.contains k = false ↔ k ∉ s.keys :=
  decide_eq_false_iff_not

theorem get?_eq_some_iff {s : Keyed κ ν} {k : κ} {v : ν} :
    s.get? k = some v ↔ (k, v) ∈ s.entries := lookup_eq_some_iff s.nodup

theorem mem_keys_iff {s : Keyed κ ν} {k : κ} : k ∈ s.keys ↔ ∃ v, s.get? k = some v := by
  constructor
  · intro h
    obtain ⟨⟨k', v⟩, hmem, rfl⟩ := List.mem_map.mp h
    exact ⟨v, get?_eq_some_iff.mpr hmem⟩
  · rintro ⟨v, hv⟩
    exact List.mem_map_of_mem (get?_eq_some_iff.mp hv)

theorem get?_eq_none_iff {s : Keyed κ ν} {k : κ} : s.get? k = none ↔ k ∉ s.keys := by
  rw [mem_keys_iff, not_exists, Option.eq_none_iff_forall_ne_some]

theorem set_of_get? {s : Keyed κ ν} {k : κ} {v : ν} (h : s.get? k = some v) : s.set k v = s :=
  eq_of_entries (put_of_lookup h)

theorem keys_set_of_mem {s : Keyed κ ν} {k : κ} {v : ν} (h : k ∈ s.keys) :
    (s.set k v).keys = s.keys := keys_put_of_mem h

theorem entries_set_of_not_mem {s : Keyed κ ν} {k : κ} {v : ν} (h : k ∉ s.keys) :
    (s.set k v).entries = s.entries ++ [(k, v)] := put_of_not_mem h

theorem values_set_of_not_mem {s : Keyed κ ν} {k : κ} {v : ν} (h : k ∉ s.keys) :
    (s.set k v).values = s.values ++ [v] := by
  rw [values, entries_set_of_not_mem h, List.map_append]
  rfl

theorem keys_set_of_not_mem {s : Keyed κ ν} {k : κ} {v : ν} (h : k ∉ s.keys) :
    (s.set k v).keys = s.keys ++ [k] := by
  rw [keys, entries_set_of_not_mem h, List.map_append]
  rfl

theorem size_set_of_not_mem {s : Keyed κ ν} {k : κ} {v : ν} (h : k ∉ s.keys) :
    (s.set k v).size = s.size + 1 := by
  rw [size, entries_set_of_not_mem h, List.length_append]
  rfl

theorem size_set_of_mem {s : Keyed κ ν} {k : κ} {v : ν} (h : k ∈ s.keys) :
    (s.set k v).size = s.size := by
  have hlength := congrArg List.length (keys_set_of_mem (v := v) h)
  rwa [keys, keys, List.length_map, List.length_map] at hlength

theorem setNew_of_mem {s : Keyed κ ν} {k : κ} {v : ν} (h : k ∈ s.keys) : s.setNew k v = s :=
  if_pos (contains_iff.mpr h)

theorem setNew_of_not_mem {s : Keyed κ ν} {k : κ} {v : ν} (h : k ∉ s.keys) :
    s.setNew k v = s.set k v :=
  if_neg fun hk => h (contains_iff.mp hk)

@[simp] theorem mem_keys_setNew {s : Keyed κ ν} {k x : κ} {v : ν} :
    x ∈ (s.setNew k v).keys ↔ x = k ∨ x ∈ s.keys := by
  by_cases h : k ∈ s.keys
  · rw [setNew_of_mem h]
    exact ⟨.inr, fun hx => hx.elim (fun heq => heq ▸ h) id⟩
  · rw [setNew_of_not_mem h, mem_keys_set]

theorem get?_setNew {s : Keyed κ ν} {k x : κ} {v : ν} :
    (s.setNew k v).get? x = if x = k then some ((s.get? k).getD v) else s.get? x := by
  by_cases h : k ∈ s.keys
  · obtain ⟨w, hw⟩ := mem_keys_iff.mp h
    rw [setNew_of_mem h, hw]
    split
    · rename_i hx
      rw [hx, hw]
      rfl
    · rfl
  · rw [setNew_of_not_mem h, get?_set, get?_eq_none_iff.mpr h]
    rfl

/-- What a key has after `setNew` it had before, unless the key is new. -/
theorem eq_of_get?_setNew {s : Keyed κ ν} {k x : κ} {v w : ν} (h : (s.setNew k v).get? x = some w) :
    s.get? x = some w ∨ x = k ∧ w = v ∧ k ∉ s.keys := by
  by_cases hk : k ∈ s.keys
  · rw [setNew_of_mem hk] at h
    exact .inl h
  · rw [setNew_of_not_mem hk, get?_set] at h
    split at h
    · cases h
      exact .inr ⟨‹_›, rfl, hk⟩
    · exact .inl h

theorem get?_erase {s : Keyed κ ν} {k x : κ} :
    (s.erase k).get? x = if x = k then none else s.get? x := by
  split
  · rename_i hx
    rw [get?_eq_none_iff, keys, erase, List.mem_map]
    rintro ⟨e, hmem, rfl⟩
    have hne := (List.mem_filter.mp hmem).2
    simp [hx] at hne
  · rename_i hx
    apply Option.ext
    intro v
    rw [get?_eq_some_iff, get?_eq_some_iff, erase, List.mem_filter]
    exact ⟨And.left, fun hmem => ⟨hmem, by simp [hx]⟩⟩

@[simp] theorem mem_keys_erase {s : Keyed κ ν} {k x : κ} :
    x ∈ (s.erase k).keys ↔ x ∈ s.keys ∧ x ≠ k := by
  simp only [keys, erase, List.mem_map, List.mem_filter, decide_eq_true_eq]
  constructor
  · rintro ⟨e, ⟨hmem, hk⟩, rfl⟩
    exact ⟨⟨e, hmem, rfl⟩, hk⟩
  · rintro ⟨⟨e, hmem, rfl⟩, hk⟩
    exact ⟨e, ⟨hmem, hk⟩, rfl⟩

end Keyed

end TypeAtlas
