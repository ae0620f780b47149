import Mathlib.Data.List.Basic
import Mathlib.Data.List.Induction

/-!
Lists read as histories. What an entry is depends on those before it; first occurrences and
repetitions are told apart by them, and grow with the history entry by entry.
-/

namespace TypeAtlas

variable {α β : Type} [DecidableEq β]

/-- The entries whose value under `f` no entry before them has. -/
def firstsBy (f : α → β) (l : List α) : List α :=
  (l.zipIdx.filter fun p => f p.1 ∉ (l.take p.2).map f).map Prod.fst

/-- The number of entries whose value under `f` an entry before them has. -/
def repeatsBy (f : α → β) (l : List α) : Nat :=
  l.zipIdx.countP fun p => f p.1 ∈ (l.take p.2).map f

theorem take_append_of_mem_zipIdx {l : List α} {p : α × Nat} (h : p ∈ l.zipIdx) (added : List α) :
    (l ++ added).take p.2 = l.take p.2 := by
  have hlt := List.snd_lt_add_of_mem_zipIdx h
  exact List.take_append_of_le_length (by omega)

theorem firstsBy_concat (f : α → β) (l : List α) (a : α) :
    firstsBy f (l ++ [a]) = if f a ∈ l.map f then firstsBy f l else firstsBy f l ++ [a] := by
  have hfront : (l.zipIdx.filter fun p => f p.1 ∉ ((l ++ [a]).take p.2).map f) =
      l.zipIdx.filter fun p => f p.1 ∉ (l.take p.2).map f :=
    List.filter_congr fun p hp => by rw [take_append_of_mem_zipIdx hp]
  rw [firstsBy, List.zipIdx_append, List.filter_append, hfront]
  by_cases ha : f a ∈ l.map f
  · simp [firstsBy, ha]
  · simp [firstsBy, ha]

theorem repeatsBy_concat (f : α → β) (l : List α) (a : α) :
    repeatsBy f (l ++ [a]) = repeatsBy f l + if f a ∈ l.map f then 1 else 0 := by
  have hfront : l.zipIdx.countP (fun p => f p.1 ∈ ((l ++ [a]).take p.2).map f) =
      l.zipIdx.countP fun p => f p.1 ∈ (l.take p.2).map f :=
    List.countP_congr fun p hp => by rw [take_append_of_mem_zipIdx hp]
  rw [repeatsBy, List.zipIdx_append, List.countP_append, hfront]
  by_cases ha : f a ∈ l.map f
  · simp [repeatsBy, ha]
  · simp [repeatsBy, ha]

/-- Every value is that of a first occurrence. -/
theorem mem_map_firstsBy {f : α → β} {l : List α} {b : β} :
    b ∈ (firstsBy f l).map f ↔ b ∈ l.map f := by
  induction l using List.reverseRecOn with
  | nil => rfl
  | append_singleton l a ih =>
    rw [firstsBy_concat, List.map_append, List.mem_append, List.map_singleton, List.mem_singleton]
    split
    · rename_i ha
      rw [ih]
      exact ⟨.inl, fun hb => hb.elim id fun heq => heq ▸ ha⟩
    · rw [List.map_append, List.mem_append, ih, List.map_singleton, List.mem_singleton]

theorem nodup_map_firstsBy (f : α → β) (l : List α) : ((firstsBy f l).map f).Nodup := by
  induction l using List.reverseRecOn with
  | nil => exact List.nodup_nil
  | append_singleton l a ih =>
    rw [firstsBy_concat]
    split
    · exact ih
    · rename_i ha
      rw [List.map_append, List.map_singleton, List.nodup_append]
      refine ⟨ih, by simp, ?_⟩
      intro b hb c hc
      rw [List.mem_singleton] at hc
      rintro rfl
      exact ha (hc ▸ mem_map_firstsBy.mp hb)

theorem mem_firstsBy_id {l : List β} {b : β} : b ∈ firstsBy id l ↔ b ∈ l := by
  have hmem := mem_map_firstsBy (f := id) (l := l) (b := b)
  rwa [List.map_id, List.map_id] at hmem

theorem nodup_firstsBy_id (l : List β) : (firstsBy id l).Nodup := by
  have hnodup := nodup_map_firstsBy id l
  rwa [List.map_id] at hnodup

theorem firstsBy_id_concat (l : List β) (b : β) :
    firstsBy id (l ++ [b]) = if b ∈ l then firstsBy id l else firstsBy id l ++ [b] := by
  rw [firstsBy_concat, List.map_id]
  rfl

theorem firstsBy_eq_self {f : α → β} {l : List α} (h : (l.map f).Nodup) : firstsBy f l = l := by
  induction l using List.reverseRecOn with
  | nil => rfl
  | append_singleton l a ih =>
    rw [List.map_append, List.map_singleton, List.nodup_append] at h
    have hfresh : f a ∉ l.map f := fun hmem => h.2.2 _ hmem _ List.mem_cons_self rfl
    rw [firstsBy_concat, if_neg hfresh, ih h.1]

theorem firstsBy_firstsBy (f : α → β) (l : List α) : firstsBy f (firstsBy f l) = firstsBy f l :=
  firstsBy_eq_self (nodup_map_firstsBy f l)

/-- First occurrences may be picked before others are added behind. -/
theorem firstsBy_append (f : α → β) (l added : List α) :
    firstsBy f (firstsBy f l ++ added) = firstsBy f (l ++ added) := by
  induction added using List.reverseRecOn with
  | nil => rw [List.append_nil, List.append_nil, firstsBy_firstsBy]
  | append_singleton added a ih =>
    have hiff : f a ∈ (firstsBy f l ++ added).map f ↔ f a ∈ (l ++ added).map f := by
      rw [List.map_append, List.map_append, List.mem_append, List.mem_append, mem_map_firstsBy]
    rw [← List.append_assoc, ← List.append_assoc, firstsBy_concat, firstsBy_concat, ih]
    simp only [hiff]

/-- What has only known values adds nothing. -/
theorem firstsBy_append_known {f : α → β} {l added : List α}
    (h : ∀ a ∈ added, f a ∈ l.map f) : firstsBy f (l ++ added) = firstsBy f l := by
  induction added using List.reverseRecOn with
  | nil => rw [List.append_nil]
  | append_singleton added a ih =>
    have ha : f a ∈ (l ++ added).map f := by
      rw [List.map_append]
      exact List.mem_append_left _ (h a (by simp))
    rw [← List.append_assoc, firstsBy_concat, if_pos ha]
    exact ih fun b hb => h b (List.mem_append_left _ hb)

end TypeAtlas
