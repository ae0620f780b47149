import TypeAtlas.Proofs.Occurrence
import TypeAtlas.Resolution.Repository

/-!
Declarations that come under one name. Each one that finds its name taken is merged into the stored
declaration; after any history of additions what is stored under a name is the first declaration,
with the enumerations of all of them, each signature once.
-/

namespace TypeAtlas

namespace EnumType

theorem distinctFrom_cons (seen : List Text) (e : EnumType) (es : List EnumType) :
    distinctFrom seen (e :: es) = if e.signature ∈ seen then distinctFrom seen es
      else e :: distinctFrom (e.signature :: seen) es := rfl

theorem distinctFrom_concat (seen : List Text) (es : List EnumType) (e : EnumType) :
    distinctFrom seen (es ++ [e]) =
      if e.signature ∈ seen ∨ e.signature ∈ es.map signature then distinctFrom seen es
      else distinctFrom seen es ++ [e] := by
  induction es generalizing seen with
  | nil =>
    rw [List.nil_append, distinctFrom_cons, List.map_nil]
    simp only [List.not_mem_nil, or_false]
    rfl
  | cons d es ih =>
    rw [List.cons_append, distinctFrom_cons, distinctFrom_cons]
    simp only [List.map_cons, List.mem_cons]
    split
    · rename_i hd
      rw [ih]
      grind
    · rw [ih]
      simp only [List.mem_cons]
      grind

theorem distinct_eq (es : List EnumType) : distinct es = firstsBy signature es := by
  induction es using List.reverseRecOn with
  | nil => rfl
  | append_singleton es e ih =>
    rw [firstsBy_concat, ← ih, distinct, distinctFrom_concat, ← distinct]
    simp

end EnumType

namespace Declaration

/-- The first of some declarations, with the enumerations of all of them. -/
def merged (ds : List Declaration) : Option Declaration :=
  ds.head?.map fun d => { d with enums := firstsBy EnumType.signature (ds.flatMap (·.enums)) }

/-- What a declaration becomes where `stored?` is kept under its name. -/
def absorb (d : Declaration) : Option Declaration → Declaration
  | none => { d with enums := EnumType.distinct d.enums }
  | some stored => { stored with enums := EnumType.distinct (stored.enums ++ d.enums) }

theorem merged_concat (ds : List Declaration) (d : Declaration) :
    merged (ds ++ [d]) = some (d.absorb (merged ds)) := by
  cases ds with
  | nil => simp [merged, absorb, EnumType.distinct_eq]
  | cons e ds => simp [merged, absorb, EnumType.distinct_eq, firstsBy_append]

end Declaration

namespace Repository

/-- The repository after some additions. -/
def addAll (r : Repository) (calls : List (Text × Declaration)) : Repository :=
  calls.foldl (fun r call => (r.add call.1 call.2).2) r

/-- The declarations that were added under a key. -/
def under (key : Text) (calls : List (Text × Declaration)) : List Declaration :=
  (calls.filter (·.1 = key)).map Prod.snd

variable {r : Repository}

theorem addAll_concat (r : Repository) (calls : List (Text × Declaration))
    (call : Text × Declaration) :
    r.addAll (calls ++ [call]) = ((r.addAll calls).add call.1 call.2).2 := by
  rw [addAll, List.foldl_concat]
  rfl

theorem under_concat (key : Text) (calls : List (Text × Declaration))
    (call : Text × Declaration) :
    under key (calls ++ [call]) =
      if call.1 = key then under key calls ++ [call.2] else under key calls := by
  rw [under, List.filter_append, List.map_append]
  by_cases hkey : call.1 = key
  · simp [under, hkey]
  · simp [under, hkey]

/-! One addition. -/

/-- All that an addition does. -/
theorem add_eq (r : Repository) (key : Text) (d : Declaration) :
    r.add key d = (decide (key ∉ r.declarations.keys),
      { r with
        declarations := r.declarations.set key (d.absorb (r.get? key))
        merged := r.merged + if key ∈ r.declarations.keys then 1 else 0 }) := by
  unfold add get?
  cases hget : r.declarations.get? key with
  | none =>
    have hnew := Keyed.get?_eq_none_iff.mp hget
    simp [hnew, Declaration.absorb]
  | some stored =>
    have hknown : key ∈ r.declarations.keys := Keyed.mem_keys_iff.mpr ⟨stored, hget⟩
    simp [hknown, Declaration.absorb]

theorem get?_add (r : Repository) (key x : Text) (d : Declaration) :
    (r.add key d).2.get? x = if x = key then some (d.absorb (r.get? key)) else r.get? x := by
  rw [add_eq]
  exact Keyed.get?_set _ _ _ _

theorem keys_add (r : Repository) (key : Text) (d : Declaration) :
    (r.add key d).2.declarations.keys =
      if key ∈ r.declarations.keys then r.declarations.keys
      else r.declarations.keys ++ [key] := by
  rw [add_eq]
  split
  · rename_i hknown
    exact Keyed.keys_set_of_mem hknown
  · rename_i hnew
    exact Keyed.keys_set_of_not_mem hnew

/-- A declaration whose enumerations are all known under its name only counts as one more. -/
theorem add_known {key : Text} {d stored : Declaration} (hget : r.get? key = some stored)
    (habsorb : d.absorb (some stored) = stored) :
    r.add key d = (false, { r with merged := r.merged + 1 }) := by
  have hknown : key ∈ r.declarations.keys := Keyed.mem_keys_iff.mpr ⟨stored, hget⟩
  rw [add_eq, hget, habsorb, Keyed.set_of_get? hget, if_pos hknown]
  simp [hknown]

/-! Histories of additions. -/

theorem get?_addAll (r : Repository) (calls : List (Text × Declaration)) (key : Text) :
    (r.clearDeclarations.addAll calls).get? key = Declaration.merged (under key calls) := by
  induction calls using List.reverseRecOn with
  | nil => rfl
  | append_singleton calls call ih =>
    rw [addAll_concat, get?_add, under_concat]
    by_cases hkey : call.1 = key
    · subst hkey
      rw [if_pos rfl, if_pos rfl, Declaration.merged_concat, ih]
    · rw [if_neg (Ne.symm hkey), if_neg hkey, ih]

theorem keys_addAll (r : Repository) (calls : List (Text × Declaration)) :
    (r.clearDeclarations.addAll calls).declarations.keys =
      (firstsBy Prod.fst calls).map Prod.fst := by
  induction calls using List.reverseRecOn with
  | nil => rfl
  | append_singleton calls call ih =>
    rw [addAll_concat, keys_add, ih, firstsBy_concat]
    by_cases hkey : call.1 ∈ calls.map Prod.fst
    · rw [if_pos (mem_map_firstsBy.mpr hkey), if_pos hkey]
    · rw [if_neg fun hmem => hkey (mem_map_firstsBy.mp hmem), if_neg hkey, List.map_append]
      rfl

theorem mem_keys_addAll {calls : List (Text × Declaration)} {key : Text} :
    key ∈ (r.clearDeclarations.addAll calls).declarations.keys ↔ key ∈ calls.map Prod.fst := by
  rw [keys_addAll, mem_map_firstsBy]

theorem merged_addAll (r : Repository) (calls : List (Text × Declaration)) :
    (r.clearDeclarations.addAll calls).merged = repeatsBy Prod.fst calls := by
  induction calls using List.reverseRecOn with
  | nil => rfl
  | append_singleton calls call ih =>
    rw [addAll_concat, add_eq, repeatsBy_concat, ← ih]
    by_cases hkey : call.1 ∈ calls.map Prod.fst
    · simp only [mem_keys_addAll, hkey, if_true]
    · simp only [mem_keys_addAll, hkey, if_false]

theorem merged_repeated {ds : List Declaration} {d : Declaration} (hd : d ∈ ds) :
    ∃ stored, Declaration.merged ds = some stored ∧ d.absorb (some stored) = stored := by
  obtain ⟨e, rest, rfl⟩ := List.exists_cons_of_ne_nil (List.ne_nil_of_mem hd)
  refine ⟨_, rfl, ?_⟩
  have hknown : ∀ x ∈ d.enums,
      x.signature ∈ ((e :: rest).flatMap (·.enums)).map EnumType.signature := by
    intro x hx
    exact List.mem_map_of_mem (List.mem_flatMap.mpr ⟨d, hd, hx⟩)
  rw [Declaration.absorb, EnumType.distinct_eq, firstsBy_append, firstsBy_append_known hknown]

end Repository

/-- Whatever declarations are added under whatever keys: under each key is kept the first of its
declarations, with the enumerations of all of them, each signature where it occurs first and no
other time. The keys stay in the order in which they came, and the additions that found their key
taken are counted. Adding any of the declarations again is only counted. -/
theorem additions_merged (r : Repository) (calls : List (Text × Declaration)) (s : Repository)
    (hs : r.clearDeclarations.addAll calls = s) :
    (∀ key, s.get? key = Declaration.merged (Repository.under key calls)) ∧
    (∀ key d, s.get? key = some d → (d.enums.map EnumType.signature).Nodup) ∧
    s.declarations.keys = (firstsBy Prod.fst calls).map Prod.fst ∧
    s.merged = repeatsBy Prod.fst calls ∧
    (∀ key d, (s.add key d).1 = true ↔ key ∉ calls.map Prod.fst) ∧
    ∀ call ∈ calls, s.add call.1 call.2 = (false, { s with merged := s.merged + 1 }) := by
  subst hs
  refine ⟨r.get?_addAll calls, ?_, r.keys_addAll calls, r.merged_addAll calls, ?_, ?_⟩
  · intro key d hget
    rw [r.get?_addAll] at hget
    obtain ⟨first, -, rfl⟩ := Option.map_eq_some_iff.mp hget
    exact nodup_map_firstsBy _ _
  · intro key d
    rw [Repository.add_eq, decide_eq_true_iff, Repository.mem_keys_addAll]
  · rintro ⟨key, d⟩ hcall
    have hd : d ∈ Repository.under key calls :=
      List.mem_map.mpr ⟨(key, d), List.mem_filter.mpr ⟨hcall, by simp⟩, rfl⟩
    obtain ⟨stored, hmerged, habsorb⟩ := Repository.merged_repeated hd
    exact Repository.add_known ((r.get?_addAll calls key).trans hmerged) habsorb

namespace Sample

def flag (name : String) (values : List String) : EnumType :=
  ⟨name, values.map fun v => ⟨v, none, none⟩, none⟩

def declared (name : String) (parents : List Text) (enums : List EnumType) : Declaration :=
  ⟨name, [], name, parents, enums, [], [], [], [], none, false⟩

/-- Two declarations of one name with another between them; the first repeats an enumeration itself. -/
def additions : List (Text × Declaration) :=
  [("A", declared "A" ["P"] [flag "E" ["x"], flag "F" ["y"], flag "E" ["x"]]),
    ("B", declared "B" [] [flag "E" ["x"]]),
    ("A", declared "A" ["Q"] [flag "E" ["x", "z"], flag "F" ["y"]])]

end Sample

/-- The parents stay those of the first declaration; adding the second one again is only counted. -/
theorem additions_merged_sample :
    let s := Repository.empty.addAll Sample.additions
    s.get? "A" = some (Sample.declared "A" ["P"]
      [Sample.flag "E" ["x"], Sample.flag "F" ["y"], Sample.flag "E" ["x", "z"]]) ∧
    s.declarations.keys = ["A".toList, "B".toList] ∧ s.merged = 1 ∧
    s.add "A" (Sample.declared "A" ["Q"] [Sample.flag "E" ["x", "z"], Sample.flag "F" ["y"]]) =
      (false, { s with merged := 2 }) := by
  intro s
  obtain ⟨hget, -, hkeys, hmerged, -, hagain⟩ :=
    additions_merged .empty Sample.additions s rfl
  refine ⟨(hget "A").trans (by decide), hkeys.trans (by decide), hmerged.trans (by decide), ?_⟩
  have hcounted := hagain
    ("A", Sample.declared "A" ["Q"] [Sample.flag "E" ["x", "z"], Sample.flag "F" ["y"]]) (by decide)
  rwa [hmerged] at hcounted

end TypeAtlas
