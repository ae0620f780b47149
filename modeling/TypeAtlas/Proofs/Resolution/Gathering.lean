import TypeAtlas.Proofs.Resolution.Course
import TypeAtlas.Proofs.Resolution.Merging

/-!
Gathering the enumerations of namespaces. Each location that was put off is fetched once and in
order; the enumerations found there are added to those known before, and the first of a name stays,
wherever it came from. Pages that cannot be had are passed over, and a second gathering finds nothing
new.
-/

namespace TypeAtlas

/-- The enumerations of the namespace page at a location, none where there is no such page. -/
def Guide.enumsAt (g : Guide) (location : Text) : List EnumType :=
  match g.fetcher.fetch location with
  | .ok page => (page.namespaceInfo.map (·.enums)).getD []
  | .error _ => []

/-- An enumeration with the key that it is kept under. -/
def EnumType.keyed (e : EnumType) : Text × EnumType := (e.name, e)

/-- Enumerations with those of a list added, the first of each name. -/
def joinEnums (known : Keyed Text EnumType) (found : List EnumType) : List (Text × EnumType) :=
  firstsBy Prod.fst (known.entries ++ found.map EnumType.keyed)

namespace Run

/-- What gathering does to a run: the locations are fetched, and the enumerations that are found
join those known before, which are `added` more then. Nothing else changes in the repository, and
nothing in the resolver. -/
structure Gathers (locations : List Text) (found : List EnumType) (added : Nat) (s t : Run) :
    Prop where
  fetched : t.fetched = s.fetched ++ locations
  enums : t.repository.enums.entries = joinEnums s.repository.enums found
  size : t.repository.enums.size = s.repository.enums.size + added
  repository : t.repository = { s.repository with enums := t.repository.enums }
  resolver : t.resolver = s.resolver

variable {g : Guide} {s t u : Run}

theorem joinEnums_nil (known : Keyed Text EnumType) : joinEnums known [] = known.entries := by
  rw [joinEnums, List.map_nil, List.append_nil]
  exact firstsBy_eq_self known.nodup

theorem Gathers.refl (s : Run) : Gathers [] [] 0 s s :=
  ⟨(List.append_nil _).symm, (joinEnums_nil _).symm, rfl, rfl, rfl⟩

theorem Gathers.trans {locations locations' : List Text} {found found' : List EnumType}
    {added added' : Nat} (h : Gathers locations found added s t)
    (h' : Gathers locations' found' added' t u) :
    Gathers (locations ++ locations') (found ++ found') (added + added') s u where
  fetched := by rw [h'.fetched, h.fetched, List.append_assoc]
  enums := by
    rw [h'.enums, joinEnums, h.enums, joinEnums, joinEnums, firstsBy_append, List.map_append,
      List.append_assoc]
  size := by rw [h'.size, h.size, Nat.add_assoc]
  repository := by rw [h'.repository, h.repository]
  resolver := h'.resolver.trans h.resolver

/-! One enumeration, and those of a page. -/

theorem joinEnums_of_mem {known : Keyed Text EnumType} {e : EnumType} (h : e.name ∈ known.keys) :
    joinEnums known [e] = known.entries := by
  rw [joinEnums, List.map_singleton, firstsBy_concat, firstsBy_eq_self known.nodup]
  exact if_pos h

theorem joinEnums_of_not_mem {known : Keyed Text EnumType} {e : EnumType}
    (h : e.name ∉ known.keys) : joinEnums known [e] = known.entries ++ [e.keyed] := by
  rw [joinEnums, List.map_singleton, firstsBy_concat, firstsBy_eq_self known.nodup]
  exact if_neg h

theorem gathers_addEnum (s : Run) (e : EnumType) :
    Gathers [] [e] (if (s.addEnum e).1 = .added then 1 else 0) s (s.addEnum e).2 := by
  unfold addEnum Repository.addEnum
  cases hget : s.repository.enums.get? e.name with
  | none =>
    have hnew := Keyed.get?_eq_none_iff.mp hget
    exact ⟨(List.append_nil _).symm,
      (Keyed.entries_set_of_not_mem hnew).trans (joinEnums_of_not_mem hnew).symm,
      Keyed.size_set_of_not_mem hnew, rfl, rfl⟩
  | some stored =>
    have hjoined := joinEnums_of_mem (Keyed.mem_keys_iff.mpr ⟨stored, hget⟩)
    by_cases hsame : stored.signature = e.signature
    · simp only [hsame, if_true, reduceCtorEq, if_false]
      exact ⟨(List.append_nil _).symm, hjoined.symm, rfl, rfl, rfl⟩
    · simp only [hsame, reduceCtorEq, if_false]
      exact ⟨(List.append_nil _).symm, hjoined.symm, rfl, rfl, rfl⟩

theorem gathers_addEnums (s : Run) (count : Nat) (es : List EnumType) :
    ∃ added, (s.addEnums count es).1 = count + added ∧
      Gathers [] es added s (s.addEnums count es).2 := by
  induction es generalizing s count with
  | nil => exact ⟨0, rfl, .refl s⟩
  | cons e es ih =>
    have hfirst := gathers_addEnum s e
    obtain ⟨added, hcount, hrest⟩ := ih (s.addEnum e).2
      (if (s.addEnum e).1 = .added then count + 1 else count)
    refine ⟨_, ?_, hfirst.trans hrest⟩
    rw [addEnums, hcount]
    split <;> omega

/-- One location is fetched; a page that cannot be had leaves nothing but a warning. -/
theorem collectFrom_run {location : Text} (count : Nat)
    (h : ∀ fault, g.fetcher.fetch location = .error fault → fault.isExpected = true) (s : Run) :
    ∃ added t, (collectFrom g count location).run s = (.ok (count + added), t) ∧
      Gathers [location] (g.enumsAt location) added s t := by
  have hnote : (modify (·.noteFetch location) : Work Unit).run s =
      (.ok (), s.noteFetch location) := rfl
  have hnoted : Gathers [location] [] 0 s (s.noteFetch location) :=
    ⟨rfl, (joinEnums_nil _).symm, rfl, rfl, rfl⟩
  rw [collectFrom, bind_run hnote, Guide.enumsAt]
  cases hfetch : g.fetcher.fetch location with
  | error fault =>
    have hexpected := h fault hfetch
    refine ⟨0, (s.noteFetch location).warn (.skipped location fault), ?_, ?_⟩
    · simp only [hexpected]
      rfl
    · exact ⟨rfl, hnoted.enums, rfl, rfl, rfl⟩
  | ok page =>
    cases hinfo : page.namespaceInfo with
    | none =>
      refine ⟨0, s.noteFetch location, ?_, ?_⟩
      · simp only [hinfo]
        rfl
      · simp only [hinfo]
        exact hnoted
    | some info =>
      obtain ⟨added, hcount, hgathers⟩ := gathers_addEnums (s.noteFetch location) count info.enums
      refine ⟨added, ((s.noteFetch location).addEnums count info.enums).2, ?_, ?_⟩
      · simp only [hinfo]
        rw [bind_run (get_run _), ← hcount]
        rfl
      · have htotal := hnoted.trans hgathers
        rw [Nat.zero_add] at htotal
        simp only [hinfo]
        exact htotal

/-! All locations. -/

theorem foldlM_collectFrom_run {locations : List Text} (count : Nat)
    (h : ∀ location ∈ locations, ∀ fault,
      g.fetcher.fetch location = .error fault → fault.isExpected = true) (s : Run) :
    ∃ added t, (locations.foldlM (collectFrom g) count).run s = (.ok (count + added), t) ∧
      Gathers locations (locations.flatMap g.enumsAt) added s t := by
  induction locations generalizing s count with
  | nil => exact ⟨0, s, rfl, .refl s⟩
  | cons location locations ih =>
    obtain ⟨added, t, hrun, hgathers⟩ := collectFrom_run count (h location List.mem_cons_self) s
    obtain ⟨more, u, hrest, hothers⟩ := ih (count + added)
      (fun l hl => h l (List.mem_cons_of_mem location hl)) t
    refine ⟨added + more, u, ?_, hgathers.trans hothers⟩
    rw [List.foldlM_cons, bind_run hrun, hrest, Nat.add_assoc]

theorem collectEnums_run (s : Run)
    (h : ∀ location ∈ s.repository.discovered.inOrder, ∀ fault,
      g.fetcher.fetch location = .error fault → fault.isExpected = true) :
    ∃ added t, (collectEnums g).run s = (.ok added, t) ∧
      Gathers s.repository.discovered.inOrder (s.repository.discovered.inOrder.flatMap g.enumsAt)
        added s t := by
  obtain ⟨added, t, hrun, hgathers⟩ := foldlM_collectFrom_run 0 h s
  rw [Nat.zero_add] at hrun
  exact ⟨added, t, (bind_run (get_run s)).trans hrun, hgathers⟩

/-- What was found once is not new the second time. -/
theorem Gathers.again {locations locations' : List Text} {found : List EnumType}
    {added added' : Nat} (h : Gathers locations found added s t)
    (h' : Gathers locations' found added' t u) :
    added' = 0 ∧ u.repository = t.repository ∧ u.resolver = t.resolver := by
  have hknown : ∀ e ∈ found.map EnumType.keyed, e.1 ∈ t.repository.enums.entries.map Prod.fst := by
    intro e he
    rw [h.enums, joinEnums, mem_map_firstsBy, List.map_append]
    exact List.mem_append_right _ (List.mem_map_of_mem he)
  have hentries : u.repository.enums.entries = t.repository.enums.entries := by
    rw [h'.enums, joinEnums, firstsBy_append_known hknown]
    exact firstsBy_eq_self t.repository.enums.nodup
  have hsize : u.repository.enums.size = t.repository.enums.size := congrArg List.length hentries
  refine ⟨?_, ?_, h'.resolver⟩
  · have := h'.size
    omega
  · rw [h'.repository, Keyed.eq_of_entries hentries]

end Run

open Run in
/-- Whatever is known and whatever the pages hold, as long as each location that was put off gives a
page or a fault of fetching and reading: each is fetched once, in order; the enumerations of the
pages join those known before, the first of each name, and the result counts the new ones. Nothing
else changes. Done again, it adds nothing and leaves everything as it is. -/
theorem enums_gathered (g : Guide) (s : Run)
    (h : ∀ location ∈ s.repository.discovered.inOrder, ∀ fault,
      g.fetcher.fetch location = .error fault → fault.isExpected = true) :
    ∃ added t, (collectEnums g).run s = (.ok added, t) ∧
      t.fetched = s.fetched ++ s.repository.discovered.inOrder ∧
      s.repository.discovered.inOrder.Nodup ∧
      t.repository.enums.entries = joinEnums s.repository.enums
        (s.repository.discovered.inOrder.flatMap g.enumsAt) ∧
      t.repository.enums.size = s.repository.enums.size + added ∧
      t.repository = { s.repository with enums := t.repository.enums } ∧
      t.resolver = s.resolver ∧
      ∃ u, (collectEnums g).run t = (.ok 0, u) ∧ u.repository = t.repository ∧
        u.resolver = t.resolver := by
  obtain ⟨added, t, hrun, hgathers⟩ := collectEnums_run s h
  have hdiscovered : t.repository.discovered = s.repository.discovered := by
    rw [hgathers.repository]
  obtain ⟨added', u, hagain, hgathers'⟩ := collectEnums_run (g := g) t (by rwa [hdiscovered])
  rw [hdiscovered] at hgathers'
  obtain ⟨rfl, hrepository, hresolver⟩ := hgathers.again hgathers'
  exact ⟨added, t, hrun, hgathers.fetched, s.repository.discovered.nodup, hgathers.enums, hgathers.size,
    hgathers.repository, hgathers.resolver, u, hagain, hrepository, hresolver⟩

namespace Sample

/-- Two namespaces that share an enumeration, the first with one twice; other pages are missing. -/
def spaces (location : Text) : Except PageFault ParsedPage :=
  if location = "N" then .ok ⟨"N", true, none,
    some ⟨"N", "N", [flag "E" ["x"], flag "F" ["y"], flag "E" ["x"]]⟩, none⟩
  else if location = "M" then .ok ⟨"M", true, none,
    some ⟨"M", "M", [flag "F" ["z"], flag "G" ["x"], flag "H" []]⟩, none⟩
  else .error (.unreachable location "gone")

def spacesGuide : Guide :=
  ⟨.empty, .default, spaces, fun link _ => .ok link, fun name _ => .ok name⟩

/-- Three locations wait, the second for a page that is missing; one enumeration is known. -/
def waiting : Run :=
  { Run.start 1 with
    repository := { Repository.empty with
      enums := Keyed.empty.set "G" (flag "G" ["y"])
      discovered := ((Names.none.add "N").add "O").add "M" } }

theorem spaces_expected {location : Text} {fault : PageFault}
    (h : spacesGuide.fetcher.fetch location = .error fault) : fault.isExpected = true := by
  change spaces location = _ at h
  unfold spaces at h
  split at h
  · cases h
  · split at h <;> cases h
    rfl

end Sample

open Run in
/-- What was known stays, also against the second page; the first page wins over the second. -/
theorem enums_gathered_sample :
    ∃ t, (collectEnums Sample.spacesGuide).run Sample.waiting = (.ok 3, t) ∧
      t.fetched = ["N".toList, "O".toList, "M".toList] ∧
      t.repository.enums.values =
        [Sample.flag "G" ["y"], Sample.flag "E" ["x"], Sample.flag "F" ["y"], Sample.flag "H" []] ∧
      ∃ u, (collectEnums Sample.spacesGuide).run t = (.ok 0, u) ∧ u.repository = t.repository := by
  obtain ⟨added, t, hrun, hfetched, -, henums, hsize, -, -, u, hagain, hsame, -⟩ :=
    enums_gathered Sample.spacesGuide Sample.waiting fun _ _ _ => Sample.spaces_expected
  have hjoined : joinEnums Sample.waiting.repository.enums
      (Sample.waiting.repository.discovered.inOrder.flatMap Sample.spacesGuide.enumsAt) =
      [Sample.flag "G" ["y"], Sample.flag "E" ["x"], Sample.flag "F" ["y"],
        Sample.flag "H" []].map EnumType.keyed := by decide
  rw [hjoined] at henums
  have hthree : added = 3 := by
    have hafter : t.repository.enums.size = 4 := congrArg List.length henums
    have hbefore : Sample.waiting.repository.enums.size = 1 := rfl
    omega
  subst hthree
  exact ⟨t, hrun, hfetched, congrArg (List.map Prod.snd) henums, u, hagain, hsame⟩

end TypeAtlas
