import TypeAtlas.Page.Enumeration
import TypeAtlas.Proofs.Occurrence
import TypeAtlas.Proofs.Outcome

/-!
Enumerations put together from the rows and the detailed entries of a page. What the entries say
about one enumeration comes down to one list of mentions; the values that result are told from it
at once, and the table that holds them follows the rows and the entries one by one.
-/

namespace TypeAtlas

open EnumTable (RowEnum Detail DetailRow)

variable {name : Text} {m : DetailRow} {mentions : List DetailRow}

/-- The last description that the mentions give for a name. -/
def lastDescription? (mentions : List DetailRow) (name : Text) : Option Text :=
  ((mentions.filter (·.name = name)).filterMap (·.description)).getLast?

theorem lastDescription?_concat :
    lastDescription? (mentions ++ [m]) name =
      if m.name = name then m.description <|> lastDescription? mentions name
      else lastDescription? mentions name := by
  rw [lastDescription?, List.filter_append, List.filterMap_append, List.getLast?_append]
  by_cases hname : m.name = name
  · have hfilter : [m].filter (·.name = name) = [m] := by simp [hname]
    rw [if_pos hname, hfilter, List.filterMap_cons]
    cases m.description <;> rfl
  · have hfilter : [m].filter (·.name = name) = [] := by simp [hname]
    rw [if_neg hname, hfilter]
    rfl

theorem lastDescription?_eq_none (h : name ∉ mentions.map (·.name)) :
    lastDescription? mentions name = none := by
  have hfilter : mentions.filter (·.name = name) = [] := by
    rw [List.filter_eq_nil_iff]
    intro m hm hname
    exact h (List.mem_map.mpr ⟨m, hm, of_decide_eq_true hname⟩)
  rw [lastDescription?, hfilter]
  rfl

namespace EnumValue

variable {v : EnumValue} {values : List EnumValue}

/-- A value as it is written: its name and its initialiser. -/
def written (v : EnumValue) : Text × Option Text := (v.name, v.value)

/-- A value with the last description that is given for it. If its name comes again behind it, it
is not the one that is meant. -/
def noted (mentions : List DetailRow) (rest : List EnumValue) (v : EnumValue) : EnumValue :=
  if rest.any (·.name = v.name) then v
  else { v with description := lastDescription? mentions v.name <|> v.description }

def annotated (mentions : List DetailRow) : List EnumValue → List EnumValue
  | [] => []
  | v :: rest => noted mentions rest v :: annotated mentions rest

/-- The names that are mentioned but not among the values, each once, as they first appear. -/
def newNames (values : List EnumValue) (mentions : List DetailRow) : List Text :=
  (firstsBy id (mentions.map (·.name))).filter fun name => !values.any (·.name = name)

/-- The values, and behind them those that only the mentions have. -/
def joined (values : List EnumValue) (mentions : List DetailRow) : List EnumValue :=
  values ++ (newNames values mentions).map (⟨·, none, none⟩)

def describeAll (mentions : List DetailRow) (values : List EnumValue) : List EnumValue :=
  mentions.foldl (fun values m => describe values m.name m.description) values

theorem any_name_iff : values.any (·.name = name) = true ↔ name ∈ values.map (·.name) := by
  rw [List.any_eq_true, List.mem_map]
  exact exists_congr fun v => and_congr_right fun _ => decide_eq_true_iff

theorem written_noted (mentions : List DetailRow) (rest : List EnumValue) (v : EnumValue) :
    (noted mentions rest v).written = v.written := by
  rw [noted]
  split <;> rfl

@[simp] theorem name_noted (mentions : List DetailRow) (rest : List EnumValue) (v : EnumValue) :
    (noted mentions rest v).name = v.name := congrArg Prod.fst (written_noted mentions rest v)

theorem noted_of_mem {rest : List EnumValue} (h : v.name ∈ rest.map (·.name)) :
    noted mentions rest v = v := if_pos (any_name_iff.mpr h)

theorem noted_of_not_mem {rest : List EnumValue} (h : v.name ∉ rest.map (·.name)) :
    noted mentions rest v =
      { v with description := lastDescription? mentions v.name <|> v.description } :=
  if_neg (mt any_name_iff.mp h)

theorem noted_concat_of_ne (h : m.name ≠ v.name) (rest : List EnumValue) :
    noted (mentions ++ [m]) rest v = noted mentions rest v := by
  rw [noted, noted, lastDescription?_concat, if_neg h]

theorem written_annotated (mentions : List DetailRow) (values : List EnumValue) :
    (annotated mentions values).map written = values.map written := by
  induction values with
  | nil => rfl
  | cons v rest ih => rw [annotated, List.map_cons, List.map_cons, ih, written_noted]

theorem map_name_eq_map_written (values : List EnumValue) :
    values.map (·.name) = (values.map written).map Prod.fst := by
  rw [List.map_map]
  rfl

theorem names_annotated (mentions : List DetailRow) (values : List EnumValue) :
    (annotated mentions values).map (·.name) = values.map (·.name) := by
  rw [map_name_eq_map_written, written_annotated, ← map_name_eq_map_written]

theorem annotated_nil (values : List EnumValue) : annotated [] values = values := by
  induction values with
  | nil => rfl
  | cons v rest ih =>
    rw [annotated, ih, noted]
    split <;> rfl

/-- A mention of another name changes nothing. -/
theorem annotated_concat_of_not_mem (h : m.name ∉ values.map (·.name)) :
    annotated (mentions ++ [m]) values = annotated mentions values := by
  induction values with
  | nil => rfl
  | cons v rest ih =>
    rw [List.map_cons, List.mem_cons, not_or] at h
    rw [annotated, annotated, ih h.2, noted_concat_of_ne h.1]

/-- One more mention of a value that is there sets the description of the last one so named. -/
theorem describeLast_annotated (h : m.name ∈ values.map (·.name)) :
    describeLast m.name m.description (annotated mentions values) =
      annotated (mentions ++ [m]) values := by
  induction values with
  | nil => cases h
  | cons v rest ih =>
    have hany : (annotated mentions rest).any (·.name = m.name) = true ↔
        m.name ∈ rest.map (·.name) := by
      rw [any_name_iff, names_annotated]
    rw [annotated, annotated, describeLast, name_noted]
    by_cases hrest : m.name ∈ rest.map (·.name)
    · -- the one that is meant is further behind, so the head stays as it is
      have hhead : noted (mentions ++ [m]) rest v = noted mentions rest v := by
        by_cases hv : v.name = m.name
        · rw [noted_of_mem (hv ▸ hrest), noted_of_mem (hv ▸ hrest)]
        · exact noted_concat_of_ne (Ne.symm hv) rest
      rw [hany.mpr hrest, hhead, ih hrest, if_neg (by simp)]
    · have hv : m.name = v.name := by
        rw [List.map_cons, List.mem_cons] at h
        exact h.resolve_right hrest
      rw [Bool.eq_false_iff.mpr (mt hany.mp hrest), annotated_concat_of_not_mem hrest,
        if_pos (by simp [hv]), noted_of_not_mem (hv ▸ hrest), noted_of_not_mem (hv ▸ hrest),
        lastDescription?_concat, if_pos hv]
      simp [Option.or_assoc]

/-- A mention of a new value adds it with its description. -/
theorem annotated_concat_concat (hvalues : m.name ∉ values.map (·.name))
    (hmentions : m.name ∉ mentions.map (·.name)) :
    annotated (mentions ++ [m]) (values ++ [⟨m.name, none, none⟩]) =
      annotated mentions values ++ [⟨m.name, none, m.description⟩] := by
  induction values with
  | nil =>
    simp [annotated, noted, lastDescription?_concat, lastDescription?_eq_none hmentions]
  | cons v rest ih =>
    rw [List.map_cons, List.mem_cons, not_or] at hvalues
    have hhead : noted mentions (rest ++ [⟨m.name, none, none⟩]) v = noted mentions rest v := by
      simp [noted, hvalues.1]
    rw [List.cons_append, annotated, annotated, List.cons_append, ih hvalues.2,
      noted_concat_of_ne hvalues.1, hhead]

theorem mem_newNames :
    name ∈ newNames values mentions ↔
      name ∈ mentions.map (·.name) ∧ name ∉ values.map (·.name) := by
  rw [newNames, List.mem_filter, mem_firstsBy_id, Bool.not_eq_true', Bool.eq_false_iff]
  exact and_congr_right fun _ => not_congr any_name_iff

theorem mem_names_joined :
    name ∈ (joined values mentions).map (·.name) ↔
      name ∈ values.map (·.name) ∨ name ∈ mentions.map (·.name) := by
  have hnew : ((newNames values mentions).map (⟨·, none, none⟩ : Text → EnumValue)).map (·.name) =
      newNames values mentions := by
    rw [List.map_map]
    exact List.map_id _
  rw [joined, List.map_append, List.mem_append, hnew, mem_newNames]
  tauto

theorem newNames_concat :
    newNames values (mentions ++ [m]) =
      if m.name ∈ (joined values mentions).map (·.name) then newNames values mentions
      else newNames values mentions ++ [m.name] := by
  rw [newNames, List.map_append, List.map_singleton, firstsBy_id_concat]
  simp only [mem_names_joined]
  by_cases hmentions : m.name ∈ mentions.map (·.name)
  · rw [if_pos hmentions, if_pos (.inr hmentions), newNames]
  · rw [if_neg hmentions, List.filter_append]
    by_cases hvalues : m.name ∈ values.map (·.name)
    · rw [if_pos (.inl hvalues), List.filter_cons_of_neg (by simpa using hvalues)]
      exact List.append_nil _
    · rw [if_neg (not_or.mpr ⟨hvalues, hmentions⟩),
        List.filter_cons_of_pos (by simpa using hvalues)]
      rfl

/-- All mentions together: nothing that was there changes but for its description, and what is new
comes behind it. -/
theorem describeAll_eq (mentions : List DetailRow) (values : List EnumValue) :
    describeAll mentions values = annotated mentions (joined values mentions) := by
  induction mentions using List.reverseRecOn with
  | nil =>
    rw [annotated_nil, joined]
    exact (List.append_nil values).symm
  | append_singleton mentions m ih =>
    have hany : (annotated mentions (joined values mentions)).any (·.name = m.name) = true ↔
        m.name ∈ (joined values mentions).map (·.name) := by
      rw [any_name_iff, names_annotated]
    rw [describeAll, List.foldl_append]
    change describe (describeAll mentions values) m.name m.description = _
    rw [ih, describe]
    by_cases hknown : m.name ∈ (joined values mentions).map (·.name)
    · have hjoined : joined values (mentions ++ [m]) = joined values mentions := by
        rw [joined, newNames_concat, if_pos hknown, joined]
      rw [if_pos (hany.mpr hknown), hjoined, describeLast_annotated hknown]
    · have hjoined : joined values (mentions ++ [m]) =
          joined values mentions ++ [⟨m.name, none, none⟩] := by
        rw [joined, newNames_concat, if_neg hknown, List.map_append, ← List.append_assoc]
        rfl
      have hmentions : m.name ∉ mentions.map (·.name) :=
        fun h => hknown (mem_names_joined.mpr (.inr h))
      rw [if_neg (mt hany.mp hknown), hjoined, annotated_concat_concat hknown hmentions]

theorem describe_ne_nil (values : List EnumValue) (name : Text) (description : Option Text) :
    describe values name description ≠ [] := by
  rw [describe]
  split
  · rename_i hany
    cases values with
    | nil => cases hany
    | cons v rest =>
      rw [describeLast]
      split <;> exact List.cons_ne_nil _ _
  · exact List.append_ne_nil_of_right_ne_nil _ (List.cons_ne_nil _ _)

theorem describeAll_ne_nil (h : mentions ≠ []) (values : List EnumValue) :
    describeAll mentions values ≠ [] := by
  rw [← List.dropLast_concat_getLast h, describeAll, List.foldl_append]
  exact describe_ne_nil _ _ _

end EnumValue

namespace EnumTable

variable {rows : List RowEnum} {details : List Detail} {d : Detail} {t u : EnumTable}
  {e : EnumType}

/-- What the entries say about the values of an enumeration, in their order. -/
def mentionsOf (details : List Detail) (name : Text) : List DetailRow :=
  (details.filter (·.name = name)).flatMap (·.rows)

/-- The values in the first row with a name. -/
def firstValues (rows : List RowEnum) (name : Text) : List EnumValue :=
  ((rows.find? (·.name = name)).map (·.values)).getD []

/-- The names that rows and entries give values for, in the order in which they are told. -/
def toldNames (rows : List RowEnum) (details : List Detail) : List Text :=
  rows.map (·.name) ++ (details.filter (!·.rows.isEmpty)).map (·.name)

theorem mentionsOf_concat (details : List Detail) (d : Detail) (name : Text) :
    mentionsOf (details ++ [d]) name =
      mentionsOf details name ++ if d.name = name then d.rows else [] := by
  rw [mentionsOf, List.filter_append, List.flatMap_append]
  by_cases hname : d.name = name <;> simp [mentionsOf, hname]

theorem find?_eq_none_iff_name :
    rows.find? (·.name = name) = none ↔ name ∉ rows.map (·.name) := by
  rw [List.find?_eq_none, List.mem_map, not_exists]
  exact forall_congr' fun row => by rw [decide_eq_true_iff, not_and]

theorem firstValues_eq_nil (h : name ∉ rows.map (·.name)) : firstValues rows name = [] := by
  rw [firstValues, find?_eq_none_iff_name.mpr h]
  rfl

theorem mentionsOf_eq_nil (h : name ∉ toldNames rows details) : mentionsOf details name = [] := by
  rw [mentionsOf, List.flatMap_eq_nil_iff]
  intro d hd
  obtain ⟨hmem, hname⟩ := List.mem_filter.mp hd
  by_contra hrows
  refine h (List.mem_append_right _ (List.mem_map.mpr ⟨d, ?_, of_decide_eq_true hname⟩))
  exact List.mem_filter.mpr ⟨hmem, by simpa using hrows⟩

theorem firstValues_concat (rows : List RowEnum) (row : RowEnum) (name : Text)
    (h : name ∈ rows.map (·.name) ∨ row.name ≠ name) :
    firstValues (rows ++ [row]) name = firstValues rows name := by
  rw [firstValues, List.find?_append, firstValues]
  cases hfind : rows.find? (·.name = name) with
  | some first => rfl
  | none =>
    have hrow : row.name ≠ name := h.resolve_left (find?_eq_none_iff_name.mp hfind)
    simp [hrow]

/-- The table holds what rows and entries tell: each name where it was first told, with the values
of its first row as all mentions leave them. -/
structure Tells (rows : List RowEnum) (details : List Detail) (t : EnumTable) : Prop where
  keys : t.keys = firstsBy id (toldNames rows details)
  name : ∀ {key e}, t.get? key = some e → e.name = key
  values : ∀ {key e}, t.get? key = some e →
    e.values = EnumValue.describeAll (mentionsOf details key) (firstValues rows key)
  filled : ∀ {key e}, t.get? key = some e → e.values ≠ []

theorem tells_empty : Tells [] [] .empty where
  keys := rfl
  name h := nomatch h
  values h := nomatch h
  filled h := nomatch h

namespace Tells

theorem mem_keys (h : Tells rows details t) : name ∈ t.keys ↔ name ∈ toldNames rows details := by
  rw [h.keys, mem_firstsBy_id]

/-- The keys after a new telling, wherever it comes from. -/
theorem keys_concat (h : Tells rows details t) (name : Text) :
    firstsBy id (toldNames rows details ++ [name]) =
      if name ∈ t.keys then t.keys else t.keys ++ [name] := by
  rw [firstsBy_id_concat, ← h.keys]
  by_cases hmem : name ∈ t.keys
  · rw [if_pos hmem, if_pos (h.mem_keys.mp hmem)]
  · rw [if_neg hmem, if_neg (mt h.mem_keys.mpr hmem)]

/-- A row for a name that is there changes nothing. -/
theorem repeatRow (h : Tells rows [] t) {row : RowEnum} (hknown : row.name ∈ t.keys) :
    Tells (rows ++ [row]) [] t where
  keys := by
    have hkeys := h.keys_concat row.name
    rw [if_pos hknown, toldNames, List.filter_nil, List.map_nil, List.append_nil] at hkeys
    rw [toldNames, List.filter_nil, List.map_nil, List.append_nil, List.map_append]
    exact hkeys.symm
  name := h.name
  values {key e} hget := by
    have htold : key ∈ rows.map (·.name) ∨ row.name ≠ key := by
      have hmem := h.mem_keys.mp (Keyed.mem_keys_iff.mpr ⟨e, hget⟩)
      rw [toldNames, List.filter_nil, List.map_nil, List.append_nil] at hmem
      exact .inl hmem
    rw [firstValues_concat _ _ _ htold]
    exact h.values hget
  filled := h.filled

/-- A row for a new name gives the values of its enumeration. -/
theorem newRow (h : Tells rows [] t) {row : RowEnum} (hnew : row.name ∉ t.keys)
    (hvalues : row.values ≠ []) (description : Option Text) :
    Tells (rows ++ [row]) [] (addRow t ⟨row.name, row.values, description⟩) := by
  have htold : toldNames rows [] = rows.map (·.name) := List.append_nil _
  have hfirst : firstValues (rows ++ [row]) row.name = row.values := by
    have hfind : rows.find? (·.name = row.name) = none :=
      find?_eq_none_iff_name.mpr fun hmem => hnew (h.mem_keys.mpr (htold ▸ hmem))
    rw [firstValues, List.find?_append, hfind]
    simp
  have hget {key : Text} {e : EnumType}
      (hkey : (addRow t ⟨row.name, row.values, description⟩).get? key = some e) :
      t.get? key = some e ∧ row.name ≠ key ∨
        row.name = key ∧ e = ⟨row.name, row.values, description⟩ := by
    rw [addRow, Keyed.setNew_of_not_mem hnew, Keyed.get?_set] at hkey
    split at hkey
    · exact .inr ⟨Eq.symm ‹_›, (Option.some.inj hkey).symm⟩
    · exact .inl ⟨hkey, Ne.symm ‹_›⟩
  refine ⟨?_, fun hkey => ?_, fun hkey => ?_, fun hkey => ?_⟩
  · have hkeys := h.keys_concat row.name
    rw [if_neg hnew, htold] at hkeys
    rw [addRow, Keyed.setNew_of_not_mem hnew, Keyed.keys_set_of_not_mem hnew, ← hkeys]
    simp [toldNames]
  · obtain ⟨hold, -⟩ | ⟨rfl, rfl⟩ := hget hkey
    · exact h.name hold
    · rfl
  · obtain ⟨hold, hne⟩ | ⟨rfl, rfl⟩ := hget hkey
    · rw [firstValues_concat _ _ _ (.inr hne)]
      exact h.values hold
    · rw [hfirst]
      rfl
  · obtain ⟨hold, -⟩ | ⟨rfl, rfl⟩ := hget hkey
    · exact h.filled hold
    · exact hvalues

/-- What a detailed entry finds under its name, before it adds to it. -/
theorem found (h : Tells rows details t) (name : Text) :
    ((t.get? name).getD ⟨name, [], none⟩).name = name ∧
      ((t.get? name).getD ⟨name, [], none⟩).values =
        EnumValue.describeAll (mentionsOf details name) (firstValues rows name) := by
  cases hget : t.get? name with
  | some e => exact ⟨h.name hget, h.values hget⟩
  | none =>
    have hnew : name ∉ toldNames rows details :=
      fun hmem => Keyed.get?_eq_none_iff.mp hget (h.mem_keys.mpr hmem)
    refine ⟨rfl, ?_⟩
    rw [mentionsOf_eq_nil hnew, firstValues_eq_nil fun hmem => hnew (List.mem_append_left _ hmem)]
    rfl

/-- An entry without rows changes nothing. -/
theorem addDetail_of_nil (h : Tells rows details t) (hrows : d.rows = []) : addDetail t d = t := by
  have hdescribed (e : EnumType) : described e d = e := by rw [described, hrows]; rfl
  rw [addDetail, hdescribed]
  cases hget : t.get? d.name with
  | none => rfl
  | some e =>
    rw [Option.getD_some, if_neg (by simpa using h.filled hget), Keyed.set_of_get? hget]

theorem addDetail (h : Tells rows details t) (d : Detail) :
    Tells rows (details ++ [d]) (addDetail t d) := by
  by_cases hrows : d.rows = []
  · have htold : toldNames rows (details ++ [d]) = toldNames rows details := by
      simp [toldNames, hrows]
    have hmentions (key : Text) : mentionsOf (details ++ [d]) key = mentionsOf details key := by
      rw [mentionsOf_concat, hrows, ite_self, List.append_nil]
    rw [h.addDetail_of_nil hrows]
    exact ⟨htold ▸ h.keys, h.name, fun hget => hmentions _ ▸ h.values hget, h.filled⟩
  obtain ⟨hname, hvalues⟩ := h.found d.name
  let e := described ((t.get? d.name).getD ⟨d.name, [], none⟩) d
  have hdescribed : e.values =
      EnumValue.describeAll (mentionsOf (details ++ [d]) d.name) (firstValues rows d.name) := by
    rw [mentionsOf_concat, if_pos rfl, EnumValue.describeAll, List.foldl_append]
    exact congrArg (EnumValue.describeAll d.rows) hvalues
  have hfilled : e.values ≠ [] := EnumValue.describeAll_ne_nil hrows _
  have hset : EnumTable.addDetail t d = t.set d.name e := if_neg (by simpa using hfilled)
  have htold : toldNames rows (details ++ [d]) = toldNames rows details ++ [d.name] := by
    simp [toldNames, hrows]
  rw [hset]
  refine ⟨?_, fun {key x} hkey => ?_, fun {key x} hkey => ?_, fun {key x} hkey => ?_⟩
  · rw [htold, h.keys_concat]
    split
    · exact Keyed.keys_set_of_mem ‹_›
    · exact Keyed.keys_set_of_not_mem ‹_›
  all_goals rw [Keyed.get?_set] at hkey
  · split at hkey
    · cases hkey
      exact hname.trans (Eq.symm ‹_›)
    · exact h.name hkey
  · split at hkey
    · rename_i heq
      cases hkey
      rw [heq, hdescribed]
    · rename_i hne
      rw [mentionsOf_concat, if_neg (Ne.symm hne), List.append_nil]
      exact h.values hkey
  · split at hkey
    · cases hkey
      exact hfilled
    · exact h.filled hkey

theorem addDetails (h : Tells rows [] t) (details : List Detail) :
    Tells rows details (details.foldl EnumTable.addDetail t) := by
  induction details using List.reverseRecOn with
  | nil => exact h
  | append_singleton details d ih =>
    rw [List.foldl_append]
    exact ih.addDetail d

theorem names_values (h : Tells rows details t) :
    t.values.map (·.name) = firstsBy id (toldNames rows details) := by
  rw [← h.keys, Keyed.values, Keyed.keys, List.map_map]
  exact List.map_congr_left fun entry hentry => h.name (Keyed.get?_eq_some_iff.mpr hentry)

/-- The values of an enumeration, told at once. -/
theorem values_eq (h : Tells rows details t) (he : e ∈ t.values) :
    e.values ≠ [] ∧ e.values = EnumValue.annotated (mentionsOf details e.name)
      (EnumValue.joined (firstValues rows e.name) (mentionsOf details e.name)) := by
  obtain ⟨⟨key, e⟩, hentry, rfl⟩ := List.mem_map.mp he
  have hget := Keyed.get?_eq_some_iff.mpr hentry
  cases h.name hget
  exact ⟨h.filled hget, (h.values hget).trans (EnumValue.describeAll_eq _ _)⟩

end Tells

theorem values_rowEnum? {left right : Text} {row : RowEnum}
    (h : rowEnum? left right = some row) : row.values ≠ [] := by
  rw [rowEnum?] at h
  split at h
  · split at h
    · simp only [Option.ite_none_left_eq_some] at h
      obtain ⟨hvalues, ⟨⟩⟩ := h
      simpa using hvalues
    · cases h
  · cases h

end EnumTable

namespace Page

open EnumTable (Tells rowEnum? toldNames mentionsOf)
open EnumValue (written annotated joined newNames)
open Markup (Spot)

/-- The enumerations that member rows give values for, row by row. -/
def rowEnums (rows : List Spot) : List RowEnum :=
  rows.filterMap fun row => rowEnum? (left row) (right row)

theorem tells_addEnumRow {rows : List Spot} {row : Spot} {t u : EnumTable}
    (h : Tells (rowEnums rows) [] t) (hrow : addEnumRow t row = .ok u) :
    Tells (rowEnums (rows ++ [row])) [] u := by
  rw [rowEnums, List.filterMap_append]
  rw [addEnumRow] at hrow
  cases hread : rowEnum? (left row) (right row) with
  | none =>
    rw [hread] at hrow
    cases hrow
    have hsingle : [row].filterMap (fun row => rowEnum? (left row) (right row)) = [] := by
      simp [hread]
    rwa [hsingle, List.append_nil]
  | some e =>
    have hsingle : [row].filterMap (fun row => rowEnum? (left row) (right row)) = [e] := by
      simp [hread]
    simp only [hread] at hrow
    rw [hsingle]
    by_cases hknown : e.name ∈ t.keys
    · rw [if_pos (Keyed.contains_iff.mpr hknown)] at hrow
      cases hrow
      exact h.repeatRow hknown
    · rw [if_neg fun hc => hknown (Keyed.contains_iff.mp hc)] at hrow
      obtain ⟨description, -, hadded⟩ := ok_of_bind hrow
      cases hadded
      exact h.newRow hknown (EnumTable.values_rowEnum? hread) description

theorem tells_addEnumRows {rows : List Spot} {t : EnumTable}
    (h : rows.foldlM addEnumRow .empty = .ok t) : Tells (rowEnums rows) [] t := by
  induction rows using List.reverseRecOn generalizing t with
  | nil =>
    cases h
    exact EnumTable.tells_empty
  | append_singleton rows row ih =>
    rw [List.foldlM_append] at h
    obtain ⟨s, hrows, hrow⟩ := ok_of_bind h
    rw [List.foldlM_cons] at hrow
    obtain ⟨u, hstep, hu⟩ := ok_of_bind hrow
    cases hu
    exact tells_addEnumRow (ih hrows) hstep

theorem tells_enums {p : Page} {es : List EnumType} (h : p.enums = .ok es) :
    ∃ t, Tells (rowEnums p.enumRows) p.enumDetails t ∧ es = t.values := by
  obtain ⟨t, hrows, hes⟩ := ok_of_bind h
  cases hes
  exact ⟨_, (tells_addEnumRows hrows).addDetails p.enumDetails, rfl⟩

/-- The enumerations of a page are those that its rows and entries give values for, each once. The
first row with a name settles what values are written, and entries add to them only names that are
new, each once and in the order of their first mention; besides that they describe. Without a row
the mentions alone give the values. -/
theorem enums_merged {p : Page} {es : List EnumType} (h : p.enums = .ok es) :
    (es.map (·.name)).Nodup ∧
      es.map (·.name) = firstsBy id (toldNames (rowEnums p.enumRows) p.enumDetails) ∧
      ∀ e ∈ es, e.values ≠ [] ∧
        (∀ row, (rowEnums p.enumRows).find? (·.name = e.name) = some row →
          e.values.map written = row.values.map written ++
              (newNames row.values (mentionsOf p.enumDetails e.name)).map (·, none) ∧
            e.values = annotated (mentionsOf p.enumDetails e.name)
              (joined row.values (mentionsOf p.enumDetails e.name))) ∧
        (e.name ∉ (rowEnums p.enumRows).map (·.name) →
          (e.values.map (·.name)).Nodup ∧
            e.values.map (·.name) =
              firstsBy id ((mentionsOf p.enumDetails e.name).map (·.name))) := by
  obtain ⟨t, ht, rfl⟩ := tells_enums h
  refine ⟨?_, ht.names_values, fun e he => ?_⟩
  · rw [ht.names_values]
    exact nodup_firstsBy_id _
  obtain ⟨hfilled, hvalues⟩ := ht.values_eq he
  refine ⟨hfilled, fun row hrow => ?_, fun hrow => ?_⟩
  · rw [EnumTable.firstValues, hrow, Option.map_some, Option.getD_some] at hvalues
    refine ⟨?_, hvalues⟩
    rw [hvalues, EnumValue.written_annotated, joined, List.map_append, List.map_map]
    rfl
  · have hnames : e.values.map (·.name) =
        firstsBy id ((mentionsOf p.enumDetails e.name).map (·.name)) := by
      rw [hvalues, EnumTable.firstValues_eq_nil hrow, EnumValue.names_annotated, joined,
        List.nil_append, List.map_map, newNames]
      simp [Function.comp_def]
    refine ⟨?_, hnames⟩
    rw [hnames]
    exact nodup_firstsBy_id _

namespace Sample

/-- A row with a name twice; an entry that describes and adds, and one for an enumeration without a
row. -/
def modes : Text :=
  ([ "<table class=memberdecls>", "<tr class=memitem:a>", "<td class=memItemLeft>", "enum",
    "<td class=memItemRight>", "Mode \x7b On = 1, Off, On \x7d", "</table>",
    "<div class=memitem>", "<table>", "<tr>", "<td class=memname>", "enum Mode", "</table>",
    "<table class=fieldtable>", "<tr>", "<td class=fieldname>", "On", "<td class=fielddoc>", "runs",
    "<tr>", "<td class=fieldname>", "Auto", "<tr>", "<td class=fieldname>", "Auto", "</table>",
    "</div>",
    "<div class=memitem>", "<table>", "<tr>", "<td class=memname>", "enum Kind", "</table>",
    "<table class=fieldtable>", "<tr>", "<td class=fieldname>", "A", "<tr>",
    "<td class=fieldname>", "A"] : List Text).flatten

def merged : List EnumType := [
  ⟨"Mode", [⟨"On", some "1", none⟩, ⟨"Off", none, none⟩, ⟨"On", none, some "runs"⟩,
    ⟨"Auto", none, none⟩], none⟩,
  ⟨"Kind", [⟨"A", none, none⟩], none⟩]

end Sample

theorem enums_merged_sample :
    ∃ p, ofText Sample.modes "modes" = .ok p ∧ p.enums = .ok Sample.merged ∧
      (Sample.merged.map (·.name)).Nodup ∧
      Sample.merged.map (·.name) =
        firstsBy id (toldNames (rowEnums p.enumRows) p.enumDetails) := by
  have hrun : (ofText Sample.modes "modes").toOption.bind (·.enums.toOption) =
      some Sample.merged := by
    decide +kernel
  obtain ⟨p, hp, henums⟩ := Option.bind_eq_some_iff.mp hrun
  have hmerged := enums_merged (ok_of_toOption henums)
  exact ⟨p, ok_of_toOption hp, ok_of_toOption henums, hmerged.1, hmerged.2.1⟩

end Page

end TypeAtlas
