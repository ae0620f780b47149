import TypeAtlas.Mapping.Source
import TypeAtlas.Proofs.Location.Below
import TypeAtlas.Proofs.Mapping.Payload
import TypeAtlas.Proofs.Mapping.Uniqueness
import TypeAtlas.Proofs.Text.Utf8

/-!
How the loading of a configuration ends. A check stops without a verdict where it meets a pattern
with a repetition that is too large, and nowhere else; besides that only octets that are no text
bring about a fault that nobody expects.
-/

namespace TypeAtlas

/-! Checks that stop. -/

namespace Checked

variable {α β : Type}

/-- The check ends without a verdict. -/
def Stops (x : Checked α) : Prop := ∃ fault, x = stopped fault

@[simp] theorem not_stops_value (a : α) : ¬(value a).Stops := nofun

@[simp] theorem not_stops_issues (found : List Issue) : ¬(issues found : Checked α).Stops := nofun

@[simp] theorem not_stops_issue (cause : IssueCause) (v : Json) :
    ¬(issue cause v : Checked α).Stops := nofun

@[simp] theorem stops_stopped (fault : CheckFault) : (stopped fault : Checked α).Stops :=
  ⟨fault, rfl⟩

@[simp] theorem stops_ite (p : Prop) [Decidable p] (x y : Checked α) :
    (if p then x else y).Stops ↔ p ∧ x.Stops ∨ ¬p ∧ y.Stops := by
  split <;> simp [*]

@[simp] theorem stops_map (f : α → β) (x : Checked α) : (f <$> x).Stops ↔ x.Stops := by
  change (map f x).Stops ↔ x.Stops
  cases x <;> simp [map]

@[simp] theorem stops_seq (f : Checked (α → β)) (x : Checked α) :
    (f <*> x).Stops ↔ f.Stops ∨ x.Stops := by
  change (app f x).Stops ↔ f.Stops ∨ x.Stops
  cases f <;> cases x <;> simp [app]

@[simp] theorem stops_under (step : Text) (x : Checked α) : (x.under step).Stops ↔ x.Stops := by
  cases x <;> simp [under]

@[simp] theorem stops_andThen (x : Checked α) (f : α → Checked β) :
    (x.andThen f).Stops ↔ x.Stops ∨ ∃ a, x = value a ∧ (f a).Stops := by
  cases x <;> simp [andThen]

@[simp] theorem stops_all (f : α → Checked β) (as : List α) :
    (all f as).Stops ↔ ∃ a ∈ as, (f a).Stops := by
  induction as with
  | nil => simp [all]
  | cons a as ih =>
    have hhead : (map List.cons (f a)).Stops ↔ (f a).Stops := stops_map _ _
    rw [all, List.exists_mem_cons_iff, ← ih, ← hhead]
    exact stops_seq _ _

end Checked

namespace Schema

variable {α : Type} {check : Json → Checked α} {f : FieldName} {es : List (Text × Json)} {v : Json}

@[simp] theorem stops_required :
    (required f check es).Stops ↔ ∃ v, f.find? es = some v ∧ (check v).Stops := by
  unfold required
  cases f.find? es <;> simp

@[simp] theorem stops_optional {default : α} :
    (optional f default check es).Stops ↔ ∃ v, f.find? es = some v ∧ (check v).Stops := by
  unfold optional
  cases f.find? es <;> simp

@[simp] theorem not_stops_noExtras {fields : List FieldName} : ¬(noExtras fields es).Stops := by
  unfold noExtras
  dsimp only
  split <;> simp

@[simp] theorem stops_object {check : List (Text × Json) → Checked α} :
    (object check v).Stops ↔ ∃ es, v = .object es ∧ (check es).Stops := by
  cases v <;> simp [object]

@[simp] theorem not_stops_text : ¬(text v).Stops := by
  cases v <;> simp [text]

theorem someText_eq_value_iff {t : Text} : someText v = .value t ↔ v = .text t ∧ t ≠ [] := by
  constructor
  · intro h
    refine ⟨?_, someText_value h⟩
    cases v with
    | text found =>
      obtain ⟨a, ha, hsome⟩ := Checked.value_of_andThen h
      cases ha
      split at hsome
      · cases hsome
      · cases hsome
        rfl
    | _ => cases h
  · rintro ⟨rfl, hne⟩
    exact someText_text hne

@[simp] theorem not_stops_someText : ¬(someText v).Stops := by
  simp [someText]

@[simp] theorem not_stops_text? : ¬(text? v).Stops := by
  unfold text?
  split
  · simp
  · exact fun h => not_stops_text ((Checked.stops_map some _).mp h)

@[simp] theorem not_stops_integer : ¬(integer v).Stops := by
  have hwhole (x : Binary) (v : Json) : ¬(wholePart x v).Stops := by
    unfold wholePart
    cases x.toInt? <;> simp
  cases v with
  | real x => exact hwhole x _
  | text t =>
    rw [integer]
    cases integerIn t <;> simp
  | _ => simp [integer]

@[simp] theorem not_stops_boolean : ¬(boolean v).Stops := by
  have hint (n : Int) (v : Json) : ¬(booleanOfInt n v).Stops := by simp [booleanOfInt]
  cases v with
  | int n => exact hint n _
  | real x =>
    rw [boolean]
    cases x.toInt? <;> simp [hint]
  | _ => simp [boolean]

@[simp] theorem stops_list :
    (list check v).Stops ↔ ∃ items, v = .list items ∧ ∃ item ∈ items, (check item).Stops := by
  cases v with
  | list items =>
    have hitems : (∃ x ∈ items.zipIdx, (check x.1).Stops) ↔ ∃ item ∈ items, (check item).Stops := by
      constructor
      · rintro ⟨x, hx, hstops⟩
        exact ⟨x.1, List.fst_mem_of_mem_zipIdx hx, hstops⟩
      · rintro ⟨item, hitem, hstops⟩
        rw [← List.zipIdx_map_fst 0 items] at hitem
        obtain ⟨x, hx, rfl⟩ := List.mem_map.mp hitem
        exact ⟨x, hx, hstops⟩
    simp only [list, Checked.stops_all, Checked.stops_under, hitems, Json.list.injEq,
      exists_eq_left']
  | _ => simp [list]

@[simp] theorem stops_someList : (someList check v).Stops ↔
    ∃ items, v = .list items ∧ ∃ item ∈ items, (check item).Stops := by
  simp [someList]

end Schema

/-! The parts of a configuration. -/

/-- The pattern repeats a part more often than can be counted. -/
def Pattern.Overflows (t : Text) : Prop :=
  ∃ e, Pattern.ofText t = .error e ∧ e.fault = .repetitionTooLarge

namespace Schema

variable {α : Type} {v : Json}

theorem stops_patternIssue {title t pattern : Text} {e : PatternError} :
    (patternIssue title t pattern e v : Checked α).Stops ↔ e.fault = .repetitionTooLarge := by
  unfold patternIssue
  split
  · simp [*]
  · simp [*]
  · simp [*]
  · rename_i hfault _ _
    exact iff_of_false (Checked.not_stops_issue _ _) hfault

theorem stops_compiled {f : Text → Text} {title : Text}
    (hempty : ∃ p, Pattern.ofText (f []) = .ok p) :
    ((someText v).andThen fun t =>
      match Pattern.ofText (f t) with
      | .ok _ => .value t
      | .error e => patternIssue title t (f t) e v).Stops ↔
    ∃ t, v = .text t ∧ Pattern.Overflows (f t) := by
  have hstops (t : Text) : (match Pattern.ofText (f t) with
      | .ok _ => .value t
      | .error e => patternIssue title t (f t) e v : Checked Text).Stops ↔
        Pattern.Overflows (f t) := by
    unfold Pattern.Overflows
    cases Pattern.ofText (f t) <;> simp [stops_patternIssue]
  simp only [Checked.stops_andThen, not_stops_someText, false_or, someText_eq_value_iff, hstops,
    and_assoc]
  refine exists_congr fun t => and_congr_right fun _ => and_iff_right_of_imp ?_
  -- an empty text is refused before it is compiled, but what it stands for would compile
  rintro ⟨e, he, -⟩ rfl
  obtain ⟨p, hp⟩ := hempty
  rw [hp] at he
  cases he

end Schema

namespace Definition

@[simp] theorem not_stops_check (v : Json) : ¬(check v).Stops := by simp [check]

end Definition

namespace GenericRule

/-- A rule for generic types whose base cannot be read to its end. -/
def Overflows (v : Json) : Prop :=
  ∃ es t, v = .object es ∧ patternField.find? es = some (.text t) ∧ Pattern.Overflows (baseText t)

@[simp] theorem stops_check (v : Json) : (check v).Stops ↔ Overflows v := by
  have hpattern (v : Json) : (checkPattern v).Stops ↔
      ∃ t, v = .text t ∧ Pattern.Overflows (baseText t) := Schema.stops_compiled ⟨_, rfl⟩
  simp [check, hpattern, Overflows]

end GenericRule

namespace ScopeRule

@[simp] theorem not_stops_check (v : Json) : ¬(check v).Stops := by simp [check]

end ScopeRule

namespace CustomRule

/-- A rule with a pattern that cannot be read to its end. -/
def Overflows (v : Json) : Prop :=
  ∃ es t, v = .object es ∧ kindField.find? es = some (.text searchTag) ∧
    patternField.find? es = some (.text t) ∧ Pattern.Overflows t

theorem stops_checkSearch (es : List (Text × Json)) : (checkSearch es).Stops ↔
    ∃ t, patternField.find? es = some (.text t) ∧ Pattern.Overflows t := by
  have hpattern (v : Json) : (checkPattern v).Stops ↔ ∃ t, v = .text t ∧ Pattern.Overflows t :=
    Schema.stops_compiled (f := fun t => t) ⟨_, rfl⟩
  simp [checkSearch, hpattern]

theorem not_stops_checkEqual (es : List (Text × Json)) : ¬(checkEqual es).Stops := by
  simp [checkEqual]

@[simp] theorem stops_check (v : Json) : (check v).Stops ↔ Overflows v := by
  rw [check, Schema.stops_object, Overflows]
  refine exists_congr fun es => ?_
  cases kindField.find? es with
  | none => simp
  | some kind =>
    cases kind with
    | text tag =>
      simp [stops_checkSearch, not_stops_checkEqual]
    | _ => simp

end CustomRule

namespace MappingConfig

/-- Some rule of a configuration has a pattern that cannot be read to its end. -/
def Overflows (v : Json) : Prop :=
  ∃ es, v = .object es ∧
    ((∃ rules, genericField.find? es = some (.list rules) ∧
        ∃ rule ∈ rules, GenericRule.Overflows rule) ∨
      ∃ rules, customField.find? es = some (.list rules) ∧
        ∃ rule ∈ rules, CustomRule.Overflows rule)

theorem stops_checkParts (v : Json) : (checkParts v).Stops ↔ Overflows v := by
  simp [checkParts, Overflows]

/-- Two definitions that claim one name are an issue like any other. -/
theorem stops_check (v : Json) : (check v).Stops ↔ Overflows v := by
  rw [check, Checked.stops_andThen, stops_checkParts]
  refine or_iff_left ?_
  rintro ⟨c, -, hstops⟩
  split at hstops
  · exact Checked.not_stops_issue _ _ hstops
  · exact Checked.not_stops_value _ hstops

theorem apart_of_check {v : Json} {c : MappingConfig} (h : check v = .value c) :
    ¬NameShared c.definitions := by
  obtain ⟨parts, hparts, hclash⟩ := Checked.value_of_andThen h
  rw [← clash_eq_none_iff]
  split at hclash
  · cases hclash
  · cases hclash
    assumption

end MappingConfig

/-! Files. -/

theorem Path.normalize_normalize (path : Text) : normalize (normalize path) = normalize path := by
  rw [normalize, normalize, ofText_render (isRead_ofText path)]

namespace Shelf

/-- The file holds octets that are not those of any text. -/
def HoldsNoText (s : Shelf) (path : Text) : Prop :=
  ∃ octets, s.find? (Path.normalize path) = some (.octets octets) ∧ ∀ t, octets ≠ Text.octets t

/-- The file holds a configuration, whatever else may be wrong with it, with a pattern that cannot
be read to its end. -/
def HoldsOverflow (s : Shelf) (path : Text) : Prop :=
  ∃ t v, s.readText path = .ok t ∧ Json.readWithin MappingConfig.deepest t = .ok v ∧
    MappingConfig.Overflows v

theorem readText_normalize (s : Shelf) (path : Text) :
    s.readText (Path.normalize path) = s.readText path := by
  rw [readText, Path.normalize_normalize]
  rfl

theorem holdsNoText_iff {s : Shelf} {path : Text} :
    s.HoldsNoText path ↔ ∃ e, s.readText path = .error (.notText e) := by
  rw [HoldsNoText, readText]
  cases s.find? (Path.normalize path) with
  | none => simp
  | some stored =>
    cases stored with
    | octets bytes =>
      simp only [Option.some.injEq, Stored.octets.injEq, exists_eq_left', ne_eq,
        ← Text.ofUtf8_eq_ok_iff]
      cases Text.ofUtf8 bytes <;> simp
    | _ => simp

end Shelf

namespace MappingConfig

theorem load_eq (shelf : Shelf) (path : Text) : load shelf path =
    match shelf.readText path with
    | .error (.notText e) => .error (.notText e)
    | .error fault => .error (.unreadable (Path.normalize path) fault)
    | .ok t => (ofText t).mapError (.ofRejection (Path.normalize path)) := by
  rw [← shelf.readText_normalize path]
  rfl

/-- A text is refused unexpectedly just when it is JSON that stops the check. -/
theorem ofText_stopped_iff {t : Text} : (∃ fault, ofText t = .error (.stopped fault)) ↔
    ∃ v, Json.readWithin deepest t = .ok v ∧ Overflows v := by
  rw [ofText]
  cases Json.readWithin deepest t with
  | error e => simp
  | ok v =>
    simp only [Except.ok.injEq, exists_eq_left', ← stops_check, Checked.Stops]
    cases check v <;> simp [Checked.toExcept]

theorem valid_of_ofText {t : Text} {c : MappingConfig} (h : ofText t = .ok c) :
    c.IsValid ∧ ¬NameShared c.definitions := by
  rw [ofText] at h
  cases hread : Json.readWithin deepest t with
  | error e =>
    rw [hread] at h
    cases h
  | ok v =>
    rw [hread] at h
    have hcheck : check v = .value c := by
      cases hv : check v <;> simp_all [Checked.toExcept]
    exact ⟨valid_of_check hcheck, apart_of_check hcheck⟩

theorem unexpected_ofRejection {path : Text} {r : Rejection} :
    (ConfigFault.ofRejection path r).isExpected = false ↔ ∃ fault, r = .stopped fault := by
  cases r with
  | issues found => simp [ConfigFault.ofRejection, ConfigFault.isExpected]
  | stopped fault => exact iff_of_true rfl ⟨fault, rfl⟩

example : Pattern.Overflows "a\x7b4294967295\x7d" := ⟨_, rfl, rfl⟩

end MappingConfig

end TypeAtlas
