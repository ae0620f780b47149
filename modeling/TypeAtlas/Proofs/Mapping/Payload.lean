import TypeAtlas.Proofs.Mapping.Ownership

/-!
Configurations written out and read back. Whatever a check lets through has certain texts that are
not empty and patterns that compile, and what has these passes the check again when it is written
out: a configuration is read back as it was written, unless two definitions claim one name.
-/

namespace TypeAtlas

/-! Checks that end with a value. -/

namespace Checked

variable {α β : Type}

theorem value_of_map {f : α → β} {x : Checked α} {b : β} (h : f <$> x = value b) :
    ∃ a, x = value a ∧ f a = b := by
  cases x with
  | value a =>
    cases h
    exact ⟨a, rfl, rfl⟩
  | issues found => cases h
  | stopped fault => cases h

theorem value_of_seq {f : Checked (α → β)} {x : Checked α} {b : β} (h : f <*> x = value b) :
    ∃ g a, f = value g ∧ x = value a ∧ g a = b := by
  change app f x = value b at h
  cases f <;> cases x <;> cases h
  exact ⟨_, _, rfl, rfl, rfl⟩

theorem value_of_andThen {x : Checked α} {f : α → Checked β} {b : β}
    (h : x.andThen f = value b) : ∃ a, x = value a ∧ f a = value b := by
  cases x with
  | value a => exact ⟨a, rfl, h⟩
  | issues found => cases h
  | stopped fault => cases h

theorem value_of_under {step : Text} {x : Checked α} {a : α} (h : x.under step = value a) :
    x = value a := by
  cases x with
  | value b => exact h
  | issues found => cases h
  | stopped fault => cases h

theorem mem_of_all {f : α → Checked β} {xs : List α} {bs : List β} (h : all f xs = value bs) :
    ∀ b ∈ bs, ∃ a ∈ xs, f a = value b := by
  induction xs generalizing bs with
  | nil =>
    cases h
    nofun
  | cons x xs ih =>
    obtain ⟨g, rest, hfirst, hrest, rfl⟩ := value_of_seq h
    obtain ⟨b, hb, rfl⟩ := value_of_map hfirst
    refine List.forall_mem_cons.mpr ⟨⟨x, List.mem_cons_self, hb⟩, ?_⟩
    intro c hc
    obtain ⟨a, ha, hac⟩ := ih hrest c hc
    exact ⟨a, List.mem_cons_of_mem x ha, hac⟩

end Checked

namespace Schema

variable {α : Type} {check : Json → Checked α} {f : FieldName} {es : List (Text × Json)} {v : Json}

theorem object_value {check : List (Text × Json) → Checked α} {a : α}
    (h : object check v = .value a) : ∃ es, check es = .value a := by
  cases v with
  | object es => exact ⟨es, h⟩
  | _ => cases h

theorem required_value {a : α} (h : required f check es = .value a) : ∃ v, check v = .value a := by
  unfold required at h
  split at h
  · exact ⟨_, Checked.value_of_under h⟩
  · cases h

theorem optional_value {a default : α} (h : optional f default check es = .value a) :
    a = default ∨ ∃ v, check v = .value a := by
  unfold optional at h
  split at h
  · exact .inr ⟨_, Checked.value_of_under h⟩
  · cases h
    exact .inl rfl

theorem list_value {as : List α} (h : list check v = .value as) :
    ∀ a ∈ as, ∃ v, check v = .value a := by
  cases v with
  | list items =>
    intro a ha
    obtain ⟨item, -, hitem⟩ := Checked.mem_of_all h a ha
    exact ⟨item.1, Checked.value_of_under hitem⟩
  | _ => cases h

theorem someList_value {as : List α} (h : someList check v = .value as) :
    as ≠ [] ∧ ∀ a ∈ as, ∃ v, check v = .value a := by
  obtain ⟨found, hlist, hsome⟩ := Checked.value_of_andThen h
  split at hsome
  · cases hsome
  · rename_i hne
    cases hsome
    exact ⟨by simpa using hne, list_value hlist⟩

theorem optionalList_value {as : List α} (h : optional f [] (list check) es = .value as) :
    ∀ a ∈ as, ∃ v, check v = .value a := by
  rcases optional_value h with rfl | ⟨v, hlist⟩
  · nofun
  · exact list_value hlist

theorem someText_value {t : Text} (h : someText v = .value t) : t ≠ [] := by
  obtain ⟨found, -, hsome⟩ := Checked.value_of_andThen h
  split at hsome
  · cases hsome
  · rename_i hne
    cases hsome
    simpa using hne

/-- A text is let through if what it stands for is a pattern. -/
theorem compiled_value {f : Text → Text} {title t : Text}
    (h : ((someText v).andThen fun t =>
      match Pattern.ofText (f t) with
      | .ok _ => .value t
      | .error e => patternIssue title t (f t) e v) = .value t) :
    t ≠ [] ∧ ∃ p, Pattern.ofText (f t) = .ok p := by
  obtain ⟨found, hsome, hcompiles⟩ := Checked.value_of_andThen h
  split at hcompiles
  · rename_i p hp
    cases hcompiles
    exact ⟨someText_value hsome, p, hp⟩
  · unfold patternIssue at hcompiles
    split at hcompiles <;> cases hcompiles

/-! Values that are written as they are read. -/

theorem required_of_find {a : α} (hfind : f.find? es = some v) (h : check v = .value a) :
    required f check es = .value a := by
  rw [required, hfind]
  simp only [h]
  rfl

theorem optional_of_find {a default : α} (hfind : f.find? es = some v) (h : check v = .value a) :
    optional f default check es = .value a := by
  rw [optional, hfind]
  simp only [h]
  rfl

theorem someText_text {t : Text} (h : t ≠ []) : someText (.text t) = .value t := by
  cases t with
  | nil => exact absurd rfl h
  | cons c t => rfl

theorem list_map {write : α → Json} {as : List α} (h : ∀ a ∈ as, check (write a) = .value a) :
    list check (.list (as.map write)) = .value as := by
  have hfrom (n : Nat) : Checked.all (fun (x : Json × Nat) => (check x.1).under (Text.ofNat x.2))
      ((as.map write).zipIdx n) = .value as := by
    induction as generalizing n with
    | nil => rfl
    | cons a as ih =>
      have hrest := ih (fun b hb => h b (List.mem_cons_of_mem a hb)) (n + 1)
      rw [List.map_cons, List.zipIdx_cons, Checked.all, h a List.mem_cons_self, hrest]
      rfl
  exact hfrom 0

theorem someList_map {write : α → Json} {as : List α} (hne : as ≠ [])
    (h : ∀ a ∈ as, check (write a) = .value a) :
    someList check (.list (as.map write)) = .value as := by
  rw [someList, list_map h]
  cases as with
  | nil => exact absurd rfl hne
  | cons a as => rfl

end Schema

/-! The parts of a configuration. -/

namespace Definition

theorem valid_of_check {v : Json} {d : Definition} (h : check v = .value d) : d.IsValid := by
  obtain ⟨es, h₅⟩ := Schema.object_value h
  obtain ⟨_, _, h₄, -, rfl⟩ := Checked.value_of_seq h₅
  obtain ⟨_, aliases, h₃, -, rfl⟩ := Checked.value_of_seq h₄
  obtain ⟨_, description, h₂, -, rfl⟩ := Checked.value_of_seq h₃
  obtain ⟨_, category, h₁, hcategory, rfl⟩ := Checked.value_of_seq h₂
  obtain ⟨_, target, h₀, htarget, rfl⟩ := Checked.value_of_seq h₁
  obtain ⟨name, hname, rfl⟩ := Checked.value_of_map h₀
  obtain ⟨_, hname⟩ := Schema.required_value hname
  obtain ⟨_, htarget⟩ := Schema.required_value htarget
  obtain ⟨_, hcategory⟩ := Schema.required_value hcategory
  exact ⟨Schema.someText_value hname, Schema.someText_value htarget,
    Schema.someText_value hcategory⟩

theorem check_toJson {d : Definition} (h : d.IsValid) : check d.toJson = .value d := by
  obtain ⟨name, target, category, description, aliases⟩ := d
  obtain ⟨hname, htarget, hcategory⟩ := h
  have haliases : Schema.list Schema.text (.texts aliases) = .value aliases :=
    Schema.list_map fun _ _ => rfl
  cases description <;>
  · unfold check toJson
    simp only [Schema.object]
    rw [Schema.required_of_find rfl (Schema.someText_text hname),
      Schema.required_of_find rfl (Schema.someText_text htarget),
      Schema.required_of_find rfl (Schema.someText_text hcategory),
      Schema.optional_of_find rfl haliases]
    rfl

end Definition

namespace GenericRule

/-- What a rule read from a configuration satisfies: its pattern names a type by one that compiles. -/
def IsValid (r : GenericRule) : Prop := r.pattern ≠ [] ∧ ∃ p, r.base? = .ok p

theorem checkPattern_value {v : Json} {t : Text} (h : checkPattern v = .value t) :
    t ≠ [] ∧ ∃ p, Pattern.ofText (baseText t) = .ok p := Schema.compiled_value h

theorem valid_of_check {v : Json} {r : GenericRule} (h : check v = .value r) : r.IsValid := by
  obtain ⟨es, h₃⟩ := Schema.object_value h
  obtain ⟨_, _, h₂, -, rfl⟩ := Checked.value_of_seq h₃
  obtain ⟨_, description, h₁, -, rfl⟩ := Checked.value_of_seq h₂
  obtain ⟨_, replacement, h₀, -, rfl⟩ := Checked.value_of_seq h₁
  obtain ⟨pattern, hpattern, rfl⟩ := Checked.value_of_map h₀
  obtain ⟨_, hpattern⟩ := Schema.required_value hpattern
  exact checkPattern_value hpattern

theorem check_toJson {r : GenericRule} (h : r.IsValid) : check r.toJson = .value r := by
  obtain ⟨pattern, replacement, description⟩ := r
  obtain ⟨hne, p, hp⟩ := h
  have hpattern : checkPattern (.text pattern) = .value pattern := by
    change Pattern.ofText (baseText pattern) = .ok p at hp
    rw [checkPattern, Schema.someText_text hne, Checked.andThen, hp]
  cases description <;>
  · unfold check toJson
    simp only [Schema.object]
    rw [Schema.required_of_find rfl hpattern]
    rfl

end GenericRule

namespace ScopeRule

theorem source_of_check {v : Json} {r : ScopeRule} (h : check v = .value r) : r.source ≠ [] := by
  obtain ⟨es, h₃⟩ := Schema.object_value h
  obtain ⟨_, _, h₂, -, rfl⟩ := Checked.value_of_seq h₃
  obtain ⟨_, isStripped, h₁, -, rfl⟩ := Checked.value_of_seq h₂
  obtain ⟨_, target, h₀, -, rfl⟩ := Checked.value_of_seq h₁
  obtain ⟨source, hsource, rfl⟩ := Checked.value_of_map h₀
  obtain ⟨_, hsource⟩ := Schema.required_value hsource
  exact Schema.someText_value hsource

theorem check_toJson {r : ScopeRule} (h : r.source ≠ []) : check r.toJson = .value r := by
  unfold check toJson
  simp only [Schema.object]
  rw [Schema.required_of_find rfl (Schema.someText_text h)]
  rfl

end ScopeRule

namespace CustomRule

/-- What a rule read from a configuration satisfies: it has a name, and what it looks for is not
empty and compiles where it is a pattern. -/
def IsValid (r : CustomRule) : Prop :=
  r.name ≠ [] ∧ match r.action with
    | .search pattern _ => pattern ≠ [] ∧ ∃ p, Pattern.ofText pattern = .ok p
    | .equal text _ => text ≠ []

theorem checkPattern_value {v : Json} {t : Text} (h : checkPattern v = .value t) :
    t ≠ [] ∧ ∃ p, Pattern.ofText t = .ok p :=
  Schema.compiled_value (f := fun t => t) h

theorem valid_of_checkSearch {es : List (Text × Json)} {r : CustomRule}
    (h : checkSearch es = .value r) : r.IsValid := by
  obtain ⟨_, _, h₄, -, rfl⟩ := Checked.value_of_seq h
  obtain ⟨_, description, h₃, -, rfl⟩ := Checked.value_of_seq h₄
  obtain ⟨_, template, h₂, -, rfl⟩ := Checked.value_of_seq h₃
  obtain ⟨_, pattern, h₁, hpattern, rfl⟩ := Checked.value_of_seq h₂
  obtain ⟨_, priority, h₀, -, rfl⟩ := Checked.value_of_seq h₁
  obtain ⟨name, hname, rfl⟩ := Checked.value_of_map h₀
  obtain ⟨_, hname⟩ := Schema.required_value hname
  obtain ⟨_, hpattern⟩ := Schema.required_value hpattern
  exact ⟨Schema.someText_value hname, checkPattern_value hpattern⟩

theorem valid_of_checkEqual {es : List (Text × Json)} {r : CustomRule}
    (h : checkEqual es = .value r) : r.IsValid := by
  obtain ⟨_, _, h₄, -, rfl⟩ := Checked.value_of_seq h
  obtain ⟨_, description, h₃, -, rfl⟩ := Checked.value_of_seq h₄
  obtain ⟨_, replacement, h₂, -, rfl⟩ := Checked.value_of_seq h₃
  obtain ⟨_, text, h₁, htext, rfl⟩ := Checked.value_of_seq h₂
  obtain ⟨_, priority, h₀, -, rfl⟩ := Checked.value_of_seq h₁
  obtain ⟨name, hname, rfl⟩ := Checked.value_of_map h₀
  obtain ⟨_, hname⟩ := Schema.required_value hname
  obtain ⟨_, htext⟩ := Schema.required_value htext
  exact ⟨Schema.someText_value hname, Schema.someText_value htext⟩

theorem valid_of_check {v : Json} {r : CustomRule} (h : check v = .value r) : r.IsValid := by
  obtain ⟨es, hfields⟩ := Schema.object_value h
  split at hfields
  · cases hfields
  · split at hfields
    · exact valid_of_checkSearch (Checked.value_of_under hfields)
    · split at hfields
      · exact valid_of_checkEqual (Checked.value_of_under hfields)
      · cases hfields
  · cases hfields

theorem check_of_search {es : List (Text × Json)}
    (h : kindField.find? es = some (.text searchTag)) :
    check (.object es) = (checkSearch es).under searchTag := by
  rw [check, Schema.object, h]
  exact if_pos rfl

theorem check_of_equal {es : List (Text × Json)}
    (h : kindField.find? es = some (.text equalTag)) :
    check (.object es) = (checkEqual es).under equalTag := by
  rw [check, Schema.object, h]
  exact (if_neg (by decide)).trans (if_pos rfl)

theorem check_toJson {r : CustomRule} (h : r.IsValid) : check r.toJson = .value r := by
  obtain ⟨name, priority, action, description⟩ := r
  obtain ⟨hname, haction⟩ := h
  cases action with
  | search pattern template =>
    obtain ⟨hne, p, hp⟩ := haction
    have hpattern : checkPattern (.text pattern) = .value pattern := by
      rw [checkPattern, Schema.someText_text hne, Checked.andThen, hp]
    cases description <;>
    · simp only [toJson]
      rw [check_of_search rfl, checkSearch, Schema.required_of_find rfl (Schema.someText_text hname),
        Schema.required_of_find rfl hpattern]
      rfl
  | equal text replacement =>
    cases description <;>
    · simp only [toJson]
      rw [check_of_equal rfl, checkEqual, Schema.required_of_find rfl (Schema.someText_text hname),
        Schema.required_of_find rfl (Schema.someText_text haction)]
      rfl

end CustomRule

/-! Whole configurations. -/

/-- All conditions on the parts of a configuration. -/
structure MappingConfig.IsValid (c : MappingConfig) : Prop where
  nonempty : c.definitions ≠ []
  definitions : ∀ d ∈ c.definitions, d.IsValid
  genericRules : ∀ r ∈ c.genericRules, r.IsValid
  scopeRules : ∀ r ∈ c.scopeRules, r.source ≠ []
  customRules : ∀ r ∈ c.customRules, r.IsValid

namespace MappingConfig

theorem valid_of_check {v : Json} {c : MappingConfig} (h : check v = .value c) : c.IsValid := by
  obtain ⟨parts, hparts, hclash⟩ := Checked.value_of_andThen h
  obtain rfl : parts = c := by
    split at hclash
    · cases hclash
    · cases hclash
      rfl
  obtain ⟨es, h₄⟩ := Schema.object_value hparts
  obtain ⟨_, _, h₃, -, rfl⟩ := Checked.value_of_seq h₄
  obtain ⟨_, custom, h₂, hcustom, rfl⟩ := Checked.value_of_seq h₃
  obtain ⟨_, scope, h₁, hscope, rfl⟩ := Checked.value_of_seq h₂
  obtain ⟨_, generic, h₀, hgeneric, rfl⟩ := Checked.value_of_seq h₁
  obtain ⟨definitions, hdefinitions, rfl⟩ := Checked.value_of_map h₀
  obtain ⟨_, hdefinitions⟩ := Schema.required_value hdefinitions
  obtain ⟨hne, hdefinitions⟩ := Schema.someList_value hdefinitions
  constructor
  · exact hne
  · intro d hd
    obtain ⟨_, hcheck⟩ := hdefinitions d hd
    exact Definition.valid_of_check hcheck
  · intro r hr
    obtain ⟨_, hcheck⟩ := Schema.optionalList_value hgeneric r hr
    exact GenericRule.valid_of_check hcheck
  · intro r hr
    obtain ⟨_, hcheck⟩ := Schema.optionalList_value hscope r hr
    exact ScopeRule.source_of_check hcheck
  · intro r hr
    obtain ⟨_, hcheck⟩ := Schema.optionalList_value hcustom r hr
    exact CustomRule.valid_of_check hcheck

theorem checkParts_toJson {c : MappingConfig} (h : c.IsValid) : checkParts c.toJson = .value c := by
  have hdefinitions := Schema.someList_map h.nonempty fun d hd =>
    Definition.check_toJson (h.definitions d hd)
  have hgeneric := Schema.list_map fun r hr => GenericRule.check_toJson (h.genericRules r hr)
  have hscope := Schema.list_map fun r hr => ScopeRule.check_toJson (h.scopeRules r hr)
  have hcustom := Schema.list_map fun r hr => CustomRule.check_toJson (h.customRules r hr)
  unfold checkParts toJson
  simp only [Schema.object]
  rw [Schema.required_of_find rfl hdefinitions, Schema.optional_of_find rfl hgeneric,
    Schema.optional_of_find rfl hscope, Schema.optional_of_find rfl hcustom]
  rfl

/-- A valid configuration is read back as it was written unless it has a clash. -/
theorem check_toJson_iff {c found : MappingConfig} (h : c.IsValid) :
    check c.toJson = .value found ↔ found = c ∧ clash? c.definitions = none := by
  rw [check, checkParts_toJson h, Checked.andThen]
  cases clash? c.definitions with
  | none =>
    constructor
    · intro hvalue
      cases hvalue
      exact ⟨rfl, rfl⟩
    · rintro ⟨rfl, -⟩
      rfl
  | some clash =>
    constructor
    · intro hvalue
      cases hvalue
    · rintro ⟨-, hnone⟩
      cases hnone

end MappingConfig

end TypeAtlas
