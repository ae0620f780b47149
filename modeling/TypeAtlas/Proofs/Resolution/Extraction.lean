import TypeAtlas.Proofs.Mapping.Structural
import TypeAtlas.Proofs.Resolution.Linking
import TypeAtlas.Proofs.Signature.Cleaning

/-!
The references of a type and of a declaration. Each argument is written out, cleaned and read again,
yet the references are those nodes of the one tree that the registry does not account for; and a
declaration has a dependency for each of them that is the first of its name.
-/

namespace TypeAtlas

/-! Every level of a tree takes up text of its own. -/

theorem TypeTree.heightAll_le {n : Nat} {ts : List TypeTree} (h : ∀ t ∈ ts, t.height ≤ n) :
    heightAll ts ≤ n := by
  induction ts with
  | nil => exact Nat.zero_le n
  | cons t ts ih =>
    rw [heightAll]
    exact Nat.max_le.mpr ⟨h t List.mem_cons_self, ih fun u hu => h u (List.mem_cons_of_mem t hu)⟩

theorem SignatureParts.height_tree (p : SignatureParts) (arguments : List TypeTree) :
    (p.tree arguments).height = TypeTree.heightAll arguments + 1 := by
  obtain ⟨scope, base, hnames⟩ := p.exists_names
  rw [p.tree_of_names hnames, TypeTree.height]

theorem height_le_of_parse? {t : Text} {tree : TypeTree} (h : parse? t = some tree) :
    tree.height ≤ t.length := by
  induction hn : t.length using Nat.strongRecOn generalizing t tree with
  | ind n ih =>
    rw [parse?, parse] at h
    split at h
    · split at h
      · rename_i p hparts
        obtain rfl := Option.some.inj h
        have hpositive : n ≠ 0 := by
          rintro rfl
          obtain rfl := List.length_eq_zero_iff.mp hn
          simp [tokens, pieces, parts?, takeConst, qualifiedName?] at hparts
        rw [p.height_tree]
        refine Nat.lt_of_le_of_lt (TypeTree.heightAll_le fun a ha => ?_) (Nat.sub_one_lt hpositive)
        obtain ⟨⟨run, hr⟩, -, ha⟩ := List.mem_filterMap.mp ha
        have hshort := length_spanOf_lt hparts hr
        have hheight := ih _ (hn ▸ hshort) ha rfl
        omega
      · cases h
    · cases h

/-! What the registry accounts for. -/

namespace Registry

variable {r : Registry}

/-- A generic type that is not accounted for leaves its base name open. -/
theorem isBuiltin_qualifiedName {t : TypeTree} (h : t.Named)
    (hopen : r.isBuiltin t.fullName = false) : r.isBuiltin t.qualifiedName = false := by
  rw [isBuiltin_of_parse? (parse?_fullName h)] at hopen
  obtain ⟨scope, base, arguments, isArray, qualifiers⟩ := t
  have hnamed : (TypeTree.mk scope base [] false .none).Named :=
    TypeTree.named_mk.mpr ⟨(TypeTree.named_mk.mp h).1, fun a ha => nomatch ha⟩
  have hparse := parse?_fullName hnamed
  simp only [Bool.or_eq_false_iff] at hopen
  change r.isBuiltin (TypeTree.mk scope base [] false .none).fullName = false
  rw [isBuiltin_of_parse? hparse]
  simp only [Bool.or_eq_false_iff]
  exact ⟨⟨rfl, hopen.1.2⟩, hopen.2⟩

end Registry

/-! The references of a type. -/

namespace Reference

variable {r : Registry}

/-- What one level of a type contributes, and what is left to its arguments. -/
theorem allFrom_of_parse? {depth : Nat} {s : Text} {t : TypeTree} (hne : cleaned s ≠ [])
    (hrecord : isRecordLiteral (cleaned s) = false) (h : parse? (cleaned s) = some t) :
    allFrom r (depth + 1) s = (if r.isBuiltin t.fullName then [] else [ofTree t]) ++
      t.arguments.flatMap fun a => allFrom r depth a.fullName := by
  have hread : ((cleaned s).isEmpty || isRecordLiteral (cleaned s)) = false := by
    simpa [hrecord] using hne
  simp only [allFrom, hread, Bool.false_eq_true, if_false, h]

/-- The nodes of a tree that the registry does not account for. -/
def ofNodes (r : Registry) (t : TypeTree) : List Reference :=
  (t.walk.filter fun node => !r.isBuiltin node.fullName).map ofTree

theorem ofNodes_eq (t : TypeTree) :
    ofNodes r t = (if r.isBuiltin t.fullName then [] else [ofTree t]) ++
      t.arguments.flatMap (ofNodes r) := by
  obtain ⟨scope, base, arguments, isArray, qualifiers⟩ := t
  have harguments : ((TypeTree.walkAll arguments).filter fun node => !r.isBuiltin node.fullName).map
      ofTree = arguments.flatMap (ofNodes r) := by
    rw [TypeTree.walkAll_eq_flatMap, List.filter_flatMap, List.map_flatMap]
    rfl
  rw [ofNodes, TypeTree.walk, List.filter_cons]
  change _ = _ ++ arguments.flatMap (ofNodes r)
  rw [← harguments]
  cases r.isBuiltin (TypeTree.mk scope base arguments isArray qualifiers).fullName <;> rfl

theorem allFrom_fullName {t : TypeTree} (h : t.Named) {depth : Nat} (hdepth : t.height ≤ depth) :
    allFrom r depth t.fullName = ofNodes r t := by
  induction t using TypeTree.byArguments generalizing depth with
  | h scope base arguments isArray qualifiers ih =>
    obtain _ | depth := depth
    · cases hdepth
    -- the name is clean, so what is read is the tree without its qualifiers
    have hclean := clean_fullName h
    have hname := cleaned_fullName h
    rw [TypeTree.height] at hdepth
    rw [allFrom_of_parse? (hname.symm ▸ hclean.nonempty) (hname.symm ▸ hclean.isRecordLiteral_eq)
      (hname.symm ▸ parse?_fullName h), TypeTree.fullName_bare, ofNodes_eq]
    congr 1
    change (TypeTree.bareAll arguments).flatMap _ = _
    rw [TypeTree.bareAll_eq_map, List.flatMap_map]
    apply List.flatMap_congr
    intro a ha
    have hheight := TypeTree.height_le_heightAll ha
    rw [TypeTree.fullName_bare]
    exact ih a ha ((TypeTree.named_mk.mp h).2 a ha) (by omega)

theorem all_of_parse? {s : Text} {t : TypeTree} (hne : cleaned s ≠ [])
    (hrecord : isRecordLiteral (cleaned s) = false) (h : parse? (cleaned s) = some t) :
    all r s = ofNodes r t := by
  have hheight : t.height ≤ s.length := (height_le_of_parse? h).trans (length_cleaned_le s)
  rw [all, allFrom_of_parse? hne hrecord h, ofNodes_eq]
  congr 1
  apply List.flatMap_congr
  intro a ha
  obtain ⟨scope, base, arguments, isArray, qualifiers⟩ := t
  have hless : a.height ≤ TypeTree.heightAll arguments := TypeTree.height_le_heightAll ha
  rw [TypeTree.height] at hheight
  exact allFrom_fullName ((TypeTree.named_mk.mp (named_of_parse? h)).2 a ha) (by omega)

theorem isBuiltin_of_mem_ofOther {t : Text} {x : Reference} (h : x ∈ ofOther r t) :
    r.isBuiltin x.fullName = false := by
  have hname (t : Text) : (ofName t).fullName = t := by
    unfold ofName
    split <;> rfl
  simp only [ofOther] at h
  split at h
  · cases h
  · rename_i hopen
    obtain rfl := List.mem_singleton.mp h
    rw [Bool.not_eq_true, Bool.or_eq_false_iff] at hopen
    rw [hname]
    exact hopen.2

theorem isBuiltin_of_mem_allFrom {depth : Nat} {s : Text} {x : Reference}
    (h : x ∈ allFrom r depth s) : r.isBuiltin x.fullName = false := by
  induction depth generalizing s with
  | zero => cases h
  | succ depth ih =>
    simp only [allFrom] at h
    split at h
    · cases h
    · split at h
      · exact isBuiltin_of_mem_ofOther h
      · rename_i tree hparse
        rcases List.mem_append.mp h with h | h
        · split at h
          · cases h
          · rename_i hopen
            obtain rfl := List.mem_singleton.mp h
            exact Registry.isBuiltin_qualifiedName (named_of_parse? hparse) (by simpa using hopen)
        · obtain ⟨a, -, ha⟩ := List.mem_flatMap.mp h
          exact ih ha

end Reference

/-! The dependencies of a declaration. -/

namespace Dependency

theorem fullName_of_mem_distinctFrom {seen : List Text} {ds : List Dependency} {x : Dependency}
    (h : x ∈ distinctFrom seen ds) : x.fullName ∉ seen := by
  induction ds generalizing seen with
  | nil => cases h
  | cons d ds ih =>
    rw [distinctFrom_cons] at h
    split at h
    · exact ih h
    · rename_i hd
      rcases List.mem_cons.mp h with rfl | h
      · exact hd
      · exact fun hx => ih h (List.mem_cons_of_mem _ hx)

theorem map_fullName_distinctFrom (seen : List Text) (ds : List Dependency) :
    (distinctFrom seen ds).map (·.fullName) =
      ((ds.map (·.fullName)).filter (· ∉ seen)).eraseDups := by
  induction ds generalizing seen with
  | nil => rfl
  | cons d ds ih =>
    rw [distinctFrom_cons, List.map_cons]
    split
    · rename_i hd
      rw [ih, List.filter_cons_of_neg (by simpa using hd)]
    · rename_i hd
      rw [List.map_cons, ih, List.filter_cons_of_pos (by simpa using hd), List.eraseDups_cons,
        List.filter_filter]
      congr 3
      funext name
      simp [Bool.beq_eq_decide_eq]

/-- A dependency that is kept is the first of its name. -/
theorem find?_of_mem_distinctFrom {seen : List Text} {ds : List Dependency} {x : Dependency}
    (h : x ∈ distinctFrom seen ds) : ds.find? (·.fullName = x.fullName) = some x := by
  induction ds generalizing seen with
  | nil => cases h
  | cons d ds ih =>
    have hother {seen : List Text} (hd : d.fullName ∈ seen) (h : x ∈ distinctFrom seen ds) :
        (d :: ds).find? (·.fullName = x.fullName) = some x := by
      have hne : d.fullName ≠ x.fullName := fun he => fullName_of_mem_distinctFrom h (he ▸ hd)
      rw [List.find?_cons_of_neg (by simpa using hne)]
      exact ih h
    rw [distinctFrom_cons] at h
    split at h
    · exact hother ‹_› h
    · rcases List.mem_cons.mp h with rfl | h
      · exact List.find?_cons_of_pos (by simp)
      · exact hother List.mem_cons_self h

end Dependency

/-- The references in a type, with where the type stands. -/
def Reference.tagged (r : Registry) (usage : Usage) (t : Text) : List (Reference × Usage) :=
  (Reference.all r t).map (·, usage)

def Method.occurrences (r : Registry) (m : Method) : List (Reference × Usage) :=
  Reference.tagged r .result m.result ++
    m.parameters.flatMap fun p => Reference.tagged r .parameter p.type

/-- All references in the types of a declaration: its parents, its properties, its methods and then
its slots, of each what it returns before what it takes, and what its signals pass. -/
def Declaration.occurrences (r : Registry) (d : Declaration) : List (Reference × Usage) :=
  d.parents.flatMap (Reference.tagged r .parent) ++
    d.properties.flatMap (fun p => Reference.tagged r .property p.type) ++
    d.methods.flatMap (Method.occurrences r) ++ d.slots.flatMap (Method.occurrences r) ++
    d.signals.flatMap fun s => s.parameters.flatMap fun p =>
      Reference.tagged r .signalParameter p.type

variable {r : Registry}

theorem Declaration.flatMap_uses (source : Text) (d : Declaration) :
    (d.uses.flatMap fun (t, usage) =>
      (Reference.all r t).map (Dependency.ofReference source usage)) =
        (d.occurrences r).map fun (reference, usage) =>
          Dependency.ofReference source usage reference := by
  simp only [uses, Method.uses, occurrences, Method.occurrences, Reference.tagged,
    List.flatMap_append, List.flatMap_assoc, List.flatMap_map, List.flatMap_cons, List.map_append,
    List.map_flatMap, List.map_map, List.append_assoc]
  rfl

namespace Dependency

def unlinked (x : Dependency) : Dependency := { x with link := none }

/-- A dependency of a declaration is the first reference of its name. -/
theorem find?_occurrences {source : Text} {d : Declaration} {x : Dependency}
    (h : x ∈ ofDeclaration r source d) :
    ∃ reference, (d.occurrences r).find? (·.1.fullName = x.fullName) =
      some (reference, x.usage) ∧ ofReference source x.usage reference = x := by
  rw [ofDeclaration, d.flatMap_uses] at h
  have hfirst := find?_of_mem_distinctFrom h
  rw [List.find?_map] at hfirst
  obtain ⟨⟨reference, usage⟩, hfind, rfl⟩ := Option.map_eq_some_iff.mp hfirst
  exact ⟨reference, hfind, rfl⟩

theorem isBuiltin_of_mem_ofDeclaration {source : Text} {d : Declaration} {x : Dependency}
    (h : x ∈ ofDeclaration r source d) : r.isBuiltin x.fullName = false := by
  obtain ⟨⟨t, usage⟩, -, hx⟩ := List.mem_flatMap.mp (mem_of_mem_distinctFrom h)
  obtain ⟨reference, hreference, rfl⟩ := List.mem_map.mp hx
  exact Reference.isBuiltin_of_mem_allFrom hreference

theorem map_fullName_ofDeclaration (source : Text) (d : Declaration) :
    (ofDeclaration r source d).map (·.fullName) =
      ((d.occurrences r).map (·.1.fullName)).eraseDups := by
  rw [ofDeclaration, map_fullName_distinctFrom, d.flatMap_uses, List.map_map,
    List.filter_eq_self.mpr fun name _ => by simp]
  rfl

end Dependency

/-- Links are all that a page adds. -/
theorem Context.extract_unlinked (c : Context) (primary : Option Text) (d : Declaration)
    (links : Option (List (Text × Text))) (source : Text) :
    (c.extract r primary d links source).2.map Dependency.unlinked =
      Dependency.ofDeclaration r source d := by
  have hself : (Dependency.ofDeclaration r source d).map Dependency.unlinked =
      Dependency.ofDeclaration r source d := by
    refine (List.map_congr_left fun x hx => ?_).trans (List.map_id _)
    obtain ⟨-, hlink⟩ := Dependency.of_mem_ofDeclaration hx
    rw [Dependency.unlinked, ← hlink, id_eq]
  cases links with
  | none => exact hself
  | some links =>
    obtain ⟨known, hattach⟩ := attach_eq primary (.ofLinks links) c
      (Dependency.ofDeclaration r source d)
    rw [extract, hattach, List.map_map]
    exact hself

/-- The references of a text are the nodes of its tree, each before its arguments, that the registry
does not account for. A declaration has one dependency for each full name that its types refer to,
in the order in which they do and with the usage of the first; the registry accounts for none. -/
theorem extraction_exact (r : Registry) :
    (∀ (s : Text) (t : TypeTree), cleaned s ≠ [] → isRecordLiteral (cleaned s) = false →
      parse? (cleaned s) = some t →
        Reference.all r s = (t.walk.filter fun node => !r.isBuiltin node.fullName).map
          fun node => ⟨node.base, node.qualifiedName, node.namespace?⟩) ∧
    ∀ (c : Context) (primary : Option Text) (d : Declaration) (links : Option (List (Text × Text)))
      (source : Text),
      (c.extract r primary d links source).2.map (·.fullName) =
        ((d.occurrences r).map (·.1.fullName)).eraseDups ∧
      ∀ x ∈ (c.extract r primary d links source).2, r.isBuiltin x.fullName = false ∧
        x.source = source ∧ ∃ reference,
          (d.occurrences r).find? (·.1.fullName = x.fullName) = some (reference, x.usage) ∧
            x.name = reference.name ∧ x.scope = reference.scope := by
  refine ⟨fun s t hne hrecord h => Reference.all_of_parse? hne hrecord h, ?_⟩
  intro c primary d links source
  have hfound := c.extract_unlinked (r := r) primary d links source
  constructor
  · rw [← Dependency.map_fullName_ofDeclaration source d, ← hfound, List.map_map]
    rfl
  · intro x hx
    have hx : x.unlinked ∈ Dependency.ofDeclaration r source d := hfound ▸ List.mem_map_of_mem hx
    have hopen : r.isBuiltin x.unlinked.fullName = false :=
      Dependency.isBuiltin_of_mem_ofDeclaration hx
    obtain ⟨reference, hfind, he⟩ := Dependency.find?_occurrences hx
    obtain ⟨hname, -, hsource, -, hscope, -⟩ := Dependency.mk.inj he
    exact ⟨hopen, hsource.symm, reference, hfind, hname.symm, hscope.symm⟩

namespace Sample

/-- Lists and names are accounted for, maps are not. -/
def reference : Text := "const ns.Map<List<Item *>, Name, Item[]> &"

/-- A property names what a parent named before; only its key has a link. -/
def keeper : Declaration :=
  ⟨"Keeper", [], "Keeper", ["Base<Item>"], [],
    [⟨"find", "List<Item>", [⟨"key", "ns::Key", none, none⟩], .everyone, false, false, false, false,
      false, [], none⟩], [], [], [⟨"items", "Item", false, none⟩], none, false⟩

def kept : List Dependency :=
  ((Context.start 1).extract names none keeper (some [("Key", "key.html")]) "keeper.html").2

end Sample

theorem extraction_exact_sample :
    (∃ t, parse? (cleaned Sample.reference) = some t ∧
      Reference.all Sample.names Sample.reference =
        (t.walk.filter fun node => !Sample.names.isBuiltin node.fullName).map
          (fun node => ⟨node.base, node.qualifiedName, node.namespace?⟩)) ∧
    Reference.all Sample.names Sample.reference =
      [⟨"Map", "ns::Map", some "ns"⟩, ⟨"Item", "Item", none⟩, ⟨"Item", "Item", none⟩] ∧
    Sample.kept.map (·.fullName) =
      ((Sample.keeper.occurrences Sample.names).map (·.1.fullName)).eraseDups ∧
    Sample.kept =
      [⟨"Base", "Base", "keeper.html", .parent, none, none⟩,
        ⟨"Item", "Item", "keeper.html", .parent, none, none⟩,
        ⟨"Key", "ns::Key", "keeper.html", .parameter, some "ns", some "key.html"⟩] := by
  obtain ⟨t, hparse⟩ := Option.isSome_iff_exists.mp (show (parse?
    (cleaned Sample.reference)).isSome by decide +kernel)
  have hreferences := (extraction_exact Sample.names).1 Sample.reference t (by decide)
    (by decide) hparse
  have hkept := ((extraction_exact Sample.names).2 (.start 1) none Sample.keeper
    (some [("Key", "key.html")]) "keeper.html").1
  exact ⟨⟨t, hparse, hreferences⟩, by decide +kernel, hkept, by decide +kernel⟩

end TypeAtlas
