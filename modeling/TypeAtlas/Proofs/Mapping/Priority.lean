import TypeAtlas.Proofs.Mapping.Grounds

/-!
Custom rules in order. They are sorted anew after every addition; what comes of it is one stable
sort of all rules in the order of their insertion. So the first rule that fires on a type is the one
that leads among those that fire: it has the highest priority, and of these it came first.
-/

namespace TypeAtlas

namespace CustomRule

/-! Sorted rules. -/

theorem byPriority_perm (rules : List CustomRule) : (byPriority rules).Perm rules :=
  List.mergeSort_perm rules _

theorem mem_byPriority {rule : CustomRule} {rules : List CustomRule} :
    rule ∈ byPriority rules ↔ rule ∈ rules := (byPriority_perm rules).mem_iff

def Ordered (rules : List CustomRule) : Prop := rules.Pairwise fun a b => b.priority ≤ a.priority

private theorem priority_trans (a b c : CustomRule) (hab : decide (b.priority ≤ a.priority) = true)
    (hbc : decide (c.priority ≤ b.priority) = true) : decide (c.priority ≤ a.priority) = true := by
  simp only [decide_eq_true_eq] at hab hbc ⊢
  omega

private theorem priority_total (a b : CustomRule) :
    (decide (b.priority ≤ a.priority) || decide (a.priority ≤ b.priority)) = true := by
  simp only [Bool.or_eq_true, decide_eq_true_eq]
  omega

theorem ordered_byPriority (rules : List CustomRule) : Ordered (byPriority rules) := by
  have hsorted := List.pairwise_mergeSort priority_trans priority_total rules
  exact hsorted.imp of_decide_eq_true

/-- Sorting leaves the rules of each priority in their order. -/
theorem filter_byPriority (p : Int) (rules : List CustomRule) :
    (byPriority rules).filter (·.priority = p) = rules.filter (·.priority = p) := by
  have hequal : (rules.filter (·.priority = p)).Pairwise
      fun a b => decide (b.priority ≤ a.priority) = true := by
    refine List.pairwise_of_forall_mem_list fun a ha b hb => ?_
    simp only [List.mem_filter, decide_eq_true_eq] at ha hb ⊢
    omega
  have hsub : (rules.filter (·.priority = p)).Sublist (byPriority rules) :=
    List.sublist_mergeSort priority_trans priority_total hequal List.filter_sublist
  have hkept := hsub.filter (·.priority = p)
  rw [List.filter_filter] at hkept
  simp only [Bool.and_self] at hkept
  exact (hkept.eq_of_length ((byPriority_perm rules).filter _).length_eq.symm).symm

/-- Ordered rules are known by the rules of each priority. -/
theorem Ordered.eq {rules rules' : List CustomRule} (h : Ordered rules) (h' : Ordered rules')
    (hsame : ∀ p, rules.filter (·.priority = p) = rules'.filter (·.priority = p)) :
    rules = rules' := by
  have hmem : ∀ rule, rule ∈ rules ↔ rule ∈ rules' := by
    intro rule
    have hiff := congrArg (rule ∈ ·) (hsame rule.priority)
    simpa using hiff
  induction rules generalizing rules' with
  | nil => exact (List.eq_nil_iff_forall_not_mem.mpr fun rule hrule =>
      List.not_mem_nil ((hmem rule).mpr hrule)).symm
  | cons a rules ih =>
    cases rules' with
    | nil => exact absurd ((hmem a).mp List.mem_cons_self) List.not_mem_nil
    | cons b rules' =>
      obtain ⟨ha, hrest⟩ := List.pairwise_cons.mp h
      obtain ⟨hb, hrest'⟩ := List.pairwise_cons.mp h'
      -- each head is in the other list, so that neither has the lower priority
      have hpriority : a.priority = b.priority := by
        have hab : a = b ∨ a ∈ rules' := List.mem_cons.mp ((hmem a).mp List.mem_cons_self)
        have hba : b = a ∨ b ∈ rules := List.mem_cons.mp ((hmem b).mpr List.mem_cons_self)
        rcases hab with rfl | hab
        · rfl
        · rcases hba with rfl | hba
          · rfl
          · have := ha b hba
            have := hb a hab
            omega
      have hhead : a = b := by
        have hboth := hsame a.priority
        simp only [List.filter_cons, hpriority, decide_true, if_true] at hboth
        exact (List.cons.inj hboth).1
      subst hhead
      congr 1
      have htail : ∀ p, rules.filter (·.priority = p) = rules'.filter (·.priority = p) := by
        intro p
        have hboth := hsame p
        by_cases hp : a.priority = p
        · simpa [List.filter_cons, hp] using hboth
        · simpa [List.filter_cons, hp] using hboth
      refine ih hrest hrest' htail fun rule => ?_
      have hiff := congrArg (rule ∈ ·) (htail rule.priority)
      simpa using hiff

/-- Rules that have been sorted already can be sorted again with others behind them. -/
theorem byPriority_append (rules added : List CustomRule) :
    byPriority (byPriority rules ++ added) = byPriority (rules ++ added) := by
  refine (ordered_byPriority _).eq (ordered_byPriority _) fun p => ?_
  rw [filter_byPriority, filter_byPriority, List.filter_append, List.filter_append,
    filter_byPriority]

theorem byPriority_byPriority (rules : List CustomRule) :
    byPriority (byPriority rules) = byPriority rules := by
  simpa using byPriority_append rules []

/-! The rule that decides. -/

/-- The rule fires, no rule that fires has a higher priority, and none of the same priority stands
before it. -/
def Leads (rule : CustomRule) (rules : List CustomRule) (clean : Text) : Prop :=
  rule.fires clean = true ∧ ∃ before after, rules = before ++ rule :: after ∧
    (∀ other ∈ before, other.fires clean = true → other.priority < rule.priority) ∧
    ∀ other ∈ after, other.fires clean = true → other.priority ≤ rule.priority

theorem Leads.unique {rule rule' : CustomRule} {rules : List CustomRule} {clean : Text}
    (h : rule.Leads rules clean) (h' : rule'.Leads rules clean) : rule = rule' := by
  obtain ⟨hfires, before, after, rfl, hbefore, hafter⟩ := h
  obtain ⟨hfires', before', after', hsplit, hbefore', hafter'⟩ := h'
  rcases List.append_eq_append_iff.mp hsplit with ⟨between, rfl, hrest⟩ | ⟨between, rfl, hrest⟩
  · cases between with
    | nil => exact (List.cons.inj hrest).1
    | cons other between =>
      obtain ⟨rfl, rfl⟩ := List.cons.inj hrest
      have hlow := hbefore' rule (by simp) hfires
      have hhigh := hafter rule' (by simp) hfires'
      omega
  · cases between with
    | nil => exact (List.cons.inj hrest).1.symm
    | cons other between =>
      obtain ⟨rfl, rfl⟩ := List.cons.inj hrest
      have hlow := hbefore rule' (by simp) hfires'
      have hhigh := hafter' rule (by simp) hfires
      omega

/-- The first of the sorted rules that fires leads among them all. -/
theorem leads_of_find? {rule : CustomRule} {rules : List CustomRule} {clean : Text}
    (h : (byPriority rules).find? (·.fires clean) = some rule) : rule.Leads rules clean := by
  obtain ⟨hfires, front, back, hsorted, hfront⟩ := List.find?_eq_some_iff_append.mp h
  have hordered : Ordered (front ++ rule :: back) := hsorted ▸ ordered_byPriority rules
  have hback : ∀ other ∈ back, other.priority ≤ rule.priority :=
    (List.pairwise_cons.mp (List.pairwise_append.mp hordered).2.1).1
  have hleast : ∀ other ∈ rules, other.fires clean = true → other.priority ≤ rule.priority := by
    intro other hother hfires'
    rw [← mem_byPriority, hsorted, List.mem_append, List.mem_cons] at hother
    rcases hother with hother | rfl | hother
    · have := hfront other hother
      simp [hfires'] at this
    · exact Int.le_refl _
    · exact hback other hother
  -- the rules of this priority stand in their old order, so those before it are in front of it
  have hkept : rules.filter (·.priority = rule.priority) =
      front.filter (·.priority = rule.priority) ++
        rule :: back.filter (·.priority = rule.priority) := by
    rw [← filter_byPriority, hsorted, List.filter_append, List.filter_cons]
    simp
  obtain ⟨before, rest, rfl, hbefore, hrest⟩ := List.filter_eq_append_iff.mp hkept
  obtain ⟨skipped, after, rfl, hskipped, -, -⟩ := List.filter_eq_cons_iff.mp hrest
  refine ⟨hfires, before ++ skipped, after, by simp, ?_, ?_⟩
  · intro other hother hfires'
    have hle := hleast other (by grind) hfires'
    by_contra hhigh
    have hsame : other.priority = rule.priority := by omega
    rcases List.mem_append.mp hother with hother | hother
    · have hinfront : other ∈ before.filter (·.priority = rule.priority) := by
        simp [hother, hsame]
      rw [hbefore] at hinfront
      have := hfront other (List.mem_filter.mp hinfront).1
      simp [hfires'] at this
    · have := hskipped other hother
      simp [hsame] at this
  · intro other hother hfires'
    exact hleast other (by grind) hfires'

theorem exists_leader {rule : CustomRule} {rules : List CustomRule} {clean : Text}
    (hrule : rule ∈ rules) (hfires : rule.fires clean = true) :
    ∃ leader : CustomRule, leader.Leads rules clean := by
  have hsome : ((byPriority rules).find? (·.fires clean)).isSome = true := by
    rw [List.find?_isSome]
    exact ⟨rule, mem_byPriority.mpr hrule, hfires⟩
  obtain ⟨leader, hleader⟩ := Option.isSome_iff_exists.mp hsome
  exact ⟨leader, leads_of_find? hleader⟩

theorem find?_byPriority {rule : CustomRule} {rules : List CustomRule} {clean : Text} :
    (byPriority rules).find? (·.fires clean) = some rule ↔ rule.Leads rules clean := by
  constructor
  · exact leads_of_find?
  · intro h
    cases hfind : (byPriority rules).find? (·.fires clean) with
    | some leader => rw [(leads_of_find? hfind).unique h]
    | none =>
      obtain ⟨hfires, before, after, rfl, -⟩ := h
      have hsilent := List.find?_eq_none.mp hfind rule (mem_byPriority.mpr (by simp))
      exact absurd hfires hsilent

/-- The rules in the order of their insertion, after one more step: a configuration that is loaded
brings its own in place of all others. -/
def inserted (rules : List CustomRule) : Step → List CustomRule
  | .ask .. => rules
  | .change (.register _) => rules
  | .change (.addRule rule) => rules ++ [rule]
  | .change (.load c) => c.customRules
  | .change .clearCache => rules

end CustomRule

namespace Registry

variable {r : Registry} {rules : List CustomRule}

theorem customRules_after (h : r.customRules = CustomRule.byPriority rules) (step : Step) :
    (r.after step).customRules = CustomRule.byPriority (CustomRule.inserted rules step) := by
  cases step with
  | ask n q => exact h
  | change c =>
    cases c with
    | register d => exact h
    | addRule rule =>
      change CustomRule.byPriority (r.customRules ++ [rule]) = _
      rw [h]
      exact CustomRule.byPriority_append rules [rule]
    | load c => rfl
    | clearCache => exact h

theorem customRules_afterAll (h : r.customRules = CustomRule.byPriority rules) (steps : List Step) :
    (steps.foldl Registry.after r).customRules =
      CustomRule.byPriority (steps.foldl CustomRule.inserted rules) := by
  induction steps generalizing r rules with
  | nil => exact h
  | cons step steps ih => exact ih (customRules_after h step)

/-- A conversion through a custom rule: what the rule makes of the cleaned type is given, with its
arguments converted. -/
theorem convert_of_rule {rule : CustomRule} {raw made : Text}
    (hfind : r.customRules.find? (·.fires (normalize raw)) = some rule)
    (hmade : rule.result? (normalize raw) = some made) (n : Nat) :
    r.convert (n + 1) raw = r.resolveGenerics n made := by
  have hcustom : r.customResult? (normalize raw) = some made := by
    rw [customResult?_eq, hfind, Option.bind_some, hmade]
  simp only [convert, convertStep, hcustom, resolveGenerics]

/-- A type without arguments is left as it is. -/
theorem resolveGenerics_of_no_arguments {t : Text} (h : ∀ tree ∈ parse? t, tree.isGeneric = false)
    (n : Nat) : r.resolveGenerics n t = some t := by
  unfold resolveGenerics resolveGenericsStep
  split
  · rename_i tree htree
    rw [if_neg (Bool.eq_false_iff.mp (h tree htree))]
    rfl
  · rfl

theorem convert_of_no_rule {raw : Text}
    (hnone : r.customRules.find? (·.fires (normalize raw)) = none) (n : Nat) :
    r.convert (n + 1) raw =
      r.convertCleaned (fun t => pure (r.genericRule? t)) (r.convert n) (normalize raw) := by
  simp only [convert, convertStep, customResult?_eq_none_iff.mpr hnone]

end Registry

/-- However a registry and a mapper on it came about, the custom rules of the last configuration and
those added since stand in the order of their priorities, those of one priority in the order of their
insertion. A conversion gives what the leading rule makes of the type, with its arguments converted,
as soon as any rule fires; only where none does it goes on to other rules and definitions. -/
theorem leading_rule_decides (before : List Step) (generation : Nat) (steps : List Step) (u : Mapper)
    (hrun : (Mapper.attach (before.foldl Registry.after .empty) generation).performAll steps =
      .ok u) (rules : List CustomRule)
    (hrules : (before ++ steps).foldl CustomRule.inserted [] = rules) :
    u.registry.customRules.Perm rules ∧
    u.registry.customRules.Pairwise (fun a b => b.priority ≤ a.priority) ∧
    (∀ p, u.registry.customRules.filter (·.priority = p) = rules.filter (·.priority = p)) ∧
    ∀ raw,
      (∀ rule ∈ rules, rule.fires (normalize raw) = true →
        ∃ leader : CustomRule, leader.Leads rules (normalize raw)) ∧
      (∀ rule : CustomRule, rule.Leads rules (normalize raw) →
        ∃ made, rule.result? (normalize raw) = some made ∧
          (∀ n target w, u.convertWithin n raw = .ok (target, w) →
            Gives (u.registry.resolveGenerics · made) target) ∧
          ∀ n target, u.registry.resolveGenerics n made = some target →
            ∃ w, u.convertWithin (n + 1) raw = .ok (target, w)) ∧
      ((∀ rule ∈ rules, rule.fires (normalize raw) = false) →
        ∀ n target w, u.convertWithin n raw = .ok (target, w) →
          Gives (fun k => u.registry.convertCleaned (fun t => pure (u.registry.genericRule? t))
            (u.registry.convert k) (normalize raw)) target) := by
  have hstart := Mapper.on_attach (before.foldl Registry.after .empty) generation
  have hu : u.On u.registry := Mapper.performAll_on hstart hrun
  have hsorted : u.registry.customRules = CustomRule.byPriority rules := by
    have hregistry : u.registry = (before ++ steps).foldl Registry.after .empty := by
      rw [List.foldl_append]
      exact Mapper.registry_performAll hstart hrun
    rw [hregistry, ← hrules]
    exact Registry.customRules_afterAll List.mergeSort_nil.symm (before ++ steps)
  refine ⟨hsorted ▸ CustomRule.byPriority_perm rules,
    hsorted ▸ CustomRule.ordered_byPriority rules,
    fun p => hsorted ▸ CustomRule.filter_byPriority p rules, fun raw => ⟨?_, ?_, ?_⟩⟩
  · intro rule hrule hfires
    exact CustomRule.exists_leader hrule hfires
  · intro rule hleads
    have hfind : u.registry.customRules.find? (·.fires (normalize raw)) = some rule :=
      hsorted ▸ CustomRule.find?_byPriority.mpr hleads
    obtain ⟨made, hmade⟩ := Option.isSome_iff_exists.mp hleads.1
    have hconvert := Registry.convert_of_rule hfind hmade
    refine ⟨made, hmade, ?_, ?_⟩
    · intro n target w hresult
      have hgives := ((Mapper.convertWithin_mirrors hu n raw).sound target w hresult).1
      simpa only [hconvert] using hgives.succ
    · intro n target htarget
      exact (Mapper.convertWithin_mirrors hu (n + 1) raw).complete target
        ((hconvert n).trans htarget)
  · intro hnone n target w hresult
    have hfind : u.registry.customRules.find? (·.fires (normalize raw)) = none := by
      rw [hsorted, List.find?_eq_none]
      intro rule hrule
      simp [hnone rule (CustomRule.mem_byPriority.mp hrule)]
    have hgives := ((Mapper.convertWithin_mirrors hu n raw).sound target w hresult).1
    simpa only [Registry.convert_of_no_rule hfind] using hgives.succ

namespace Sample

def lowRule : CustomRule := ⟨"low", -7, .equal "ManyA" "low", none⟩

def firstRule : CustomRule := ⟨"first", 5, .search "^Many(.+)$" "All$1", none⟩

def secondRule : CustomRule := ⟨"second", 5, .equal "ManyA" "second", none⟩

def otherRule : CustomRule := ⟨"other", 9, .equal "B" "other", none⟩

def loaded : MappingConfig := ⟨[⟨"A", "a", "letter", none, []⟩], [], [], [lowRule]⟩

/-- Two rules of one priority are added to a configuration with a lower one, and one with a higher
priority that does not fire on the same types. -/
def ranked : List Step :=
  [.change (.addRule firstRule), .ask 1 (.isBuiltin "A"), .change (.addRule secondRule),
    .change (.addRule otherRule)]

end Sample

/-- Of the two rules of one priority the first one leads. -/
theorem leading_rule_decides_sample :
    ∃ u, (Mapper.attach (.ofConfig Sample.loaded) 1).performAll Sample.ranked = .ok u ∧
      u.registry.customRules.filter (·.priority = 5) = [Sample.firstRule, Sample.secondRule] ∧
      ∃ w, u.convertWithin 1 "const ManyA &" = .ok ("AllA", w) := by
  obtain ⟨u, hrun⟩ : ∃ u, (Mapper.attach (.ofConfig Sample.loaded) 1).performAll Sample.ranked =
      .ok u := exists_ok_of_isSome (by decide)
  obtain ⟨-, -, hties, hconvert⟩ := leading_rule_decides [.change (.load Sample.loaded)] 1
    Sample.ranked u hrun
    [Sample.lowRule, Sample.firstRule, Sample.secondRule, Sample.otherRule] rfl
  have hleads : Sample.firstRule.Leads
      [Sample.lowRule, Sample.firstRule, Sample.secondRule, Sample.otherRule]
      (normalize "const ManyA &") :=
    ⟨by decide +kernel, [Sample.lowRule], [Sample.secondRule, Sample.otherRule], rfl,
      by decide +kernel, by decide +kernel⟩
  have hresult : Sample.firstRule.result? (normalize "const ManyA &") = some "AllA".toList := by
    decide +kernel
  obtain ⟨made, hmade, -, hgiven⟩ := (hconvert "const ManyA &").2.1 Sample.firstRule hleads
  obtain rfl : "AllA".toList = made := Option.some.inj (hresult.symm.trans hmade)
  have hplain : u.registry.resolveGenerics 0 "AllA" = some "AllA".toList :=
    Registry.resolveGenerics_of_no_arguments (by decide +kernel) 0
  exact ⟨u, hrun, hties 5, hgiven 0 _ hplain⟩

end TypeAtlas
