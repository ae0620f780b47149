import TypeAtlas.Proofs.Mapping.History
import TypeAtlas.Proofs.Occurrence

/-!
What listeners are told. Whatever is attempted with a mapper in use, every change is one more
generation, and a listener is told of it as often as it is registered at that moment. Nobody is told
of what fails, and it leaves no trace.
-/

namespace TypeAtlas

/-- What can be attempted with a mapper. A configuration, a definition or a rule may be unfit, and
the listener that is taken back may not be registered. -/
inductive Act
  | ask (depth : Nat) (q : Query)
  | change (c : Change)
  | load (v : Json)
  | register (v : Json)
  | addRule (v : Json)
  | listen (listener : Text)
  | unlisten (listener : Text)

namespace Act

/-- The change that an act makes, if it is one and not refused. -/
def change? : Act → Option Change
  | .change c => some c
  | .load v => (Mapper.ofChecked (MappingConfig.check v)).toOption.map .load
  | .register v => (Mapper.ofChecked (Definition.check v)).toOption.map .register
  | .addRule v => (Mapper.ofChecked (CustomRule.check v)).toOption.map .addRule
  | .ask .. | .listen _ | .unlisten _ => none

def changes (acts : List Act) : List Change := acts.filterMap change?

/-- The registrations after an act, in the order in which they were made. -/
def enrol (listeners : List Text) : Act → List Text
  | .listen l => listeners ++ [l]
  | .unlisten l => listeners.erase l
  | _ => listeners

def enrolled (listeners : List Text) (acts : List Act) : List Text := acts.foldl enrol listeners

/-- The generations that `l` is told of, from registrations and a generation before the first act
on: that of each change, as often as `l` is registered when the change is made. -/
def told (listeners : List Text) (generation : Nat) (acts : List Act) (l : Text) : List Nat :=
  acts.zipIdx.flatMap fun p =>
    if p.1.change?.isSome then
      List.replicate ((enrolled listeners (acts.take p.2)).count l)
        (generation + (changes (acts.take p.2)).length + 1)
    else []

theorem changes_concat (acts : List Act) (act : Act) :
    changes (acts ++ [act]) = changes acts ++ act.change?.toList := by
  rw [changes, List.filterMap_append, List.filterMap_cons]
  cases act.change? <;> rfl

theorem enrolled_concat (listeners : List Text) (acts : List Act) (act : Act) :
    enrolled listeners (acts ++ [act]) = act.enrol (enrolled listeners acts) := by
  rw [enrolled, List.foldl_append]
  rfl

theorem told_concat (listeners : List Text) (generation : Nat) (acts : List Act) (act : Act)
    (l : Text) : told listeners generation (acts ++ [act]) l =
      told listeners generation acts l ++ if act.change?.isSome then
        List.replicate ((enrolled listeners acts).count l)
          (generation + (changes acts).length + 1)
      else [] := by
  rw [told, List.zipIdx_append, List.flatMap_append]
  congr 1
  · exact List.flatMap_congr fun p hp => by rw [take_append_of_mem_zipIdx hp]
  · simp

/-- A listener that always has one registration is told of every generation in turn. -/
theorem told_of_count_one {listeners : List Text} {acts : List Act} {l : Text}
    (h : ∀ k ≤ acts.length, (enrolled listeners (acts.take k)).count l = 1) (generation : Nat) :
    told listeners generation acts l =
      List.range' (generation + 1) (changes acts).length := by
  induction acts using List.reverseRecOn with
  | nil => rfl
  | append_singleton acts act ih =>
    have hbefore : ∀ k ≤ acts.length, (enrolled listeners (acts.take k)).count l = 1 := by
      intro k hk
      rw [← List.take_append_of_le_length hk]
      refine h k (Nat.le_trans hk ?_)
      rw [List.length_append]
      exact Nat.le_add_right _ _
    have hlast := hbefore acts.length (Nat.le_refl _)
    rw [List.take_length] at hlast
    rw [told_concat, changes_concat, ih hbefore, hlast, List.length_append]
    cases act.change? with
    | none => exact List.append_nil _
    | some c =>
      rw [Option.toList_some, List.length_singleton, List.range'_concat, Nat.one_mul,
        Nat.add_right_comm]
      rfl

theorem enrol_of_change {act : Act} {c : Change} (h : act.change? = some c)
    (listeners : List Text) : act.enrol listeners = listeners := by
  cases act with
  | listen l => cases h
  | unlisten l => cases h
  | _ => rfl

end Act

namespace Mapper

open Act (changes enrolled told)

variable {s u v : Mapper} {act : Act} {acts : List Act} {l : Text}

/-- The generations that a listener was told of. -/
def recordOf (s : Mapper) (l : Text) : List Nat := (s.records.get? l).getD []

/-- Work that fails leaves the mapper as it is. -/
def settle (s : Mapper) : Except MapperError Mapper → Except MapperError Unit × Mapper
  | .ok u => (.ok (), u)
  | .error e => (.error e, s)

def attempt (s : Mapper) : Act → Except MapperError Unit × Mapper
  | .ask depth q => s.settle ((s.answer depth q).map Prod.snd)
  | .change c => (.ok (), s.change c)
  | .load v => s.settle (s.loadJson v)
  | .register v => s.settle (s.registerJson v)
  | .addRule v => s.settle (s.addRuleJson v)
  | .listen l => (.ok (), s.listen l)
  | .unlisten l => s.unlisten l

/-- Attempts acts one after the other, whether or not they fail. -/
def attemptAll (s : Mapper) (acts : List Act) : Mapper :=
  acts.foldl (fun s act => (s.attempt act).2) s

theorem attemptAll_concat (s : Mapper) (acts : List Act) (act : Act) :
    s.attemptAll (acts ++ [act]) = ((s.attemptAll acts).attempt act).2 := by
  rw [attemptAll, List.foldl_append]
  rfl

/-! What is told. -/

theorem get?_tell (generation : Nat) (records : Keyed Text (List Nat)) (listener : Text) :
    ((tell generation records listener).get? l).getD [] =
      (records.get? l).getD [] ++ if listener = l then [generation] else [] := by
  rw [tell, Keyed.get?_set]
  by_cases h : listener = l
  · subst h
    rw [if_pos rfl, if_pos rfl]
    rfl
  · rw [if_neg (Ne.symm h), if_neg h, List.append_nil]

theorem get?_tellAll (generation : Nat) (listeners : List Text) (records : Keyed Text (List Nat)) :
    ((listeners.foldl (tell generation) records).get? l).getD [] =
      (records.get? l).getD [] ++ List.replicate (listeners.count l) generation := by
  induction listeners generalizing records with
  | nil => exact (List.append_nil _).symm
  | cons listener rest ih =>
    rw [List.foldl_cons, ih, get?_tell, List.append_assoc, List.count_cons]
    by_cases h : listener = l
    · rw [if_pos h, if_pos (beq_iff_eq.mpr h), List.replicate_succ]
      rfl
    · rw [if_neg h, if_neg fun heq => h (beq_iff_eq.mp heq)]
      rfl

theorem get?_setNew_nil (records : Keyed Text (List Nat)) (listener : Text) :
    ((records.setNew listener []).get? l).getD [] = (records.get? l).getD [] := by
  rw [Keyed.get?_setNew]
  split
  · rename_i h
    rw [h]
    rfl
  · rfl

theorem change_eq (s : Mapper) (c : Change) : s.change c = s.changed (s.registry.change c) := by
  cases c <;> rfl

theorem recordOf_change (s : Mapper) (c : Change) (l : Text) :
    (s.change c).recordOf l =
      s.recordOf l ++ List.replicate (s.listeners.count l) (s.generation + 1) := by
  rw [change_eq]
  exact get?_tellAll _ _ _

/-! What one act does. -/

theorem run_kept {conversion : Recall Text} {t : Text} (h : s.run conversion = .ok (t, v)) :
    ∃ caches, v = { s with caches } := by
  unfold run at h
  split at h
  · cases h
    exact ⟨_, rfl⟩
  · cases h

theorem isBuiltin_kept (s : Mapper) (t : Text) : ∃ caches, (s.isBuiltin t).2 = { s with caches } := by
  unfold isBuiltin
  split
  · exact ⟨s.caches, rfl⟩
  · exact ⟨_, rfl⟩

/-- A question leaves its mark on nothing but what is remembered. -/
theorem answer_kept {depth : Nat} {q : Query} {a : Answer} (h : s.answer depth q = .ok (a, v)) :
    ∃ caches, v = { s with caches } := by
  cases q with
  | convert raw =>
    obtain ⟨⟨t, w⟩, hrun, heq⟩ := ok_of_map h
    cases heq
    exact run_kept hrun
  | canConvert raw =>
    cases h
    exact ⟨_, rfl⟩
  | typeInfo raw =>
    obtain ⟨⟨i, w⟩, hinfo, heq⟩ := ok_of_map h
    cases heq
    obtain ⟨⟨t, w⟩, hrun, heq⟩ := ok_of_bind hinfo
    cases heq
    obtain ⟨caches, rfl⟩ := run_kept hrun
    exact ⟨caches, rfl⟩
  | isBuiltin t =>
    cases h
    exact isBuiltin_kept s t
  | genericRule t =>
    cases h
    exact ⟨_, rfl⟩
  | resolveGenerics t =>
    obtain ⟨⟨t, w⟩, hrun, heq⟩ := ok_of_map h
    cases heq
    exact run_kept hrun

theorem unlisten_of_mem (h : l ∈ s.listeners) : s.unlisten l =
    (.ok (), { s with
      listeners := s.listeners.erase l, records := s.records.setNew l [] }) :=
  if_pos (List.contains_iff_mem.mpr h)

theorem unlisten_of_not_mem (h : l ∉ s.listeners) : s.unlisten l =
    (.error .notListening, { s with records := s.records.setNew l [] }) :=
  if_neg fun hl => h (List.contains_iff_mem.mp hl)

theorem settle_map_of_some {α : Type} {x : Except MapperError α} {a : α}
    (h : x.toOption = some a) (f : α → Mapper) : s.settle (x.map f) = (.ok (), f a) := by
  rw [ok_of_toOption h]
  rfl

theorem settle_map_of_none {α : Type} {x : Except MapperError α} (h : x.toOption = none)
    (f : α → Mapper) : (s.settle (x.map f)).2 = s := by
  cases x with
  | ok a => cases h
  | error e => rfl

theorem attempt_of_change {c : Change} (h : act.change? = some c) :
    s.attempt act = (.ok (), s.change c) := by
  cases act with
  | change c' =>
    cases h
    rfl
  | load v =>
    obtain ⟨config, hcheck, rfl⟩ := Option.map_eq_some_iff.mp h
    exact settle_map_of_some hcheck s.load
  | register v =>
    obtain ⟨d, hcheck, rfl⟩ := Option.map_eq_some_iff.mp h
    exact settle_map_of_some hcheck s.register
  | addRule v =>
    obtain ⟨rule, hcheck, rfl⟩ := Option.map_eq_some_iff.mp h
    exact settle_map_of_some hcheck s.addRule
  | ask depth q => cases h
  | listen l => cases h
  | unlisten l => cases h

/-- The registry and the counters of `v` are those of `s`, and no listener has been told anything. -/
structure Silent (s v : Mapper) : Prop where
  registry : v.registry = s.registry
  generation : v.generation = s.generation
  invalidations : v.invalidations = s.invalidations
  recordOf : ∀ l, v.recordOf l = s.recordOf l

theorem Silent.refl (s : Mapper) : s.Silent s := ⟨rfl, rfl, rfl, fun _ => rfl⟩

theorem silent_unlisten (s : Mapper) (l : Text) :
    s.Silent (s.unlisten l).2 ∧ (s.unlisten l).2.listeners = s.listeners.erase l := by
  by_cases h : l ∈ s.listeners
  · rw [unlisten_of_mem h]
    exact ⟨⟨rfl, rfl, rfl, fun _ => get?_setNew_nil _ _⟩, rfl⟩
  · rw [unlisten_of_not_mem h, List.erase_of_not_mem h]
    exact ⟨⟨rfl, rfl, rfl, fun _ => get?_setNew_nil _ _⟩, rfl⟩

theorem silent_attempt (h : act.change? = none) :
    s.Silent (s.attempt act).2 ∧ (s.attempt act).2.listeners = act.enrol s.listeners := by
  cases act with
  | ask depth q =>
    rw [attempt]
    cases hanswer : s.answer depth q with
    | error e => exact ⟨.refl s, rfl⟩
    | ok p =>
      obtain ⟨caches, hp⟩ := answer_kept hanswer
      change s.Silent p.2 ∧ p.2.listeners = s.listeners
      rw [hp]
      exact ⟨⟨rfl, rfl, rfl, fun _ => rfl⟩, rfl⟩
  | change c => cases h
  | load v =>
    rw [attempt, loadJson, settle_map_of_none (Option.map_eq_none_iff.mp h)]
    exact ⟨.refl s, rfl⟩
  | register v =>
    rw [attempt, registerJson, settle_map_of_none (Option.map_eq_none_iff.mp h)]
    exact ⟨.refl s, rfl⟩
  | addRule v =>
    rw [attempt, addRuleJson, settle_map_of_none (Option.map_eq_none_iff.mp h)]
    exact ⟨.refl s, rfl⟩
  | listen l => exact ⟨⟨rfl, rfl, rfl, fun _ => get?_setNew_nil _ _⟩, rfl⟩
  | unlisten l => exact silent_unlisten s l

/-! What fails. -/

def fault? {α : Type} : Except MapperError α → Option MapperError
  | .ok _ => none
  | .error e => some e

/-- Why an act fails: a question nests too deeply, a document is unfit or a listener is not
registered. -/
def refusal? (s : Mapper) : Act → Option MapperError
  | .ask depth q => fault? (s.answer depth q)
  | .load v => fault? (ofChecked (MappingConfig.check v))
  | .register v => fault? (ofChecked (Definition.check v))
  | .addRule v => fault? (ofChecked (CustomRule.check v))
  | .unlisten l => if s.listeners.contains l then none else some .notListening
  | .change _ | .listen _ => none

theorem refusal?_of_mem (h : l ∈ s.listeners) : s.refusal? (.unlisten l) = none :=
  if_pos (List.contains_iff_mem.mpr h)

theorem refusal?_of_not_mem (h : l ∉ s.listeners) :
    s.refusal? (.unlisten l) = some .notListening :=
  if_neg fun hl => h (List.contains_iff_mem.mp hl)

theorem settle_map_of_fault {α : Type} {x : Except MapperError α} {e : MapperError}
    (h : fault? x = some e) (f : α → Mapper) : s.settle (x.map f) = (.error e, s) := by
  cases x with
  | ok a => cases h
  | error e' =>
    cases h
    rfl

theorem settle_map_of_no_fault {α : Type} {x : Except MapperError α} (h : fault? x = none)
    (f : α → Mapper) : (s.settle (x.map f)).1 = .ok () := by
  cases x with
  | ok a => rfl
  | error e => cases h

theorem attempt_of_no_refusal (h : s.refusal? act = none) : (s.attempt act).1 = .ok () := by
  cases act with
  | ask depth q => exact settle_map_of_no_fault h Prod.snd
  | change c => rfl
  | load v => exact settle_map_of_no_fault h s.load
  | register v => exact settle_map_of_no_fault h s.register
  | addRule v => exact settle_map_of_no_fault h s.addRule
  | listen l => rfl
  | unlisten l =>
    have hl : l ∈ s.listeners := by
      by_contra hl
      rw [refusal?_of_not_mem hl] at h
      cases h
    rw [attempt, unlisten_of_mem hl]

/-- What fails leaves everything as it is; a listener that was never heard of has an empty record
now. -/
theorem attempt_of_refusal {e : MapperError} (h : s.refusal? act = some e) :
    ∃ records, s.attempt act = (.error e, { s with records }) ∧
      ∀ l, (records.get? l).getD [] = s.recordOf l := by
  cases act with
  | ask depth q => exact ⟨s.records, settle_map_of_fault h Prod.snd, fun _ => rfl⟩
  | change c => cases h
  | load v => exact ⟨s.records, settle_map_of_fault h s.load, fun _ => rfl⟩
  | register v => exact ⟨s.records, settle_map_of_fault h s.register, fun _ => rfl⟩
  | addRule v => exact ⟨s.records, settle_map_of_fault h s.addRule, fun _ => rfl⟩
  | listen l => cases h
  | unlisten l =>
    by_cases hl : l ∈ s.listeners
    · rw [refusal?_of_mem hl] at h
      cases h
    · rw [refusal?_of_not_mem hl] at h
      cases h
      exact ⟨_, unlisten_of_not_mem hl, fun _ => get?_setNew_nil _ _⟩

/-! Whole runs. -/

/-- After some acts from `s` on: the registry is what the changes make of it, the registrations are
those made and not taken back, every change counts as one generation and one invalidation, and each
listener has been told of the changes as often as it was registered. -/
structure Announced (s : Mapper) (acts : List Act) (u : Mapper) : Prop where
  registry : u.registry = (changes acts).foldl Registry.change s.registry
  listeners : u.listeners = enrolled s.listeners acts
  generation : u.generation = s.generation + (changes acts).length
  invalidations : u.invalidations = s.invalidations + (changes acts).length
  recordOf : ∀ l, u.recordOf l = s.recordOf l ++ told s.listeners s.generation acts l

theorem Announced.nil (s : Mapper) : s.Announced [] s :=
  ⟨rfl, rfl, rfl, rfl, fun _ => (List.append_nil _).symm⟩

theorem Announced.concat (h : s.Announced acts v) (act : Act) :
    s.Announced (acts ++ [act]) (v.attempt act).2 := by
  have hchanges := Act.changes_concat acts act
  -- a change is announced and leaves the registrations; any other act is silent
  cases hchange : act.change? with
  | some c =>
    rw [hchange, Option.toList_some] at hchanges
    rw [attempt_of_change hchange, change_eq]
    refine ⟨?_, ?_, ?_, ?_, fun l => ?_⟩
    · rw [hchanges, List.foldl_append, ← h.registry]
      rfl
    · rw [Act.enrolled_concat, Act.enrol_of_change hchange, ← h.listeners]
      rfl
    · rw [hchanges, List.length_append, ← Nat.add_assoc, ← h.generation]
      rfl
    · rw [hchanges, List.length_append, ← Nat.add_assoc, ← h.invalidations]
      rfl
    · rw [← change_eq, recordOf_change, h.recordOf, h.listeners, h.generation, Act.told_concat,
        hchange, List.append_assoc]
      rfl
  | none =>
    obtain ⟨hsilent, hlisteners⟩ := silent_attempt (s := v) hchange
    rw [hchange, Option.toList_none, List.append_nil] at hchanges
    refine ⟨?_, ?_, ?_, ?_, fun l => ?_⟩
    · rw [hsilent.registry, h.registry, hchanges]
    · rw [hlisteners, h.listeners, Act.enrolled_concat]
    · rw [hsilent.generation, h.generation, hchanges]
    · rw [hsilent.invalidations, h.invalidations, hchanges]
    · rw [hsilent.recordOf, h.recordOf, Act.told_concat, hchange]
      exact congrArg (s.recordOf l ++ ·) (List.append_nil _).symm

theorem announced_attemptAll (s : Mapper) (acts : List Act) :
    s.Announced acts (s.attemptAll acts) := by
  -- from the end: what is told of an act depends on the acts before it, not on those behind
  induction acts using List.reverseRecOn with
  | nil => exact .nil s
  | append_singleton acts act ih =>
    rw [attemptAll_concat]
    exact ih.concat act

end Mapper

/-- Whatever is attempted, whether or not it fails, each change is announced once: it is one more
generation, and those registered at that moment are told its number in the order of their
registrations. So a listener has been told of the changes as often as it was registered when they
were made, one that is always registered once of every generation in turn, and a mapper has
dropped what it remembers once for each generation since it began. What fails leaves no trace. -/
theorem changes_announced (s : Mapper) (acts : List Act) (u : Mapper)
    (hrun : s.attemptAll acts = u) :
    s.Announced acts u ∧
    (∀ r generation, s = .attach r generation → u.invalidations = u.generation - generation) ∧
    (∀ l, (∀ k ≤ acts.length, (Act.enrolled s.listeners (acts.take k)).count l = 1) →
      u.recordOf l = s.recordOf l ++
        List.range' (s.generation + 1) (u.generation - s.generation)) ∧
    (∀ act c, act.change? = some c → u.attempt act = (.ok (), u.change c) ∧
      (u.change c).generation = u.generation + 1 ∧
      (u.change c).records = u.listeners.foldl (Mapper.tell (u.generation + 1)) u.records) ∧
    (∀ act, u.refusal? act = none → (u.attempt act).1 = .ok ()) ∧
    ∀ act e, u.refusal? act = some e → ∃ records,
      u.attempt act = (.error e, { u with records }) ∧
        ∀ l, (records.get? l).getD [] = u.recordOf l := by
  have hannounced : s.Announced acts u := hrun ▸ Mapper.announced_attemptAll s acts
  refine ⟨hannounced, ?_, fun l hl => ?_, fun act c hchange => ?_,
    fun act => Mapper.attempt_of_no_refusal, fun act e => Mapper.attempt_of_refusal⟩
  · rintro r generation rfl
    have hinvalidations := hannounced.invalidations
    have hgeneration := hannounced.generation
    simp only [Mapper.attach] at hinvalidations hgeneration
    omega
  · rw [hannounced.recordOf, Act.told_of_count_one hl, hannounced.generation,
      Nat.add_sub_cancel_left]
  · refine ⟨Mapper.attempt_of_change hchange, ?_, ?_⟩
    · rw [Mapper.change_eq]
      rfl
    · rw [Mapper.change_eq]
      rfl

namespace Sample

def heard : Mapper := ((Mapper.attach .empty 0).listen "a").listen "b"

/-- Three changes, the second of a definition that is fit; between them a second registration, and
one taken back that was never made. -/
def acts : List Act :=
  [.listen "a", .change .clearCache, .register .null, .unlisten "a", .unlisten "c",
    .register (.object [("name", .text "N"), ("targetType", .text "n"), ("category", .text "c")]),
    .ask 1 (.isBuiltin "N"), .unlisten "a", .change .clearCache]

end Sample

/-- One listener is told of the first change twice and of the last one no more. -/
theorem changes_announced_sample :
    let u := Sample.heard.attemptAll Sample.acts
    u.recordOf "a" = [1, 1, 2] ∧ u.recordOf "b" = [1, 2, 3] ∧ u.generation = 3 ∧
      (u.attempt (.change .clearCache)).2.generation = 4 ∧
      ∃ records, u.attempt (.unlisten "a") = (.error .notListening, { u with records }) := by
  intro u
  obtain ⟨hannounced, -, honce, hchange, -, hrefused⟩ :=
    changes_announced Sample.heard Sample.acts u rfl
  have hgeneration : u.generation = 3 := hannounced.generation.trans (by decide)
  have hlisteners : "a".toList ∉ u.listeners := by
    rw [hannounced.listeners]
    decide
  obtain ⟨hattempt, hnext, -⟩ := hchange (.change .clearCache) .clearCache rfl
  obtain ⟨records, hrefused, -⟩ := hrefused _ _ (Mapper.refusal?_of_not_mem hlisteners)
  refine ⟨(hannounced.recordOf "a").trans (by decide), ?_, hgeneration, ?_, records,
    hrefused⟩
  · rw [honce "b" (by decide), hgeneration]
    decide
  · rw [hattempt, hnext, hgeneration]

end TypeAtlas
