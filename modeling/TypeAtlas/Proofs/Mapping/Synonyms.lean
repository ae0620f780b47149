import Mathlib.Data.Nat.Basic
import TypeAtlas.Proofs.Mapping.History
import TypeAtlas.Proofs.Mapping.Structural

/-!
Texts of one canonical name. All questions about the type of a text see of it only its canonical
name, so mappers on one registry answer alike on all such texts, whatever each of them remembers.
-/

namespace TypeAtlas

/-- The questions about the type of a text. -/
def Query.typing : List (Text → Query) := [.convert, .canConvert, .typeInfo, .isBuiltin]

namespace Registry

variable {r : Registry} {raw raw' : Text}

theorem convert_congr (h : normalize raw = normalize raw') (n : Nat) :
    r.convert n raw = r.convert n raw' := by
  cases n with
  | zero => rfl
  | succ n => simp only [convert, convertStep, h]

theorem canConvert_congr (h : normalize raw = normalize raw') :
    r.canConvert raw = r.canConvert raw' := by
  simp only [canConvert, canConvertStep, h]

theorem definitionOf?_congr (h : normalize raw = normalize raw') :
    r.definitionOf? raw = r.definitionOf? raw' := by
  simp only [definitionOf?, h]

theorem answer_congr (h : normalize raw = normalize raw')
    (hbuiltin : r.isBuiltin raw = r.isBuiltin raw') {ask : Text → Query} (hask : ask ∈ Query.typing)
    (n : Nat) : r.answer n (ask raw) = r.answer n (ask raw') := by
  simp only [Query.typing, List.mem_cons, List.not_mem_nil, or_false] at hask
  rcases hask with rfl | rfl | rfl | rfl
  · simp only [answer, convert_congr h]
  · simp only [answer, canConvert_congr h]
  · simp only [answer, infoOf, convert_congr h, canConvert_congr h, definitionOf?_congr h]
  · simp only [answer, hbuiltin]

/-- Where a conversion ends, every question about the text has one answer at every greater depth. -/
theorem answer_of_convert {n : Nat} {target : Text} (h : r.convert n raw = some target)
    {ask : Text → Query} (hask : ask ∈ Query.typing) :
    ∃ a, ∀ k, n ≤ k → r.answer k (ask raw) = some a := by
  simp only [Query.typing, List.mem_cons, List.not_mem_nil, or_false] at hask
  rcases hask with rfl | rfl | rfl | rfl
  · exact ⟨.text target, fun k hk => by rw [answer, convert_mono hk h]; rfl⟩
  · exact ⟨.truth (r.canConvert raw), fun k _ => rfl⟩
  · exact ⟨.info (r.infoOf (r.canConvert raw) raw target),
      fun k hk => by rw [answer, convert_mono hk h]; rfl⟩
  · exact ⟨.truth (r.isBuiltin raw), fun k _ => rfl⟩

end Registry

/-- A mapper gives the answer that its registry has for a question from some depth on, at each of
these depths, and gives no other answer at any depth. -/
theorem Mapper.Reached.answers {v : Mapper} (hv : v.Reached) {q : Query} {n : Nat} {a : Answer}
    (h : ∀ k, n ≤ k → v.registry.answer k q = some a) :
    (∀ k, n ≤ k → ∃ w, v.answer k q = .ok (a, w)) ∧
      ∀ k b w, v.answer k q = .ok (b, w) → b = a := by
  constructor
  · intro k hk
    exact (answer_mirrors hv.on k q).complete a (h k hk)
  · intro k b w hanswer
    exact ((answer_mirrors hv.on k q).sound b w hanswer).1.unique ⟨n, h⟩

/-- On two signatures with one canonical name, and on that name, every mapper that came to a
registry gives one and the same answer to each question about the type, whatever it was asked
before: at every depth at which the conversion ends, and at no depth another one. -/
theorem answers_by_name (r : Registry) (raw raw' : Text) (t t' : TypeTree)
    (hparse : parse? raw = some t) (hparse' : parse? raw' = some t')
    (hname : t.fullName = t'.fullName) (n : Nat) (target : Text)
    (hends : r.convert n raw = some target) (ask : Text → Query) (hask : ask ∈ Query.typing) :
    ∃ a, ∀ text ∈ [raw, raw', t.fullName], ∀ v : Mapper, v.Reached → v.registry = r →
      (∀ k, n ≤ k → ∃ w, v.answer k (ask text) = .ok (a, w)) ∧
        ∀ k b w, v.answer k (ask text) = .ok (b, w) → b = a := by
  obtain ⟨a, ha⟩ := Registry.answer_of_convert hends hask
  -- every text with the canonical name is asked about as the first one is
  have hfull := Registry.normalize_fullName (named_of_parse? hparse)
  have halike : ∀ text ∈ [raw, raw', t.fullName],
      normalize raw = normalize text ∧ r.isBuiltin raw = r.isBuiltin text := by
    intro text htext
    have hraw : normalize raw = t.fullName := by rw [normalize, hparse]
    have hbuiltin : r.isBuiltin raw = r.isBuiltin t.fullName := Registry.isBuiltin_of_bare hparse
    simp only [List.mem_cons, List.not_mem_nil, or_false] at htext
    rcases htext with rfl | rfl | rfl
    · exact ⟨rfl, rfl⟩
    · rw [hraw, hbuiltin, Registry.isBuiltin_of_bare hparse', normalize, hparse', hname]
      exact ⟨rfl, rfl⟩
    · exact ⟨hraw.trans hfull.symm, hbuiltin⟩
  refine ⟨a, fun text htext v hv hr => hv.answers fun k hk => ?_⟩
  obtain ⟨hnormal, hbuiltin⟩ := halike text htext
  rw [hr, ← Registry.answer_congr hnormal hbuiltin hask]
  exact ha k hk

namespace Sample

/-- The sample signature with other blanks, qualifiers and sizes, and a dot for the scope. -/
def respelled : Text := "List< ns.Pair<const Name, int [ 3 ]>&>[7] const"

end Sample

/-- A new mapper is asked about the one signature; another one, which has converted the other
signature before, is asked about that. -/
theorem answers_by_name_sample : ∃ t t' a u v w,
    parse? Sample.signature = some t ∧ parse? Sample.respelled = some t' ∧
    t.fullName = t'.fullName ∧
    (Mapper.attach Sample.names 1).answer 3 (.typeInfo Sample.signature) = .ok (a, v) ∧
    (Mapper.attach Sample.names 2).performAll [.ask 3 (.convert Sample.respelled)] = .ok u ∧
    u.answer 3 (.typeInfo Sample.respelled) = .ok (a, w) := by
  obtain ⟨t, hparse⟩ := Option.isSome_iff_exists.mp
    (show (parse? Sample.signature).isSome by decide +kernel)
  obtain ⟨t', hparse'⟩ := Option.isSome_iff_exists.mp
    (show (parse? Sample.respelled).isSome by decide +kernel)
  have hname : (parse? Sample.signature).map TypeTree.fullName =
      (parse? Sample.respelled).map TypeTree.fullName := by decide +kernel
  rw [hparse, hparse'] at hname
  replace hname : t.fullName = t'.fullName := Option.some.inj hname
  obtain ⟨u, hrun⟩ : ∃ u, (Mapper.attach Sample.names 2).performAll
      [.ask 3 (.convert Sample.respelled)] = .ok u := exists_ok_of_isSome (by decide +kernel)
  have hu : u.registry = Sample.names := Mapper.registry_performAll (Mapper.on_attach _ 2) hrun
  have hends : Sample.names.convert 3 Sample.signature = some "lib.Pair<string, int[]>[][]" := by
    decide +kernel
  obtain ⟨a, ha⟩ := answers_by_name Sample.names Sample.signature Sample.respelled t t' hparse
    hparse' hname 3 _ hends .typeInfo (by simp [Query.typing])
  obtain ⟨v, hv⟩ := (ha Sample.signature (by simp) (Mapper.attach Sample.names 1)
    ⟨_, _, [], rfl⟩ rfl).1 3 le_rfl
  obtain ⟨w, hw⟩ := (ha Sample.respelled (by simp) u ⟨_, _, _, hrun⟩ hu).1 3 le_rfl
  exact ⟨t, t', a, u, v, w, hparse, hparse', hname, hv, hrun, hw⟩

end TypeAtlas
