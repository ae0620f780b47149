import TypeAtlas.Proofs.Signature.Cleaning
import TypeAtlas.Proofs.Signature.RoundTrip

/-!
Canonical names taken again. The canonical name of a signature is its own. Text that is no signature
is only cleaned, and what comes of it may be a signature, or may hold a `const` whose parts a mark
had kept apart. Three steps are enough for every text; two are not.
-/

namespace TypeAtlas

namespace Text

/-! Runs of characters. -/

theorem runsFrom_append_cons {p : Char → Bool} {c : Char} (hc : p c = false) (run a b : Text) :
    runsFrom p run (a ++ c :: b) = runsFrom p run a ++ runs p b := by
  induction a generalizing run with
  | nil => simp [runsFrom, runs, hc]
  | cons d a ih =>
    rw [List.cons_append, runsFrom, runsFrom]
    split
    · exact ih (d :: run)
    · rw [ih, List.append_assoc]

theorem runsFrom_of_forall {p : Char → Bool} {w : Text} (h : ∀ c ∈ w, p c = true) (run : Text) :
    runsFrom p run w = closeRun (w.reverse ++ run) := by
  induction w generalizing run with
  | nil => rfl
  | cons c w ih =>
    rw [runsFrom, if_pos (h c List.mem_cons_self), ih fun d hd => h d (List.mem_cons_of_mem c hd),
      List.reverse_cons, List.append_assoc, List.singleton_append]

theorem mem_of_mem_runsFrom {p : Char → Bool} {run t w : Text} (hw : w ∈ runsFrom p run t) :
    ∀ c ∈ w, c ∈ run ∨ c ∈ t := by
  have hclose {run w : Text} (hw : w ∈ closeRun run) : ∀ c ∈ w, c ∈ run := by
    intro c hc
    unfold closeRun at hw
    split at hw
    · cases hw
    · rw [List.mem_singleton.mp hw] at hc
      exact List.mem_reverse.mp hc
  induction t generalizing run with
  | nil => exact fun c hc => .inl (hclose hw c hc)
  | cons d t ih =>
    rw [runsFrom] at hw
    intro c hc
    split at hw
    · have := ih hw c hc
      simp only [List.mem_cons] at this ⊢
      tauto
    · rcases List.mem_append.mp hw with hw | hw
      · exact .inl (hclose hw c hc)
      · exact .inr (List.mem_cons_of_mem d ((ih hw c hc).resolve_left List.not_mem_nil))

/-! Collapsed blanks. -/

theorem mem_of_mem_join {separator : Text} {parts : List Text} {c : Char}
    (h : c ∈ join separator parts) : c ∈ separator ∨ ∃ part ∈ parts, c ∈ part := by
  match parts with
  | [] => cases h
  | [part] => exact .inr ⟨part, List.mem_cons_self, by simpa [join] using h⟩
  | part :: next :: parts =>
    rw [join_cons_cons, List.mem_append, List.mem_append] at h
    rcases h with h | h | h
    · exact .inr ⟨part, List.mem_cons_self, h⟩
    · exact .inl h
    · obtain hc | ⟨other, hother, hc⟩ := mem_of_mem_join h
      · exact .inl hc
      · exact .inr ⟨other, List.mem_cons_of_mem part hother, hc⟩

theorem mem_of_mem_collapse {t : Text} {c : Char} (h : c ∈ collapse t) : c = ' ' ∨ c ∈ t := by
  rcases mem_of_mem_join h with h | ⟨word, hword, hc⟩
  · exact .inl (List.mem_singleton.mp h)
  · exact .inr ((mem_of_mem_runsFrom hword c hc).resolve_left List.not_mem_nil)

section Collapse

variable {p : Char → Bool} (hp : ∀ c, isBlank c = true → p c = false)
include hp

theorem runs_join (parts : List Text) :
    runs p (join " " parts) = parts.flatMap (runs p) := by
  match parts with
  | [] => rfl
  | [part] => simp [join]
  | part :: next :: parts =>
    have hrest := runs_join (next :: parts)
    rw [join_cons_cons]
    change runs p (part ++ ' ' :: join " " (next :: parts)) = _
    rw [List.flatMap_cons, ← hrest]
    exact runsFrom_append_cons (hp ' ' (by decide)) [] part _

theorem flatMap_words (t : Text) : (words t).flatMap (runs p) = runs p t := by
  suffices h : ∀ run : Text, (runsFrom (fun c => !isBlank c) run t).flatMap (runs p) =
      runs p (run.reverse ++ t) from h []
  have hclose (run : Text) : (closeRun run).flatMap (runs p) = runs p run.reverse := by
    cases run with
    | nil => rfl
    | cons c run => simp [closeRun]
  induction t with
  | nil =>
    intro run
    rw [List.append_nil]
    exact hclose run
  | cons c t ih =>
    intro run
    rw [runsFrom]
    split
    · rw [ih, List.reverse_cons, List.append_assoc, List.singleton_append]
    · rename_i hblank
      have hc : p c = false := hp c (by simpa using hblank)
      rw [List.flatMap_append, hclose, ih]
      exact (runsFrom_append_cons hc [] run.reverse t).symm

/-- Runs without blanks are those of the collapsed text. -/
theorem runs_collapse (t : Text) : runs p (collapse t) = runs p t :=
  (runs_join hp (words t)).trans (flatMap_words hp t)

end Collapse

theorem wordRuns_collapse (t : Text) : wordRuns (collapse t) = wordRuns t :=
  runs_collapse (fun _ => isWord_of_isBlank) t

theorem collapse_collapse (t : Text) : collapse (collapse t) = collapse t := by
  have hwords : words (collapse t) = words t := runs_collapse (by simp) t
  rw [collapse, hwords, collapse]

/-! Words that are taken out. -/

theorem mem_of_mem_eraseWordsFrom {erased : List Text} {run t : Text} {c : Char}
    (h : c ∈ eraseWordsFrom erased run t) : c ∈ run ∨ c ∈ t := by
  have hkept {run : Text} (h : c ∈ if run.reverse ∈ erased then [] else run.reverse) :
      c ∈ run := by
    split at h
    · cases h
    · exact List.mem_reverse.mp h
  induction t generalizing run with
  | nil => exact .inl (hkept h)
  | cons d t ih =>
    rw [eraseWordsFrom] at h
    split at h
    · have := ih h
      simp only [List.mem_cons] at this ⊢
      tauto
    · rcases List.mem_append.mp h with h | h
      · exact .inl (hkept h)
      · rcases List.mem_cons.mp h with rfl | h
        · exact .inr List.mem_cons_self
        · exact .inr (List.mem_cons_of_mem d ((ih h).resolve_left List.not_mem_nil))

theorem filter_closeRun (erased : List Text) (run : Text) :
    (closeRun run).filter (fun w => w ∉ erased) =
      if run.reverse ∈ erased then [] else closeRun run := by
  cases run with
  | nil => exact (ite_self _).symm
  | cons c run =>
    have hclose : closeRun (c :: run) = [(c :: run).reverse] := rfl
    rw [hclose]
    split
    · rename_i herased
      simpa using herased
    · rename_i hstays
      simpa using hstays

theorem wordRuns_eraseWordsFrom (erased : List Text) (run : Text)
    (hrun : ∀ c ∈ run, isWord c = true) (t : Text) :
    wordRuns (eraseWordsFrom erased run t) =
      (runsFrom isWord run t).filter fun w => w ∉ erased := by
  have hkept {run : Text} (hrun : ∀ c ∈ run, isWord c = true) :
      wordRuns (eraseWordsFrom erased run []) = (closeRun run).filter fun w => w ∉ erased := by
    rw [eraseWordsFrom, filter_closeRun]
    split
    · rfl
    · have hword : ∀ c ∈ run.reverse, isWord c = true := fun c hc => hrun c (List.mem_reverse.mp hc)
      rw [wordRuns, runs, runsFrom_of_forall hword, List.reverse_reverse, List.append_nil]
  induction t generalizing run with
  | nil => exact hkept hrun
  | cons c t ih =>
    cases hc : isWord c with
    | true =>
      rw [eraseWordsFrom_word_cons erased run hc, runsFrom, if_pos hc]
      exact ih (c :: run) (List.forall_mem_cons.mpr ⟨hc, hrun⟩)
    | false =>
      have hrest := ih [] (List.forall_mem_nil _)
      rw [eraseWordsFrom_cons erased run hc, runsFrom, if_neg (by simp [hc]), List.filter_append,
        ← hkept hrun, ← hrest]
      exact runsFrom_append_cons hc [] _ _

/-- Taking words out leaves the other words, and makes no new ones. -/
theorem wordRuns_eraseWords (erased : List Text) (t : Text) :
    wordRuns (eraseWords erased t) = (wordRuns t).filter fun w => w ∉ erased :=
  wordRuns_eraseWordsFrom erased [] (List.forall_mem_nil _) t

theorem eraseWords_eq_self {erased : List Text} {t : Text} (h : ∀ w ∈ wordRuns t, w ∉ erased) :
    eraseWords erased t = t := by
  suffices hfrom : ∀ run : Text, (∀ w ∈ runsFrom isWord run t, w ∉ erased) →
      eraseWordsFrom erased run t = run.reverse ++ t from hfrom [] h
  have hkept {run : Text} (h : ∀ w ∈ closeRun run, w ∉ erased) :
      (if run.reverse ∈ erased then [] else run.reverse) = run.reverse := by
    cases run with
    | nil => exact ite_self _
    | cons c run => exact if_neg (h _ (by simp [closeRun]))
  clear h
  induction t with
  | nil =>
    intro run h
    rw [eraseWordsFrom, hkept h, List.append_nil]
  | cons c t ih =>
    intro run h
    rw [runsFrom] at h
    rw [eraseWordsFrom]
    split
    · rename_i hc
      rw [if_pos hc] at h
      rw [ih _ h, List.reverse_cons, List.append_assoc, List.singleton_append]
    · rename_i hc
      rw [if_neg hc, List.forall_mem_append] at h
      rw [hkept h.1, ih [] h.2]
      rfl

end Text

/-! Cleaning again. -/

/-- No mark of a pointer or a reference. -/
def Unmarked (t : Text) : Prop := ∀ c ∈ t, c ≠ '&' ∧ c ≠ '*'

theorem Unmarked.filter_eq {t : Text} (h : Unmarked t) :
    (t.filter fun c => c != '&' && c != '*') = t :=
  List.filter_eq_self.mpr fun c hc => by simp [h c hc]

theorem Unmarked.eraseWords {t : Text} (h : Unmarked t) (erased : List Text) :
    Unmarked (t.eraseWords erased) :=
  fun c hc => h c ((Text.mem_of_mem_eraseWordsFrom hc).resolve_left List.not_mem_nil)

theorem unmarked_cleaned (t : Text) : Unmarked (cleaned t) := by
  intro c hc
  rcases Text.mem_of_mem_collapse hc with rfl | hc
  · decide
  · simpa using (List.mem_filter.mp hc).2

theorem Unmarked.wordRuns_cleaned {t : Text} (h : Unmarked t) :
    (cleaned t).wordRuns = t.wordRuns.filter fun w => w ∉ ["const".toList] := by
  rw [cleaned, Text.wordRuns_collapse, (h.eraseWords _).filter_eq, Text.wordRuns_eraseWords]

/-- A cleaned text is cleaned for good if no `const` is left in it. -/
theorem cleaned_cleaned_iff (t : Text) :
    cleaned (cleaned t) = cleaned t ↔ "const".toList ∉ (cleaned t).wordRuns := by
  have hunmarked := unmarked_cleaned t
  constructor
  · intro heq hconst
    have hruns := hunmarked.wordRuns_cleaned
    rw [heq] at hruns
    rw [hruns] at hconst
    simpa using (List.mem_filter.mp hconst).2
  · intro hconst
    have herase : (cleaned t).eraseWords ["const"] = cleaned t := by
      apply Text.eraseWords_eq_self
      rintro w hw hmem
      exact hconst (List.mem_singleton.mp hmem ▸ hw)
    rw [cleaned.eq_1 (cleaned t), herase, hunmarked.filter_eq]
    exact Text.collapse_collapse _

/-- A mark that is taken out may leave a `const`, but only once. -/
theorem cleaned_twice (t : Text) : cleaned (cleaned (cleaned t)) = cleaned (cleaned t) := by
  rw [cleaned_cleaned_iff, (unmarked_cleaned t).wordRuns_cleaned]
  simp

/-! Canonical names again. -/

theorem normalize_of_parse? {t : Text} {tree : TypeTree} (h : parse? t = some tree) :
    normalize t = tree.fullName ∧ normalize (normalize t) = normalize t := by
  have hname : normalize t = tree.fullName := by simp only [normalize, h]
  refine ⟨hname, ?_⟩
  rw [hname, normalize, parse?_fullName (named_of_parse? h)]
  exact tree.fullName_bare

theorem normalize_of_none {t : Text} (h : parse? t = none) : normalize t = cleaned t := by
  simp only [normalize, h]

/-- What a text was cleaned to stays as it is: a canonical name, or no signature and without
`const`. -/
def Settled (t : Text) : Prop :=
  match parse? t with
  | some tree => tree.fullName = t
  | none => "const".toList ∉ t.wordRuns

theorem normalize_cleaned_iff (t : Text) :
    normalize (cleaned t) = cleaned t ↔ Settled (cleaned t) := by
  unfold Settled
  cases h : parse? (cleaned t) with
  | none => rw [normalize_of_none h, cleaned_cleaned_iff]
  | some tree => rw [(normalize_of_parse? h).1]

theorem normalize_normalize_iff (t : Text) :
    normalize (normalize t) = normalize t ↔ (parse? t).isSome ∨ Settled (cleaned t) := by
  cases h : parse? t with
  | none =>
    rw [normalize_of_none h, normalize_cleaned_iff]
    simp
  | some tree => simp [(normalize_of_parse? h).2]

theorem normalize_thrice (t : Text) :
    normalize (normalize (normalize (normalize t))) = normalize (normalize (normalize t)) := by
  cases h : parse? t with
  | some tree => simp only [(normalize_of_parse? h).2]
  | none =>
    rw [normalize_of_none h]
    cases hcleaned : parse? (cleaned t) with
    | some tree => simp only [(normalize_of_parse? hcleaned).2]
    | none =>
      rw [normalize_of_none hcleaned]
      cases htwice : parse? (cleaned (cleaned t)) with
      | some tree => exact (normalize_of_parse? htwice).2
      | none => rw [normalize_of_none htwice, cleaned_twice, normalize_of_none htwice, cleaned_twice]

/-- The canonical name of a text is its own if the text is a signature; if it is none, just when
what it is cleaned to is settled: a canonical name, or no signature and without `const`. The third
canonical name is always its own. -/
theorem normalize_settles (t : Text) :
    (normalize (normalize t) = normalize t ↔ (parse? t).isSome ∨ Settled (cleaned t)) ∧
      normalize (normalize (normalize (normalize t))) = normalize (normalize (normalize t)) :=
  ⟨normalize_normalize_iff t, normalize_thrice t⟩

/-- A text whose second canonical name is not its own either. -/
example : let t : Text := "&con&st con&st Pair<a,b>"
    normalize (normalize (normalize t)) ≠ normalize (normalize t) := by decide +kernel

/-- The mark between the parts of a `const` is taken out after the words, so that the `const` is left
for the next time; and a mark before a signature is taken out, but the signature is not read. -/
theorem normalize_unsettled :
    (normalize "@con&st" = "@const".toList ∧ normalize "@const" = "@".toList) ∧
      (normalize "*Pair<A,B>" = "Pair<A,B>".toList ∧
        normalize "Pair<A,B>" = "Pair<A, B>".toList) ∧
      ¬ ∀ t : Text, normalize (normalize t) = normalize t := by
  have honce : normalize "@con&st" = "@const".toList := by decide +kernel
  have htwice : normalize "@const" = "@".toList := by decide +kernel
  refine ⟨⟨honce, htwice⟩, ⟨by decide +kernel, by decide +kernel⟩, ?_⟩
  intro h
  have hsame := h "@con&st"
  rw [honce, htwice] at hsame
  exact absurd hsame (by decide)

end TypeAtlas
