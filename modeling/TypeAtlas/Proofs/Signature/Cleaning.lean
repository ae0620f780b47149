import Mathlib.Data.List.Chain
import TypeAtlas.Proofs.Signature.Spelling
import TypeAtlas.Signature.Canonical

/-!
Cleaning takes nothing from a canonical name: it has no `const` and no mark, and its only blanks are
the single spaces behind the commas. Of any other text, cleaning never makes a longer one.
-/

namespace TypeAtlas

namespace Text

/-! Words that are taken out. -/

theorem eraseWordsFrom_nil (erased : List Text) : eraseWordsFrom erased [] [] = [] := ite_self []

theorem eraseWordsFrom_word_cons (erased : List Text) (run : Text) {c : Char} (h : isWord c = true)
    (t : Text) : eraseWordsFrom erased run (c :: t) = eraseWordsFrom erased (c :: run) t := if_pos h

theorem eraseWordsFrom_cons (erased : List Text) (run : Text) {c : Char} (h : isWord c = false)
    (t : Text) : eraseWordsFrom erased run (c :: t) =
      eraseWordsFrom erased run [] ++ c :: eraseWordsFrom erased [] t :=
  if_neg (Bool.eq_false_iff.mp h)

theorem eraseWords_cons (erased : List Text) {c : Char} (h : isWord c = false) (t : Text) :
    eraseWords erased (c :: t) = c :: eraseWords erased t := by
  rw [eraseWords, eraseWordsFrom_cons erased [] h, eraseWordsFrom_nil, List.nil_append, eraseWords]

theorem eraseWordsFrom_append (erased : List Text) (run a : Text) {b : Text} (h : Parted b) :
    eraseWordsFrom erased run (a ++ b) =
      eraseWordsFrom erased run a ++ eraseWordsFrom erased [] b := by
  induction a generalizing run with
  | nil =>
    cases b with
    | nil => rw [eraseWordsFrom_nil, List.append_nil, List.append_nil]
    | cons c b =>
      have hc : isWord c = false := h c rfl
      rw [List.nil_append, eraseWordsFrom_cons _ _ hc, eraseWordsFrom_cons _ [] hc,
        eraseWordsFrom_nil, List.nil_append]
  | cons c a ih =>
    rw [List.cons_append]
    cases hc : isWord c with
    | true => rw [eraseWordsFrom_word_cons _ _ hc, eraseWordsFrom_word_cons _ _ hc, ih]
    | false =>
      rw [eraseWordsFrom_cons _ _ hc, eraseWordsFrom_cons _ run hc a, ih, List.append_assoc,
        List.cons_append]

theorem eraseWordsFrom_word (erased : List Text) (run : Text) {w : Text}
    (h : ∀ c ∈ w, isWord c = true) :
    eraseWordsFrom erased run w =
      if run.reverse ++ w ∈ erased then [] else run.reverse ++ w := by
  induction w generalizing run with
  | nil =>
    rw [List.append_nil]
    rfl
  | cons c w ih =>
    rw [eraseWordsFrom_word_cons _ _ (h c List.mem_cons_self),
      ih (c :: run) fun d hd => h d (List.mem_cons_of_mem c hd), List.reverse_cons,
      List.append_assoc, List.singleton_append]

theorem length_eraseWordsFrom_le (erased : List Text) (run t : Text) :
    (eraseWordsFrom erased run t).length ≤ run.length + t.length := by
  have hrun (run : Text) : (eraseWordsFrom erased run []).length ≤ run.length := by
    change (if run.reverse ∈ erased then [] else run.reverse).length ≤ run.length
    split
    · exact Nat.zero_le _
    · exact Nat.le_of_eq List.length_reverse
  induction t generalizing run with
  | nil => exact hrun run
  | cons c t ih =>
    cases hc : isWord c with
    | true =>
      have := ih (c :: run)
      rw [eraseWordsFrom_word_cons _ _ hc]
      simp only [List.length_cons] at this ⊢
      omega
    | false =>
      have := hrun run
      have := ih []
      rw [eraseWordsFrom_cons _ _ hc]
      simp only [List.length_append, List.length_cons, List.length_nil] at this ⊢
      omega

/-! Words with a space between them. -/

theorem runsFrom_ne_nil {p : Char → Bool} {run : Text} (h : run ≠ []) (t : Text) :
    runsFrom p run t ≠ [] := by
  have hclose {run : Text} (h : run ≠ []) : closeRun run ≠ [] := by simp [closeRun, h]
  induction t generalizing run with
  | nil => exact hclose h
  | cons c t ih =>
    rw [runsFrom]
    split
    · exact ih (List.cons_ne_nil c run)
    · exact List.append_ne_nil_of_left_ne_nil (hclose h) _

/-- Every blank is a space with another character behind it. -/
def Spaced (t : Text) : Prop :=
  t.IsChain (fun a b => isBlank a = true → a = ' ' ∧ isBlank b = false) ∧
    ∀ c ∈ t.getLast?, isBlank c = false

theorem spaced_append {a b : Text} (ha : a.Spaced) (hb : b.Spaced) : (a ++ b).Spaced := by
  refine ⟨List.isChain_append.mpr ⟨ha.1, hb.1, ?_⟩, ?_⟩
  · intro c hc d _ hblank
    rw [ha.2 c hc] at hblank
    cases hblank
  · intro c hc
    rw [List.getLast?_append, Option.mem_def, Option.or_eq_some_iff] at hc
    exact hc.elim (hb.2 c) fun h => ha.2 c h.2

theorem spaced_of_forall {t : Text} (h : ∀ c ∈ t, isBlank c = false) : t.Spaced := by
  constructor
  · apply List.Pairwise.isChain
    apply List.pairwise_of_forall_mem_list
    intro c hc d _ hblank
    rw [h c hc] at hblank
    cases hblank
  · exact fun c hc => h c (List.mem_of_mem_getLast? hc)

theorem Spaced.tail {c : Char} {t : Text} (h : Spaced (c :: t)) : t.Spaced := by
  refine ⟨(List.isChain_cons.mp h.1).2, ?_⟩
  intro d hd
  apply h.2 d
  rw [List.getLast?_cons, hd]
  rfl

theorem join_runsFrom {run t : Text} (h : t.Spaced)
    (hstart : run ≠ [] ∨ ∀ c ∈ t.head?, isBlank c = false) :
    join " " (runsFrom (fun c => !isBlank c) run t) = run.reverse ++ t := by
  induction t generalizing run with
  | nil => cases run <;> simp [runsFrom, closeRun, join]
  | cons c t ih =>
    rw [runsFrom]
    split
    · rw [ih h.tail (.inl (List.cons_ne_nil c run)), List.reverse_cons, List.append_assoc,
        List.singleton_append]
    · rename_i hblank
      have hc : isBlank c = true := by simpa using hblank
      have hrun : run ≠ [] := hstart.resolve_right fun hno => by
        rw [hno c rfl] at hc
        cases hc
      obtain ⟨d, t, rfl⟩ : ∃ d u, t = d :: u := by
        cases t with
        | nil =>
          rw [h.2 c rfl] at hc
          cases hc
        | cons d u => exact ⟨d, u, rfl⟩
      obtain ⟨rfl, hd⟩ := (List.isChain_cons_cons.mp h.1).1 hc
      have hrest : runsFrom (fun c => !isBlank c) [] (d :: t) ≠ [] := by
        rw [runsFrom, if_pos (by simp [hd])]
        exact runsFrom_ne_nil (List.cons_ne_nil d []) t
      obtain ⟨first, others, hothers⟩ := List.exists_cons_of_ne_nil hrest
      have hbehind : join " " (runsFrom (fun c => !isBlank c) [] (d :: t)) = d :: t := by
        apply ih h.tail
        right
        rintro x ⟨⟩
        exact hd
      rw [hothers] at hbehind
      rw [hothers, closeRun, if_neg (by simpa using hrun), List.singleton_append, join_cons_cons,
        hbehind]
      rfl

theorem length_collapse_le (t : Text) : t.collapse.length ≤ t.length := by
  have hclose (run : Text) (parts : List Text) :
      (join " " (closeRun run ++ parts)).length ≤ run.length + 1 + (join " " parts).length := by
    cases run with
    | nil => simp [closeRun]
    | cons c run =>
      cases parts with
      | nil => simp [closeRun, join]
      | cons part parts =>
        simp [closeRun, join]
        omega
  have hruns (run t : Text) :
      (join " " (runsFrom (fun c => !isBlank c) run t)).length ≤ run.length + t.length := by
    induction t generalizing run with
    | nil =>
      have := hclose run []
      cases run <;> simp [runsFrom, closeRun, join]
    | cons c t ih =>
      rw [runsFrom]
      split
      · have := ih (c :: run)
        simp only [List.length_cons] at this ⊢
        omega
      · have := hclose run (runsFrom (fun c => !isBlank c) [] t)
        have := ih []
        simp only [List.length_cons, List.length_nil] at this ⊢
        omega
  have := hruns [] t
  rwa [List.length_nil, Nat.zero_add] at this

end Text

theorem length_cleaned_le (t : Text) : (cleaned t).length ≤ t.length := by
  have hcollapse := Text.length_collapse_le
    ((t.eraseWords ["const"]).filter fun c => c != '&' && c != '*')
  have hfilter := List.length_filter_le (fun c => c != '&' && c != '*') (t.eraseWords ["const"])
  have herase := Text.length_eraseWordsFrom_le ["const"] [] t
  rw [List.length_nil, Nat.zero_add] at herase
  exact Nat.le_trans hcollapse (Nat.le_trans hfilter herase)

/-- Text that cleaning leaves as it is, and that is no record literal. -/
structure Clean (t : Text) : Prop where
  nonempty : t ≠ []
  start : ∀ c ∈ t.head?, isBlank c = false ∧ c ≠ '\x7b'
  spaced : t.Spaced
  unmarked : ∀ c ∈ t, c ≠ '&' ∧ c ≠ '*'
  words : t.eraseWords ["const"] = t

/-- A character that names neither a word nor a blank nor a mark. -/
def IsSign (c : Char) : Prop :=
  isWord c = false ∧ isBlank c = false ∧ c ≠ '\x7b' ∧ c ≠ '&' ∧ c ≠ '*'

instance (c : Char) : Decidable (IsSign c) := inferInstanceAs (Decidable (_ ∧ _))

namespace Clean

variable {t : Text}

theorem collapse_eq (h : Clean t) : t.collapse = t :=
  Text.join_runsFrom h.spaced (.inr fun c hc => (h.start c hc).1)

theorem strip_eq (h : Clean t) : t.strip = t :=
  Text.strip_eq_self_iff.mpr ⟨fun c hc => (h.start c hc).1, h.spaced.2⟩

theorem cleaned_eq (h : Clean t) : cleaned t = t := by
  have hfilter : (t.filter fun c => c != '&' && c != '*') = t := by
    apply List.filter_eq_self.mpr
    intro c hc
    obtain ⟨hand, hstar⟩ := h.unmarked c hc
    simp [hand, hstar]
  rw [cleaned, h.words, hfilter, h.collapse_eq]

theorem isRecordLiteral_eq (h : Clean t) : isRecordLiteral t = false := by
  cases t with
  | nil => rfl
  | cons c t =>
    have hc := (h.start c rfl).2
    simp [isRecordLiteral, hc]

theorem append {u : Text} (h : Clean t) (hu : Clean u) (hparted : Parted u) : Clean (t ++ u) where
  nonempty := List.append_ne_nil_of_left_ne_nil h.nonempty u
  start := by
    rw [List.head?_append_of_ne_nil t h.nonempty]
    exact h.start
  spaced := Text.spaced_append h.spaced hu.spaced
  unmarked := fun c hc => (List.mem_append.mp hc).elim (h.unmarked c) (hu.unmarked c)
  words := by
    rw [Text.eraseWords, Text.eraseWordsFrom_append _ _ _ hparted]
    exact congrArg₂ (· ++ ·) h.words hu.words

theorem of_sign {c : Char} (hc : IsSign c) : Clean [c] := by
  obtain ⟨hword, hblank, hmarks⟩ := hc
  refine ⟨List.cons_ne_nil c [], ?_, Text.spaced_of_forall ?_, ?_, ?_⟩
  · rintro d ⟨⟩
    exact ⟨hblank, hmarks.1⟩
  · rintro d hd
    rwa [List.mem_singleton.mp hd]
  · rintro d hd
    rw [List.mem_singleton.mp hd]
    exact hmarks.2
  · exact Text.eraseWords_cons _ hword []

/-- What follows a sign need not be set off. -/
theorem after_sign {c : Char} (hc : IsSign c) (h : Clean t) : Clean (c :: t) where
  nonempty := List.cons_ne_nil c t
  start := (of_sign hc).start
  spaced := Text.spaced_append (of_sign hc).spaced h.spaced
  unmarked := List.forall_mem_cons.mpr ⟨hc.2.2.2, h.unmarked⟩
  words := by rw [Text.eraseWords_cons _ hc.1, h.words]

theorem after_comma (h : Clean t) : Clean (", ".toList ++ t) where
  nonempty := List.cons_ne_nil ',' _
  start := by
    rintro c ⟨⟩
    decide
  spaced := by
    refine ⟨List.isChain_cons_cons.mpr ⟨by decide, List.isChain_cons.mpr ⟨?_, h.spaced.1⟩⟩, ?_⟩
    · exact fun d hd _ => ⟨rfl, (h.start d hd).1⟩
    · intro d hd
      rw [List.getLast?_append_of_ne_nil _ h.nonempty] at hd
      exact h.spaced.2 d hd
  unmarked := List.forall_mem_cons.mpr ⟨by decide, List.forall_mem_cons.mpr
    ⟨by decide, h.unmarked⟩⟩
  words := by
    change Text.eraseWords _ (',' :: ' ' :: t) = ',' :: ' ' :: t
    rw [Text.eraseWords_cons _ (by decide), Text.eraseWords_cons _ (by decide), h.words]

theorem join {separator : Text} (hseparator : ∀ t, Clean t → Clean (separator ++ t))
    (hparted : ∀ t, Parted (separator ++ t)) {parts : List Text} (hne : parts ≠ [])
    (h : ∀ t ∈ parts, Clean t) : Clean (Text.join separator parts) := by
  match parts with
  | [] => exact absurd rfl hne
  | [t] =>
    have ht := h t List.mem_cons_self
    simpa [Text.join] using ht
  | t :: u :: parts =>
    have ht := h t List.mem_cons_self
    have hrest := join hseparator hparted (List.cons_ne_nil u parts)
      fun v hv => h v (List.mem_cons_of_mem t hv)
    exact ht.append (hseparator _ hrest) (hparted _)

theorem of_identifier (h : IsIdentifier t) : Clean t := by
  have hword := isWord_of_isName h.1
  obtain ⟨hname, hconst⟩ := h
  cases t with
  | nil => cases hname
  | cons c t =>
    have hblank : ∀ d ∈ c :: t, isBlank d = false := by
      intro d hd
      cases hb : isBlank d with
      | false => rfl
      | true => exact absurd (hword d hd) (by simp [isWord_of_isBlank hb])
    have hother {sign : Char} (hsign : isWord sign = false) : ∀ d ∈ c :: t, d ≠ sign := by
      rintro d hd rfl
      exact absurd (hword d hd) (by simp [hsign])
    refine ⟨List.cons_ne_nil c t, ?_, Text.spaced_of_forall hblank, ?_, ?_⟩
    · rintro d ⟨⟩
      exact ⟨hblank c List.mem_cons_self, hother (by decide) c List.mem_cons_self⟩
    · exact fun d hd => ⟨hother (by decide) d hd, hother (by decide) d hd⟩
    · rw [Text.eraseWords, Text.eraseWordsFrom_word _ _ hword, List.reverse_nil, List.nil_append,
        if_neg (by simpa using hconst)]

end Clean

/-- The canonical name of a tree is clean. -/
theorem clean_fullName {t : TypeTree} (h : t.Named) : Clean t.fullName := by
  induction t using TypeTree.byArguments with
  | h scope base arguments isArray qualifiers ih =>
    rw [TypeTree.named_mk] at h
    have hscope (u : Text) (hu : Clean u) : Clean ("::".toList ++ u) :=
      (hu.after_sign (by decide)).after_sign (by decide)
    have hname : Clean (Text.join "::" (scope ++ [base])) :=
      Clean.join hscope (fun _ => parted_cons (by decide)) (by simp)
        fun n hn => .of_identifier (h.1 n hn)
    have hgeneric : Clean (if arguments.isEmpty then Text.join "::" (scope ++ [base])
        else Text.join "::" (scope ++ [base]) ++ "<" ++
          Text.join ", " (TypeTree.fullNames arguments) ++ ">") := by
      split
      · exact hname
      · rename_i hne
        have harguments : Clean (Text.join ", " (TypeTree.fullNames arguments)) := by
          rw [TypeTree.fullNames_eq_map]
          apply Clean.join (fun _ hu => hu.after_comma) (fun _ => parted_cons (by decide))
          · simpa using hne
          · intro u hu
            obtain ⟨a, ha, rfl⟩ := List.mem_map.mp hu
            exact ih a ha (h.2 a ha)
        have hangles := (harguments.append (.of_sign (c := '>') (by decide))
          (parted_cons (by decide))).after_sign (c := '<') (by decide)
        have hwhole := hname.append hangles (parted_cons (by decide))
        simpa using hwhole
    have hsuffix : Clean TypeTree.arraySuffix :=
      (Clean.of_sign (c := ']') (by decide)).after_sign (c := '[') (by decide)
    simp only [TypeTree.fullName, TypeTree.suffixed]
    split
    · exact hgeneric.append hsuffix (parted_cons (by decide))
    · exact hgeneric

theorem cleaned_fullName {t : TypeTree} (h : t.Named) : cleaned t.fullName = t.fullName :=
  (clean_fullName h).cleaned_eq

end TypeAtlas
