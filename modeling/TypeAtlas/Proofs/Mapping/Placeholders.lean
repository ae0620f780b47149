import TypeAtlas.Mapping.Template
import Mathlib.Data.List.Infix

/-!
Placeholders replaced one index after the other, against all of them replaced in one pass. The two
agree as long as no value, joined with what stands around it, spells a placeholder; and the pass
takes each placeholder whole as long as none with an index beyond the values begins like one within.
-/

namespace TypeAtlas

namespace Template

/-- A pass from the left. `index?` reads an index off the text behind a `$`, whose value comes in
place of the placeholder; the first `skip` characters belong to one already replaced. -/
def fillFrom (values : List Text) (index? : Text → Option Nat) (skip : Nat) : Text → Text
  | [] => []
  | c :: r =>
    match skip with
    | skip + 1 => fillFrom values index? skip r
    | 0 =>
      if c = '$' then
        match index? r with
        | some k => values.getD (k - 1) [] ++ fillFrom values index? (Text.ofNat k).length r
        | none => '$' :: fillFrom values index? 0 r
      else c :: fillFrom values index? 0 r

def fill (values : List Text) (index? : Text → Option Nat) (template : Text) : Text :=
  fillFrom values index? 0 template

/-- The index from one to `n` that all the digits in front denote together. -/
def denoted? (n : Nat) (r : Text) : Option Nat :=
  (List.range' 1 n).find? fun k => r.takeWhile Char.isDigit = Text.ofNat k

/-- The highest index from one to `n` whose digits stand in front, whatever follows them. -/
def highest? : Nat → Text → Option Nat
  | 0, _ => none
  | n + 1, r => if Text.ofNat (n + 1) <+: r then some (n + 1) else highest? n r

/-- What stands behind each `$`. -/
def behind : Text → List Text
  | [] => []
  | c :: r => if c = '$' then r :: behind r else behind r

/-- No value, joined with what the pass leaves around it, spells the placeholder of a value: neither
behind a `$` of the template, unless that of an index as high stands there already, nor behind one
of its own, for the lower indices. -/
structure Quiet (values : List Text) (template : Text) : Prop where
  joined : ∀ s ∈ behind template, ∀ m ∈ List.range' 1 values.length,
    Text.ofNat m <+: fill values (highest? values.length) s →
      ∃ k ∈ highest? values.length s, m ≤ k
  inserted : ∀ s ∈ behind template, ∀ k ∈ highest? values.length s,
    ∀ e ∈ behind (values.getD (k - 1) []), ∀ m ∈ List.range' 1 (k - 1),
      ¬Text.ofNat m <+:
        e ++ fill values (highest? values.length) (s.drop (Text.ofNat k).length)

theorem mem_behind_cons {s r : Text} (h : s ∈ behind r) (c : Char) : s ∈ behind (c :: r) := by
  rw [behind]
  split
  · exact List.mem_cons_of_mem r h
  · exact h

theorem mem_behind_dollar (r : Text) : r ∈ behind ('$' :: r) := List.mem_cons_self

theorem Quiet.of_cons {values : List Text} {c : Char} {r : Text} (h : Quiet values (c :: r)) :
    Quiet values r where
  joined s hs := h.joined s (mem_behind_cons hs c)
  inserted s hs := h.inserted s (mem_behind_cons hs c)

end Template

/-! Digits and replacements. -/

namespace Text

open Template (behind mem_behind_cons mem_behind_dollar)

variable {d new v x : Text}

theorem isDigit_of_mem_ofNat {n : Nat} {c : Char} (h : c ∈ ofNat n) : c.isDigit = true :=
  Nat.isDigit_of_mem_toDigits (by decide) (by decide) h

theorem dollar_not_mem_ofNat (n : Nat) : '$' ∉ ofNat n :=
  fun h => absurd (isDigit_of_mem_ofNat h) (by decide)

theorem le_of_prefix_ofNat {m n : Nat} (h : ofNat m <+: ofNat n) : m ≤ n := by
  obtain ⟨rest, hrest⟩ := h
  have hvalue := congrArg (Nat.ofDigitChars 10 · 0) hrest
  simp only [ofNat, Nat.ofDigitChars_append, Nat.ofDigitChars_ten_toDigits] at hvalue
  rw [Nat.ofDigitChars_eq_ofDigitChars_zero] at hvalue
  calc
    m ≤ 10 ^ rest.length * m := Nat.le_mul_of_pos_left m (Nat.pow_pos (by decide))
    _ ≤ n := hvalue ▸ Nat.le_add_right _ _

theorem replaceFrom_skip (old new : Text) (skip : Nat) (t : Text) :
    replaceFrom old new skip t = replaceFrom old new 0 (t.drop skip) := by
  induction t generalizing skip with
  | nil => rw [List.drop_nil]; rfl
  | cons c r ih =>
    cases skip with
    | zero => rfl
    | succ skip => exact ih skip

theorem replaceFrom_cons {c : Char} {r : Text} (h : ¬c = '$' ∨ ¬d <+: r) :
    replaceFrom ('$' :: d) new 0 (c :: r) = c :: replaceFrom ('$' :: d) new 0 r := by
  rw [replaceFrom, if_neg]
  rw [List.isPrefixOf_iff_prefix, List.cons_prefix_cons]
  exact fun hp => h.elim (· hp.1.symm) (· hp.2)

theorem replaceFrom_dollar (d new x : Text) :
    replaceFrom ('$' :: d) new 0 ('$' :: (d ++ x)) =
      new ++ replaceFrom ('$' :: d) new 0 x := by
  have hp : ('$' :: d).isPrefixOf ('$' :: (d ++ x)) = true :=
    List.isPrefixOf_iff_prefix.mpr (List.prefix_append ('$' :: d) x)
  rw [replaceFrom, if_pos hp, replaceFrom_skip, List.length_cons, Nat.add_sub_cancel,
    List.drop_left]

/-- A text stays as it is in front of `x` if none of its `$` begins the placeholder there. -/
theorem replaceFrom_append (h : ∀ e ∈ behind v, ¬d <+: e ++ x) :
    replaceFrom ('$' :: d) new 0 (v ++ x) = v ++ replaceFrom ('$' :: d) new 0 x := by
  induction v with
  | nil => rfl
  | cons c v ih =>
    have hc : ¬c = '$' ∨ ¬d <+: v ++ x := by
      by_cases hc : c = '$'
      · subst hc
        exact .inr (h v (mem_behind_dollar v))
      · exact .inl hc
    rw [List.cons_append, replaceFrom_cons hc, ih fun e he => h e (mem_behind_cons he c)]
    rfl

/-- Another rest keeps the beginnings without `$`, if it keeps those of the rest itself. -/
theorem prefix_append_imp {y : Text} (himp : ∀ d' : Text, '$' ∉ d' → d' <+: x → d' <+: y)
    (hd : '$' ∉ d) (h : d <+: v ++ x) : d <+: v ++ y := by
  rcases List.prefix_or_prefix_of_prefix h (List.prefix_append v x) with hdv | ⟨d', rfl⟩
  · exact hdv.trans (List.prefix_append v y)
  · rw [List.prefix_append_right_inj] at h ⊢
    exact himp d' (fun hmem => hd (List.mem_append_right v hmem)) h

end Text

namespace Template

variable {values : List Text} {index? index?' : Text → Option Nat} {d r : Text}

/-! The pass. -/

theorem fillFrom_cons_of_ne {c : Char} (hc : c ≠ '$') :
    fillFrom values index? 0 (c :: r) = c :: fillFrom values index? 0 r := by
  rw [fillFrom, if_neg hc]

theorem fillFrom_dollar_of_some {k : Nat} (h : index? r = some k) :
    fillFrom values index? 0 ('$' :: r) =
      values.getD (k - 1) [] ++ fillFrom values index? (Text.ofNat k).length r := by
  rw [fillFrom, if_pos rfl, h]

theorem fillFrom_dollar_of_none (h : index? r = none) :
    fillFrom values index? 0 ('$' :: r) = '$' :: fillFrom values index? 0 r := by
  rw [fillFrom, if_pos rfl, h]

theorem fillFrom_skip (values : List Text) (index? : Text → Option Nat) (skip : Nat) (t : Text) :
    fillFrom values index? skip t = fill values index? (t.drop skip) := by
  induction t generalizing skip with
  | nil => rw [List.drop_nil]; rfl
  | cons c r ih =>
    cases skip with
    | zero => rfl
    | succ skip => exact ih skip

/-- What holds no `$` is copied. -/
theorem fillFrom_append (hd : '$' ∉ d) (x : Text) :
    fillFrom values index? 0 (d ++ x) = d ++ fillFrom values index? d.length (d ++ x) := by
  induction d with
  | nil => rfl
  | cons c d ih =>
    rw [List.mem_cons, not_or] at hd
    rw [List.cons_append, fillFrom_cons_of_ne (Ne.symm hd.1), ih hd.2]
    rfl

theorem fill_congr {t : Text} (h : ∀ s ∈ behind t, index? s = index?' s) :
    fill values index? t = fill values index?' t := by
  suffices ∀ skip, fillFrom values index? skip t = fillFrom values index?' skip t from this 0
  induction t with
  | nil => exact fun _ => rfl
  | cons c r ih =>
    have ih := ih fun s hs => h s (mem_behind_cons hs c)
    intro skip
    cases skip with
    | succ skip => exact ih skip
    | zero =>
      by_cases hc : c = '$'
      · subst hc
        have hr := h r (mem_behind_dollar r)
        cases hindex : index? r with
        | some k =>
          rw [fillFrom_dollar_of_some hindex, fillFrom_dollar_of_some (hr ▸ hindex), ih]
        | none => rw [fillFrom_dollar_of_none hindex, fillFrom_dollar_of_none (hr ▸ hindex), ih]
      · rw [fillFrom_cons_of_ne hc, fillFrom_cons_of_ne hc, ih]

/-- What a pass gives up to the first `$` stays when further placeholders are replaced. -/
theorem prefix_fillFrom (himp : ∀ s k, index? s = some k → index?' s = some k) {skip : Nat} {t : Text}
    (hd : '$' ∉ d) (h : d <+: fillFrom values index? skip t) :
    d <+: fillFrom values index?' skip t := by
  induction t generalizing d skip with
  | nil => exact h
  | cons c r ih =>
    cases skip with
    | succ skip => exact ih hd h
    | zero =>
      by_cases hc : c = '$'
      · subst hc
        cases hindex : index? r with
        | some k =>
          rw [fillFrom_dollar_of_some hindex] at h
          rw [fillFrom_dollar_of_some (himp r k hindex)]
          exact Text.prefix_append_imp (fun d' hd' => ih hd') hd h
        | none =>
          rw [fillFrom_dollar_of_none hindex] at h
          cases d with
          | nil => exact List.nil_prefix
          | cons c d =>
            obtain ⟨rfl, -⟩ := List.cons_prefix_cons.mp h
            exact absurd List.mem_cons_self hd
      · rw [fillFrom_cons_of_ne hc] at h ⊢
        cases d with
        | nil => exact List.nil_prefix
        | cons c' d =>
          rw [List.mem_cons, not_or] at hd
          rw [List.cons_prefix_cons] at h ⊢
          exact ⟨h.1, ih hd.2 h.2⟩

/-! Indices. -/

theorem highest?_eq_some {n k : Nat} (h : highest? n r = some k) :
    1 ≤ k ∧ k ≤ n ∧ Text.ofNat k <+: r ∧ ∀ m, k < m → m ≤ n → ¬Text.ofNat m <+: r := by
  induction n with
  | zero => cases h
  | succ n ih =>
    rw [highest?] at h
    split at h
    · rename_i hbegins
      cases h
      exact ⟨by omega, le_rfl, hbegins, fun m hm hle => absurd hm (by omega)⟩
    · rename_i hbegins
      obtain ⟨hpos, hle, hk, hhigher⟩ := ih h
      refine ⟨hpos, by omega, hk, fun m hm hmn => ?_⟩
      rcases Nat.lt_or_eq_of_le hmn with hlt | rfl
      · exact hhigher m hm (by omega)
      · exact hbegins

theorem exists_highest? {n m : Nat} (hpos : 1 ≤ m) (hm : m ≤ n) (hbegins : Text.ofNat m <+: r) :
    ∃ k, highest? n r = some k ∧ m ≤ k := by
  induction n with
  | zero => omega
  | succ n ih =>
    rw [highest?]
    split
    · exact ⟨n + 1, rfl, hm⟩
    · rename_i hnot
      have hne : m ≠ n + 1 := fun heq => hnot (heq ▸ hbegins)
      exact ih (by omega)

theorem ofNat_prefix_takeWhile {m : Nat} (h : Text.ofNat m <+: r) :
    Text.ofNat m <+: r.takeWhile Char.isDigit := by
  obtain ⟨rest, rfl⟩ := h
  rw [List.takeWhile_append_of_pos fun c hc => Text.isDigit_of_mem_ofNat hc]
  exact List.prefix_append _ _

theorem denoted?_eq_some {n k : Nat} (h : denoted? n r = some k) :
    1 ≤ k ∧ k ≤ n ∧ r.takeWhile Char.isDigit = Text.ofNat k := by
  have hk := List.find?_some h
  have hmem := List.mem_range'_1.mp (List.mem_of_find?_eq_some h)
  exact ⟨hmem.1, by omega, of_decide_eq_true hk⟩

/-- Where no index is denoted unless all the digits denote one, the highest one is denoted. -/
theorem highest?_eq_denoted? {n : Nat}
    (h : ∀ m ∈ List.range' 1 n, Text.ofNat m <+: r → (denoted? n r).isSome) :
    highest? n r = denoted? n r := by
  cases hhighest : highest? n r with
  | some k =>
    obtain ⟨hpos, hle, hk, hhigher⟩ := highest?_eq_some hhighest
    obtain ⟨j, hj⟩ :=
      Option.isSome_iff_exists.mp (h k (List.mem_range'_1.mpr ⟨hpos, by omega⟩) hk)
    obtain ⟨-, hjn, hrun⟩ := denoted?_eq_some hj
    have hkj : k ≤ j := Text.le_of_prefix_ofNat (hrun ▸ ofNat_prefix_takeWhile hk)
    rcases Nat.lt_or_eq_of_le hkj with hlt | rfl
    · exact absurd (hrun ▸ List.takeWhile_prefix Char.isDigit) (hhigher j hlt hjn)
    · exact hj.symm
  | none =>
    cases hdenoted : denoted? n r with
    | none => rfl
    | some j =>
      obtain ⟨hpos, hjn, hrun⟩ := denoted?_eq_some hdenoted
      obtain ⟨k, hk, -⟩ :=
        exists_highest? hpos hjn (hrun ▸ List.takeWhile_prefix Char.isDigit)
      rw [hhighest] at hk
      cases hk

/-- The highest index in front, if it is above `low`. -/
def above? (n low : Nat) (r : Text) : Option Nat := (highest? n r).filter (low < ·)

theorem above?_eq_some {n low k : Nat} :
    above? n low r = some k ↔ highest? n r = some k ∧ low < k := by
  rw [above?, Option.filter_eq_some_iff, decide_eq_true_iff]

theorem above?_eq_none {n low : Nat} :
    above? n low r = none ↔ ∀ k, highest? n r = some k → k ≤ low := by
  simp only [Option.eq_none_iff_forall_ne_some, ne_eq, above?_eq_some, not_and, Nat.not_lt]

theorem above?_zero (n : Nat) : above? n 0 = highest? n := by
  funext r
  apply Option.ext
  intro k
  rw [above?_eq_some, and_iff_left_iff_imp]
  intro hk
  exact (highest?_eq_some hk).1

theorem above?_self (n : Nat) (r : Text) : above? n n r = none :=
  above?_eq_none.mpr fun _ hk => (highest?_eq_some hk).2.1

/-! One index after the other. -/

theorem fill_of_none (h : ∀ s, index? s = none) (t : Text) : fill values index? t = t := by
  induction t with
  | nil => rfl
  | cons c r ih =>
    by_cases hc : c = '$'
    · subst hc
      exact (fillFrom_dollar_of_none (h r)).trans (congrArg ('$' :: ·) ih)
    · exact (fillFrom_cons_of_ne hc).trans (congrArg (c :: ·) ih)

theorem prefix_of_above {n low : Nat} {skip : Nat} (hd : '$' ∉ d)
    (h : d <+: fillFrom values (above? n low) skip r) :
    d <+: fillFrom values (highest? n) skip r :=
  prefix_fillFrom (fun _ _ hk => (above?_eq_some.mp hk).1) hd h

namespace Quiet

variable {t : Text} {m : Nat}

theorem not_joined (h : Quiet values t) (hr : r ∈ behind t) (hm : m < values.length)
    (hnone : above? values.length m r = none) :
    ¬Text.ofNat (m + 1) <+: fillFrom values (above? values.length (m + 1)) 0 r := by
  intro hbegins
  obtain ⟨k, hk, hle⟩ := h.joined r hr (m + 1) (List.mem_range'_1.mpr (by omega))
    (prefix_of_above (Text.dollar_not_mem_ofNat _) hbegins)
  have := above?_eq_none.mp hnone k hk
  omega

theorem not_inserted (h : Quiet values t) (hr : r ∈ behind t) {k : Nat}
    (hk : highest? values.length r = some k) (hm : m + 1 < k) :
    ∀ e ∈ behind (values.getD (k - 1) []), ¬Text.ofNat (m + 1) <+:
      e ++ fillFrom values (above? values.length (m + 1)) (Text.ofNat k).length r := by
  intro e he hbegins
  refine h.inserted r hr k hk e he (m + 1) (List.mem_range'_1.mpr (by omega)) ?_
  rw [← fillFrom_skip]
  exact Text.prefix_append_imp (fun d hd => prefix_of_above hd) (Text.dollar_not_mem_ofNat _)
    hbegins

end Quiet

/-- Replacing the placeholders of one index takes the pass over the higher ones one step down. -/
theorem replaceFrom_fillFrom {m : Nat} (hm : m < values.length) {t : Text} (h : Quiet values t)
    (skip : Nat) :
    Text.replaceFrom (placeholder (m + 1)) (values.getD m []) 0
        (fillFrom values (above? values.length (m + 1)) skip t) =
      fillFrom values (above? values.length m) skip t := by
  rw [placeholder]
  induction t generalizing skip with
  | nil => rfl
  | cons c r ih =>
    have ih := ih h.of_cons
    cases skip with
    | succ skip => exact ih skip
    | zero =>
      by_cases hc : c = '$'
      · subst hc
        have hr := mem_behind_dollar r
        cases habove : above? values.length m r with
        | none =>
          have hhigher : above? values.length (m + 1) r = none :=
            above?_eq_none.mpr fun k hk => Nat.le_succ_of_le (above?_eq_none.mp habove k hk)
          rw [fillFrom_dollar_of_none hhigher, fillFrom_dollar_of_none habove,
            Text.replaceFrom_cons (.inr (h.not_joined hr hm habove)), ih]
        | some k =>
          obtain ⟨hk, hlow⟩ := above?_eq_some.mp habove
          rcases Nat.lt_or_eq_of_le (Nat.succ_le_of_lt hlow) with hlt | rfl
          · -- replaced before; what came in stays
            rw [fillFrom_dollar_of_some (above?_eq_some.mpr ⟨hk, hlt⟩),
              fillFrom_dollar_of_some habove,
              Text.replaceFrom_append (h.not_inserted hr hk hlt), ih]
          · -- replaced now; until now its digits were copied
            have hhigher : above? values.length (m + 1) r = none :=
              above?_eq_none.mpr fun k hk' => (Option.some.inj (hk'.symm.trans hk)).le
            obtain ⟨x, rfl⟩ := (highest?_eq_some hk).2.2.1
            rw [fillFrom_dollar_of_none hhigher, fillFrom_dollar_of_some habove,
              fillFrom_append (Text.dollar_not_mem_ofNat _), Text.replaceFrom_dollar, ih]
            rfl
      · rw [fillFrom_cons_of_ne hc, fillFrom_cons_of_ne hc, Text.replaceFrom_cons (.inl hc), ih]

theorem substituteDown_fill {t : Text} (h : Quiet values t) {m : Nat} (hm : m ≤ values.length) :
    substituteDown values m (fill values (above? values.length m) t) =
      fill values (highest? values.length) t := by
  induction m with
  | zero =>
    rw [above?_zero]
    rfl
  | succ m ih =>
    have hstep : Text.replaceAll (placeholder (m + 1)) (values.getD m [])
        (fill values (above? values.length (m + 1)) t) = fill values (above? values.length m) t :=
      replaceFrom_fillFrom hm h 0
    rw [substituteDown, hstep, ih (by omega)]

theorem substitute_eq_fill {t : Text} (h : Quiet values t) :
    substitute t values = fill values (highest? values.length) t := by
  have hdown := substituteDown_fill h (Nat.le_refl values.length)
  rwa [fill_of_none (above?_self values.length)] at hdown

/-! Values that never join. -/

theorem behind_of_not_mem {v : Text} (h : '$' ∉ v) : behind v = [] := by
  induction v with
  | nil => rfl
  | cons c v ih =>
    rw [List.mem_cons, not_or] at h
    rw [behind, if_neg (Ne.symm h.1), ih h.2]

/-- Digits that a pass gives in front were in front before it, if no value begins with one. -/
theorem prefix_of_fill (hd : ∀ c ∈ d, c.isDigit = true)
    (hvalues : ∀ s k, index? s = some k →
      ∃ c v, values.getD (k - 1) [] = c :: v ∧ c.isDigit = false) {t : Text}
    (h : d <+: fill values index? t) : d <+: t := by
  induction d generalizing t with
  | nil => exact List.nil_prefix
  | cons c d ih =>
    have hdigit := hd c List.mem_cons_self
    cases t with
    | nil => exact absurd (List.prefix_nil.mp h) (List.cons_ne_nil c d)
    | cons c' r =>
      rw [fill] at h
      by_cases hc : c' = '$'
      · subst hc
        cases hindex : index? r with
        | some k =>
          obtain ⟨first, v, hv, hfirst⟩ := hvalues r k hindex
          rw [fillFrom_dollar_of_some hindex, hv] at h
          obtain ⟨rfl, -⟩ := List.cons_prefix_cons.mp h
          rw [hdigit] at hfirst
          cases hfirst
        | none =>
          rw [fillFrom_dollar_of_none hindex] at h
          obtain ⟨rfl, -⟩ := List.cons_prefix_cons.mp h
          cases hdigit
      · rw [fillFrom_cons_of_ne hc, List.cons_prefix_cons] at h
        exact List.cons_prefix_cons.mpr
          ⟨h.1, ih (fun x hx => hd x (List.mem_cons_of_mem c hx)) h.2⟩

/-- Values that begin with something else than a digit and hold no `$` disturb no template. -/
theorem Quiet.of_plain
    (h : ∀ value ∈ values, '$' ∉ value ∧ ∃ c v, value = c :: v ∧ c.isDigit = false) (t : Text) :
    Quiet values t := by
  have hvalue : ∀ s k, highest? values.length s = some k → values.getD (k - 1) [] ∈ values := by
    intro s k hk
    obtain ⟨hpos, hle, -⟩ := highest?_eq_some hk
    rw [List.getD_eq_getElem?_getD, List.getElem?_eq_getElem (by omega)]
    exact List.getElem_mem _
  refine ⟨fun s _ m hm hbegins => ?_, fun s _ k hk e he => ?_⟩
  · have hm := List.mem_range'_1.mp hm
    exact exists_highest? hm.1 (by omega) (prefix_of_fill (fun _ => Text.isDigit_of_mem_ofNat)
      (fun s k hk => (h _ (hvalue s k hk)).2) hbegins)
  · rw [behind_of_not_mem (h _ (hvalue s k hk)).1] at he
    cases he

end Template

open Template (Quiet behind denoted? fill highest?)

/-- As long as no value spells a placeholder with what stands around it, the indices replaced one
after the other give what one pass from the left gives, in which each `$` takes the highest index
that its digits begin with; and where those digits denote no index unless taken together, each `$`
takes the index that all of them denote. -/
theorem placeholders_replaced_at_once (template : Text) (values : List Text)
    (hquiet : Quiet values template) :
    substitute template values = fill values (highest? values.length) template ∧
    ((∀ s ∈ behind template, ∀ m ∈ List.range' 1 values.length, Text.ofNat m <+: s →
        (denoted? values.length s).isSome) →
      substitute template values = fill values (denoted? values.length) template) := by
  have hfill := Template.substitute_eq_fill hquiet
  refine ⟨hfill, fun hwhole => hfill.trans ?_⟩
  exact Template.fill_congr fun s hs => Template.highest?_eq_denoted? (hwhole s hs)

/-- A value may begin with a digit or hold a `$`, and a placeholder beyond the values stays. -/
theorem placeholders_replaced_at_once_sample :
    substitute "$1[$2] of $3" ["A$", "10"] = "A$[10] of $3" := by
  have hquiet : Quiet ["A$".toList, "10".toList] "$1[$2] of $3" := ⟨by decide, by decide⟩
  exact ((placeholders_replaced_at_once _ _ hquiet).2 (by decide)).trans (by decide)

/-- A placeholder beyond the values is split when it begins like one within, and a value that spells a
placeholder is replaced itself; one pass does neither. -/
theorem placeholders_split_and_respelled :
    substitute "$10" ["a"] = "a0" ∧ fill ["a"] (denoted? 1) "$10" = "$10" ∧
      substitute "$2" ["x", "$1"] = "x" ∧ fill ["x", "$1"] (denoted? 2) "$2" = "$1" := by
  decide

end TypeAtlas
