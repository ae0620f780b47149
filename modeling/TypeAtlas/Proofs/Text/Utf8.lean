import Mathlib.Data.List.Basic
import Mathlib.Tactic.SplitIfs
import TypeAtlas.Proofs.Outcome
import TypeAtlas.Text.Utf8

/-!
The octets of a text, and their reading: octets are read as a text just when they are the octets
of that text. A character under way is completed by the octets it is owed, and by no others.
-/

namespace TypeAtlas

/-- The octets of a character: six bits in each but the first. -/
def charOctets (c : Char) : List Nat :=
  let n := c.toNat
  if n < 0x80 then [n]
  else if n < 0x800 then [0xC0 + n / 64, 0x80 + n % 64]
  else if n < 0x10000 then [0xE0 + n / 4096, 0x80 + n / 64 % 64, 0x80 + n % 64]
  else [0xF0 + n / 262144, 0x80 + n / 4096 % 64, 0x80 + n / 64 % 64, 0x80 + n % 64]

def Text.octets (t : Text) : List Nat := t.flatMap charOctets

theorem toNat_ofNat {n : Nat} (h : n.isValidChar) : (Char.ofNat n).toNat = n := by
  rw [Char.ofNat, dif_pos h]
  rfl

namespace PartialChar

/-- The octets `tail` complete a character under way, which then has the bits `bits`. -/
inductive Completes : PartialChar → List Nat → Nat → Prop
  | last {c : PartialChar} {b : Nat} (hlow : c.low ≤ b) (hhigh : b ≤ c.high)
      (howed : (c.add b).owed = 0) : Completes c [b] (c.add b).bits
  | more {c : PartialChar} {b bits : Nat} {tail : List Nat} (hlow : c.low ≤ b) (hhigh : b ≤ c.high)
      (howed : (c.add b).owed ≠ 0) (htail : Completes (c.add b) tail bits) :
      Completes c (b :: tail) bits

theorem decodeFrom_cons {c : PartialChar} {b : Nat} (hlow : c.low ≤ b) (hhigh : b ≤ c.high)
    (position : Nat) (rest : List Nat) : Text.decodeFrom position (some c) (b :: rest) =
      if (c.add b).owed = 0 then
        (Text.decodeFrom (position + 1) none rest).map (Char.ofNat (c.add b).bits :: ·)
      else Text.decodeFrom (position + 1) (some (c.add b)) rest := by
  rw [Text.decodeFrom, if_neg (by simp; omega)]

theorem Completes.decodeFrom {c : PartialChar} {tail : List Nat} {bits : Nat}
    (h : c.Completes tail bits) (position : Nat) (rest : List Nat) :
    Text.decodeFrom position (some c) (tail ++ rest) =
      (Text.decodeFrom (position + tail.length) none rest).map (Char.ofNat bits :: ·) := by
  induction h generalizing position with
  | last hlow hhigh howed =>
    rw [List.singleton_append, decodeFrom_cons hlow hhigh, if_pos howed]
    rfl
  | more hlow hhigh howed _ ih =>
    rw [List.cons_append, decodeFrom_cons hlow hhigh, if_neg howed, ih, List.length_cons,
      Nat.add_right_comm, Nat.add_assoc]

theorem completes_of_decodeFrom {octets : List Nat} {c : PartialChar} {position : Nat} {t : Text}
    (h : Text.decodeFrom position (some c) octets = .ok t) :
    ∃ tail rest bits t', octets = tail ++ rest ∧ c.Completes tail bits ∧
      Text.decodeFrom (position + tail.length) none rest = .ok t' ∧ t = Char.ofNat bits :: t' := by
  induction octets generalizing c position with
  | nil => cases h
  | cons b rest ih =>
    by_cases hrange : c.low ≤ b ∧ b ≤ c.high
    · obtain ⟨hlow, hhigh⟩ := hrange
      rw [decodeFrom_cons hlow hhigh] at h
      by_cases howed : (c.add b).owed = 0
      · rw [if_pos howed] at h
        cases hrest : Text.decodeFrom (position + 1) none rest with
        | error e =>
          rw [hrest] at h
          cases h
        | ok t' =>
          rw [hrest] at h
          cases h
          exact ⟨[b], rest, _, t', rfl, .last hlow hhigh howed, hrest, rfl⟩
      · rw [if_neg howed] at h
        obtain ⟨tail, rest', bits, t', rfl, htail, hrest, rfl⟩ := ih h
        refine ⟨b :: tail, rest', bits, t', rfl, .more hlow hhigh howed htail, ?_, rfl⟩
        rw [List.length_cons, Nat.add_comm tail.length, ← Nat.add_assoc]
        exact hrest
    · rw [Text.decodeFrom, if_pos (by simp; omega)] at h
      cases h

variable {c : PartialChar} {bits : Nat} {tail : List Nat}

theorem completes_last_iff (h : c.owed ≤ 1) : c.Completes tail bits ↔
    ∃ b, c.low ≤ b ∧ b ≤ c.high ∧ tail = [b] ∧ bits = (c.add b).bits := by
  have howed (b : Nat) : (c.add b).owed = 0 := Nat.sub_eq_zero_of_le h
  constructor
  · intro hcompletes
    cases hcompletes with
    | last hlow hhigh => exact ⟨_, hlow, hhigh, rfl, rfl⟩
    | more _ _ hmore => exact absurd (howed _) hmore
  · rintro ⟨b, hlow, hhigh, rfl, hbits⟩
    rw [hbits]
    exact .last hlow hhigh (howed b)

theorem completes_more_iff (h : 1 < c.owed) : c.Completes tail bits ↔
    ∃ b rest, c.low ≤ b ∧ b ≤ c.high ∧ tail = b :: rest ∧ (c.add b).Completes rest bits := by
  have howed (b : Nat) : (c.add b).owed ≠ 0 := Nat.sub_ne_zero_of_lt h
  constructor
  · intro hcompletes
    cases hcompletes with
    | last _ _ hlast => exact absurd hlast (howed _)
    | more hlow hhigh _ htail => exact ⟨_, _, hlow, hhigh, rfl, htail⟩
  · rintro ⟨b, rest, hlow, hhigh, rfl, htail⟩
    exact .more hlow hhigh (howed b) htail

variable {lead taken low high : Nat}

theorem completes_one_iff : Completes ⟨lead, taken, 1, low, high, bits⟩ tail n ↔
    ∃ x, low ≤ x ∧ x ≤ high ∧ tail = [x] ∧ n = bits * 64 + (x - 0x80) :=
  completes_last_iff (Nat.le_refl 1)

theorem completes_two_iff : Completes ⟨lead, taken, 2, low, high, bits⟩ tail n ↔
    ∃ x y, (low ≤ x ∧ x ≤ high) ∧ (0x80 ≤ y ∧ y ≤ 0xBF) ∧ tail = [x, y] ∧
      n = (bits * 64 + (x - 0x80)) * 64 + (y - 0x80) := by
  rw [completes_more_iff (Nat.lt_succ_self 1)]
  constructor
  · rintro ⟨x, _, hlow, hhigh, rfl, hrest⟩
    obtain ⟨y, hy, hy', rfl, hn⟩ := completes_one_iff.mp hrest
    exact ⟨x, y, ⟨hlow, hhigh⟩, ⟨hy, hy'⟩, rfl, hn⟩
  · rintro ⟨x, y, hx, hy, rfl, hn⟩
    exact ⟨x, [y], hx.1, hx.2, rfl, completes_one_iff.mpr ⟨y, hy.1, hy.2, rfl, hn⟩⟩

theorem completes_three_iff : Completes ⟨lead, taken, 3, low, high, bits⟩ tail n ↔
    ∃ x y z, (low ≤ x ∧ x ≤ high) ∧ (0x80 ≤ y ∧ y ≤ 0xBF) ∧ (0x80 ≤ z ∧ z ≤ 0xBF) ∧
      tail = [x, y, z] ∧
      n = ((bits * 64 + (x - 0x80)) * 64 + (y - 0x80)) * 64 + (z - 0x80) := by
  rw [completes_more_iff (Nat.lt_of_sub_eq_succ rfl)]
  constructor
  · rintro ⟨x, _, hlow, hhigh, rfl, hrest⟩
    obtain ⟨y, z, hy, hz, rfl, hn⟩ := completes_two_iff.mp hrest
    exact ⟨x, y, z, ⟨hlow, hhigh⟩, hy, hz, rfl, hn⟩
  · rintro ⟨x, y, z, hx, hy, hz, rfl, hn⟩
    exact ⟨x, [y, z], hx.1, hx.2, rfl, completes_two_iff.mpr ⟨y, z, hy, hz, rfl, hn⟩⟩

end PartialChar

/-! The octets of a character, by their number. -/

theorem charOctets_one {n : Nat} (h : n < 0x80) : charOctets (Char.ofNat n) = [n] := by
  rw [charOctets, toNat_ofNat (.inl (by omega)), if_pos h]

theorem charOctets_two {n : Nat} (hlow : 0x80 ≤ n) (hhigh : n < 0x800) :
    charOctets (Char.ofNat n) = [0xC0 + n / 64, 0x80 + n % 64] := by
  rw [charOctets, toNat_ofNat (.inl (by omega)), if_neg (by omega), if_pos hhigh]

theorem charOctets_three {n : Nat} (h : n.isValidChar) (hlow : 0x800 ≤ n) (hhigh : n < 0x10000) :
    charOctets (Char.ofNat n) = [0xE0 + n / 4096, 0x80 + n / 64 % 64, 0x80 + n % 64] := by
  rw [charOctets, toNat_ofNat h, if_neg (by omega), if_neg (by omega), if_pos hhigh]

theorem charOctets_four {n : Nat} (hlow : 0x10000 ≤ n) (hhigh : n < 0x110000) :
    charOctets (Char.ofNat n) =
      [0xF0 + n / 262144, 0x80 + n / 4096 % 64, 0x80 + n / 64 % 64, 0x80 + n % 64] := by
  rw [charOctets, toNat_ofNat (.inr (by omega)), if_neg (by omega), if_neg (by omega),
    if_neg (by omega)]

namespace PartialChar

variable {c : PartialChar} {b bits : Nat} {tail : List Nat}

theorem lead_bounds (h : ofLead? b = some c) : 0xC2 ≤ b ∧ b < 0xF5 := by
  unfold ofLead? at h
  split_ifs at h <;> omega

theorem ofLead?_two (hlow : 0xC2 ≤ b) (hhigh : b < 0xE0) :
    ofLead? b = some ⟨b, 1, 1, 0x80, 0xBF, b - 0xC0⟩ := by
  rw [ofLead?, if_neg (by omega), if_pos hhigh]

theorem ofLead?_three (hlow : 0xE0 ≤ b) (hhigh : b < 0xF0) :
    ∃ low high, ofLead? b = some ⟨b, 1, 2, low, high, b - 0xE0⟩ ∧
      (b = 0xE0 ∧ low = 0xA0 ∨ b ≠ 0xE0 ∧ low = 0x80) ∧
      (b = 0xED ∧ high = 0x9F ∨ b ≠ 0xED ∧ high = 0xBF) := by
  rw [ofLead?, if_neg (by omega), if_neg (by omega)]
  by_cases hfirst : b = 0xE0
  · subst hfirst
    exact ⟨_, _, rfl, by omega, by omega⟩
  by_cases hsurrogate : b = 0xED
  · subst hsurrogate
    exact ⟨_, _, rfl, by omega, by omega⟩
  rw [if_neg hfirst, if_neg hsurrogate, if_pos hhigh]
  exact ⟨_, _, rfl, by omega, by omega⟩

theorem ofLead?_four (hlow : 0xF0 ≤ b) (hhigh : b < 0xF5) :
    ∃ low high, ofLead? b = some ⟨b, 1, 3, low, high, b - 0xF0⟩ ∧
      (b = 0xF0 ∧ low = 0x90 ∨ b ≠ 0xF0 ∧ low = 0x80) ∧
      (b = 0xF4 ∧ high = 0x8F ∨ b ≠ 0xF4 ∧ high = 0xBF) := by
  rw [ofLead?, if_neg (by omega), if_neg (by omega), if_neg (by omega), if_neg (by omega),
    if_neg (by omega)]
  by_cases hfirst : b = 0xF0
  · subst hfirst
    exact ⟨_, _, rfl, by omega, by omega⟩
  by_cases hlast : b = 0xF4
  · subst hlast
    exact ⟨_, _, rfl, by omega, by omega⟩
  rw [if_neg hfirst, if_neg hlast, if_pos (by omega)]
  exact ⟨_, _, rfl, by omega, by omega⟩

/-- What completes a first octet makes up the octets of a character. -/
theorem charOctets_of_completes (hlead : ofLead? b = some c) (h : c.Completes tail bits) :
    charOctets (Char.ofNat bits) = b :: tail := by
  obtain ⟨hlow, hhigh⟩ := lead_bounds hlead
  by_cases htwo : b < 0xE0
  · rw [ofLead?_two hlow htwo] at hlead
    cases hlead
    obtain ⟨x, hx, hx', rfl, hbits⟩ := completes_one_iff.mp h
    rw [charOctets_two (by omega) (by omega)]
    simp only [List.cons.injEq, and_true]
    omega
  by_cases hthree : b < 0xF0
  · obtain ⟨low, high, heq, hfirst, hlast⟩ := ofLead?_three (by omega) hthree
    rw [heq] at hlead
    cases hlead
    obtain ⟨x, y, hx, hy, rfl, hbits⟩ := completes_two_iff.mp h
    rw [charOctets_three (by unfold Nat.isValidChar; omega) (by omega) (by omega)]
    simp only [List.cons.injEq, and_true]
    omega
  · obtain ⟨low, high, heq, hfirst, hlast⟩ := ofLead?_four (by omega) hhigh
    rw [heq] at hlead
    cases hlead
    obtain ⟨x, y, z, hx, hy, hz, rfl, hbits⟩ := completes_three_iff.mp h
    rw [charOctets_four (by omega) (by omega)]
    simp only [List.cons.injEq, and_true]
    omega

/-- The octets of a character beyond the first 128 are a first one and what completes it. -/
theorem exists_lead {n : Nat} (h : n.isValidChar) (hn : 0x80 ≤ n) :
    ∃ b c tail, charOctets (Char.ofNat n) = b :: tail ∧ 0x80 ≤ b ∧ ofLead? b = some c ∧
      c.Completes tail n := by
  have hvalid : n < 0xD800 ∨ 0xDFFF < n ∧ n < 0x110000 := h
  by_cases htwo : n < 0x800
  · refine ⟨_, _, _, charOctets_two hn htwo, by omega, ofLead?_two (by omega) (by omega), ?_⟩
    exact completes_one_iff.mpr ⟨_, by omega, by omega, rfl, by omega⟩
  by_cases hthree : n < 0x10000
  · obtain ⟨low, high, heq, hfirst, hlast⟩ :=
      ofLead?_three (b := 0xE0 + n / 4096) (by omega) (by omega)
    refine ⟨_, _, _, charOctets_three h (by omega) hthree, by omega, heq, ?_⟩
    exact completes_two_iff.mpr ⟨_, _, by omega, by omega, rfl, by omega⟩
  · obtain ⟨low, high, heq, hfirst, hlast⟩ :=
      ofLead?_four (b := 0xF0 + n / 262144) (by omega) (by omega)
    refine ⟨_, _, _, charOctets_four (by omega) (by omega), by omega, heq, ?_⟩
    exact completes_three_iff.mpr ⟨_, _, _, by omega, by omega, by omega, rfl, by omega⟩

end PartialChar

namespace Text

theorem decodeFrom_charOctets (c : Char) (position : Nat) (rest : List Nat) :
    decodeFrom position none (charOctets c ++ rest) =
      (decodeFrom (position + (charOctets c).length) none rest).map (c :: ·) := by
  have hchar : Char.ofNat c.toNat = c := Char.ofNat_toNat c
  by_cases hn : c.toNat < 0x80
  · have hoctets : charOctets c = [c.toNat] := by
      rw [← hchar, charOctets_one hn, hchar]
    rw [hoctets, List.singleton_append, decodeFrom, if_pos hn, hchar]
    rfl
  · obtain ⟨b, pending, tail, hoctets, hb, hlead, htail⟩ :=
      PartialChar.exists_lead (n := c.toNat) c.valid (Nat.not_lt.mp hn)
    rw [hchar] at hoctets
    rw [hoctets, List.cons_append, decodeFrom, if_neg (Nat.not_lt.mpr hb), hlead]
    simp only
    rw [htail.decodeFrom, hchar, List.length_cons, Nat.add_assoc, Nat.add_comm 1]

theorem decodeFrom_octets (t : Text) (position : Nat) :
    decodeFrom position none (octets t) = .ok t := by
  induction t generalizing position with
  | nil => rfl
  | cons c t ih =>
    rw [octets, List.flatMap_cons, decodeFrom_charOctets, ← octets, ih]
    rfl

theorem octets_of_decodeFrom {bytes : List Nat} {t : Text} {position : Nat}
    (h : decodeFrom position none bytes = .ok t) : bytes = octets t := by
  -- a character may take up to four octets, so the rest is shorter but need not be the tail
  induction hlength : bytes.length using Nat.strongRecOn generalizing bytes t position with
  | ind length ih =>
    subst hlength
    cases bytes with
    | nil =>
      cases h
      rfl
    | cons b rest =>
      rw [decodeFrom] at h
      by_cases hb : b < 0x80
      · rw [if_pos hb] at h
        obtain ⟨t', hrest, rfl⟩ := ok_of_map h
        rw [octets, List.flatMap_cons, charOctets_one hb, ← octets,
          ← ih rest.length (Nat.lt_succ_self _) hrest rfl]
        rfl
      · rw [if_neg hb] at h
        cases hlead : PartialChar.ofLead? b with
        | none =>
          rw [hlead] at h
          cases h
        | some c =>
          rw [hlead] at h
          obtain ⟨tail, rest', bits, t', rfl, htail, hrest, rfl⟩ :=
            PartialChar.completes_of_decodeFrom h
          have hshorter : rest'.length < (b :: (tail ++ rest')).length := by
            rw [List.length_cons, List.length_append]
            omega
          rw [octets, List.flatMap_cons, PartialChar.charOctets_of_completes hlead htail, ← octets,
            ← ih _ hshorter hrest rfl]
          rfl

/-- Octets are read as a text just when they are the octets of that text. -/
theorem ofUtf8_eq_ok_iff {bytes : List Nat} {t : Text} : ofUtf8 bytes = .ok t ↔ bytes = octets t := by
  constructor
  · exact octets_of_decodeFrom
  · rintro rfl
    exact decodeFrom_octets t 0

end Text

end TypeAtlas
