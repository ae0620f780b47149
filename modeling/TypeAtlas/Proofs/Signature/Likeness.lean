import Mathlib.Data.List.Forall2
import TypeAtlas.Proofs.Signature.Descent

/-!
Signatures with like tokens. The tree of a text is the one that a descent over its tokens finds, so
texts whose tokens agree are read alike, whatever blanks and digits stand between the tokens, and
whether names are joined by a dot or by `::`.
-/

namespace TypeAtlas

namespace Token

/-- Tokens of one kind and one image, wherever they stand; any separator is like any other one. -/
def Alike (a b : Token) : Prop :=
  a.kind = b.kind ∧ a.image = b.image ∨ a.isSeparator = true ∧ b.isSeparator = true

instance (a b : Token) : Decidable (a.Alike b) := inferInstanceAs (Decidable (_ ∨ _))

theorem Alike.essence_eq {a b : Token} (h : a.Alike b) : a.essence = b.essence := by
  rcases h with ⟨hkind, himage⟩ | ⟨ha, hb⟩
  · have hseparator : a.isSeparator = b.isSeparator := by rw [isSeparator, isSeparator, hkind]
    rw [essence, essence, hseparator, hkind, himage]
  · rw [essence, essence, if_pos ha, if_pos hb]

end Token

section

variable {ts us : List Token} (h : List.Forall₂ Token.Alike ts us)
include h

theorem map_essence_of_alike : ts.map Token.essence = us.map Token.essence := by
  induction h with
  | nil => rfl
  | cons hx _ ih => rw [List.map_cons, List.map_cons, hx.essence_eq, ih]

theorem readTokens_of_alike : readTokens ts = readTokens us := by
  rw [← readTokens_map ts, map_essence_of_alike h, readTokens_map]

end

theorem parse?_of_criticalStrays {t : Text} (h : criticalStrays t = []) :
    parse? t = readTokens (tokens t) := parse?_of_harmless (harmless_pieces.mpr h)

/-- Texts without critical strays and with like tokens have the same tree or none, the one that a
descent over the tokens of either finds without a look at the text. -/
theorem parse?_of_alike (t u : Text) (ht : criticalStrays t = []) (hu : criticalStrays u = [])
    (h : List.Forall₂ Token.Alike (tokens t) (tokens u)) :
    parse? t = parse? u ∧ parse? t = readTokens (tokens t) := by
  have hdescent := parse?_of_criticalStrays ht
  refine ⟨?_, hdescent⟩
  rw [hdescent, parse?_of_criticalStrays hu, readTokens_of_alike h]

/-- Other blanks, other array sizes and the other separator. One argument holds a digit only, another
one a bracket that is never closed. -/
theorem parse?_of_alike_sample : ∃ tree,
    parse? "const std.map<Key*, list<const int[2]>, 7, a::b &, [c> [3]const&" = some tree ∧
    parse? "const std::map < Key * ,list< const int [ ] >,,a . b&,[c>[]const &" = some tree := by
  obtain ⟨tree, htree⟩ := Option.isSome_iff_exists.mp (show (parse?
    "const std.map<Key*, list<const int[2]>, 7, a::b &, [c> [3]const&").isSome by decide +kernel)
  obtain ⟨halike, -⟩ := parse?_of_alike
    "const std.map<Key*, list<const int[2]>, 7, a::b &, [c> [3]const&"
    "const std::map < Key * ,list< const int [ ] >,,a . b&,[c>[]const &"
    (by decide +kernel) (by decide +kernel) (by decide +kernel)
  exact ⟨tree, htree, halike ▸ htree⟩

end TypeAtlas
