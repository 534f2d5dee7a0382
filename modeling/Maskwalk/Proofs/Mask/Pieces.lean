import Maskwalk.Proofs.Mask.Fitting
import Mathlib.Data.List.Forall2

/-!
# Masks and texts piece by piece

What a mask means can be said without following the way it is matched. A mask is cut into tokens,
and a text fits if it can be cut into as many pieces, one for each token: a literal stands for
itself, letter by letter, a star for a piece without slashes, two stars for a piece without the end
of a line.

The cut of a mask is a relation between texts and tokens. It takes two stars before one and runs of
other characters as far as they go. `cuts_iff` says that there is just one cut of every mask, and
that it is the one that is computed. The pieces of a text are not determined: a text may be cut in
many ways so that its pieces suit the tokens. `matchesTokens_iff` says that a match is found if
there is any. It is a recursion on the tokens, and goes through as what is left behind a piece is
matched with the tokens that are left.

## Main definitions

* `Mask.Cuts`: the cut of a mask into tokens.
* `Mask.Takes`: the pieces that a token stands for.

## Theorems

* `Mask.cuts_iff`: A mask has one cut, and it is the computed one.
* `Mask.afterLiteral_iff`: What is left behind a literal.
* `Mask.matchesTokens_iff`: Tokens match the texts that fall into pieces for them.
* `Mask.fits_iff_pieces`: So does a mask, with the tokens of its cut.
-/

namespace Maskwalk

namespace Mask

/-- The cut of a mask: from the left, two stars before one, and whatever stands between stars in
    one run. -/
inductive Cuts : Text → List Token → Prop where
  | nil : Cuts [] []
  | two {rest : Text} {tokens : List Token} (h : Cuts rest tokens) :
      Cuts ('*' :: '*' :: rest) (.anything :: tokens)
  | one {rest : Text} {tokens : List Token} (single : rest.head? ≠ some '*')
      (h : Cuts rest tokens) : Cuts ('*' :: rest) (.part :: tokens)
  | run {run rest : Text} {tokens : List Token} (proper : run ≠ []) (free : '*' ∉ run)
      (longest : rest = [] ∨ rest.head? = some '*') (h : Cuts rest tokens) :
      Cuts (run ++ rest) (.literal run :: tokens)

/-- The pieces that a token stands for. -/
def Takes : Token → Text → Prop
  | .literal run, piece => piece = run
  | .part, piece => '/' ∉ piece
  | .anything, piece => '\n' ∉ piece

/-- The tokens behind a run of other characters start with stars. -/
theorem withLiteral_behind_run (c : Char) (rest : Text)
    (h : rest = [] ∨ rest.head? = some '*') :
    withLiteral c (tokensOf rest) = .literal [c] :: tokensOf rest := by
  cases rest using star_induction with
  | nil => rfl
  | two rest =>
      rw [tokensOf_two]
      rfl
  | one rest single =>
      rw [tokensOf_one rest single]
      rfl
  | other d rest hd =>
      rcases h with h | h
      · exact absurd h (List.cons_ne_nil _ _)
      · exact absurd (Option.some.inj h) hd

theorem tokensOf_run (run rest : Text) (hne : run ≠ []) (hfree : '*' ∉ run)
    (h : rest = [] ∨ rest.head? = some '*') :
    tokensOf (run ++ rest) = .literal run :: tokensOf rest := by
  induction run with
  | nil => exact absurd rfl hne
  | cons c more ih =>
      rw [List.mem_cons, not_or] at hfree
      rw [List.cons_append, tokensOf_other c _ (Ne.symm hfree.1)]
      by_cases hm : more = []
      · rw [hm, List.nil_append, withLiteral_behind_run c rest h]
      · rw [ih hm hfree.2, withLiteral]

theorem tokensOf_of_cuts (mask : Text) (tokens : List Token) (h : Cuts mask tokens) :
    tokens = tokensOf mask := by
  induction h with
  | nil => rfl
  | two _ ih => rw [tokensOf_two, ih]
  | one single _ ih => rw [tokensOf_one _ single, ih]
  | run proper free longest _ ih => rw [tokensOf_run _ _ proper free longest, ih]

/-- One more character in front goes into the run that the mask starts with, or is a run of its
    own. -/
theorem Cuts.withLiteral (c : Char) (hc : c ≠ '*') (mask : Text) (tokens : List Token)
    (h : Cuts mask tokens) : Cuts (c :: mask) (Mask.withLiteral c tokens) := by
  have hone : '*' ∉ [c] := fun hmem => hc (List.mem_singleton.mp hmem).symm
  cases h with
  | nil => exact .run (List.cons_ne_nil _ _) hone (Or.inl rfl) .nil
  | two h => exact .run (List.cons_ne_nil _ _) hone (Or.inr rfl) (.two h)
  | one single h => exact .run (List.cons_ne_nil _ _) hone (Or.inr rfl) (.one single h)
  | @run run rest tokens proper free longest h =>
      have hfree : '*' ∉ c :: run := fun hmem =>
        (List.mem_cons.mp hmem).elim (fun heq => hc heq.symm) free
      exact .run (List.cons_ne_nil _ _) hfree longest h

theorem cuts_tokensOf (mask : Text) : Cuts mask (tokensOf mask) := by
  induction mask using star_induction with
  | nil => exact .nil
  | two rest ih =>
      rw [tokensOf_two]
      exact .two ih
  | one rest single ih =>
      rw [tokensOf_one rest single]
      exact .one single ih
  | other c rest hc ih =>
      rw [tokensOf_other c rest hc]
      exact ih.withLiteral c hc

/-- A mask has one cut, and it is the computed one. -/
theorem cuts_iff (mask : Text) (tokens : List Token) : Cuts mask tokens ↔ tokens = tokensOf mask :=
  ⟨tokensOf_of_cuts mask tokens, fun h => h ▸ cuts_tokensOf mask⟩

/-- What is left behind a literal, if letters are compared as they are. -/
theorem afterLiteral_iff (run t rest : Text) :
    afterLiteral (Text.sameLetter false) run t = some rest ↔ t = run ++ rest := by
  induction run generalizing t with
  | nil => rw [afterLiteral, List.nil_append, Option.some.injEq]
  | cons a more ih =>
      cases t with
      | nil => simp only [afterLiteral, reduceCtorEq, List.cons_append]
      | cons c t =>
          rw [afterLiteral, List.cons_append, List.cons.injEq, ← ih t]
          by_cases hac : a = c
          · have hsame : Text.sameLetter false a c = true := by
              rw [hac]
              exact Text.sameLetter_refl false c
            rw [if_pos hsame]
            exact ⟨fun h => ⟨hac.symm, h⟩, fun h => h.2⟩
          · have hother : ¬ Text.sameLetter false a c = true := by
              rw [Text.sameLetter, if_neg Bool.false_ne_true, decide_eq_true_eq]
              exact hac
            rw [if_neg hother]
            exact ⟨fun h => absurd h (by simp only [reduceCtorEq, not_false_eq_true]),
              fun h => absurd h.1.symm hac⟩

/-- A piece for the first token, and pieces for the others behind it. -/
theorem pieces_cons_iff (token : Token) (more : List Token) (t : Text) :
    (∃ pieces : List Text, t = pieces.flatten ∧ List.Forall₂ Takes (token :: more) pieces) ↔
      ∃ piece rest, t = piece ++ rest ∧ Takes token piece ∧
        ∃ pieces : List Text, rest = pieces.flatten ∧ List.Forall₂ Takes more pieces := by
  constructor
  · rintro ⟨pieces, ht, h⟩
    rcases List.forall₂_cons_left_iff.mp h with ⟨piece, others, hpiece, hothers, heq⟩
    exact ⟨piece, others.flatten, by rw [ht, heq, List.flatten_cons], hpiece, others, rfl, hothers⟩
  · rintro ⟨piece, rest, ht, hpiece, pieces, hrest, h⟩
    exact ⟨piece :: pieces, by rw [ht, hrest, List.flatten_cons], .cons hpiece h⟩

/-- Tokens match just the texts that fall into pieces for them. -/
theorem matchesTokens_iff (tokens : List Token) (t : Text) :
    matchesTokens (Text.sameLetter false) tokens t = true ↔
      ∃ pieces : List Text, t = pieces.flatten ∧ List.Forall₂ Takes tokens pieces := by
  induction tokens generalizing t with
  | nil =>
      simp only [matchesTokens, List.isEmpty_iff, List.forall₂_nil_left_iff]
      constructor
      · exact fun h => ⟨[], h, rfl⟩
      · rintro ⟨pieces, ht, hnil⟩
        rw [ht, hnil, List.flatten_nil]
  | cons token more ih =>
      rw [pieces_cons_iff]
      simp only [← ih]
      cases token with
      | literal run =>
          rw [matchesTokens]
          constructor
          · intro h
            cases hafter : afterLiteral (Text.sameLetter false) run t with
            | none =>
                rw [hafter] at h
                exact absurd h Bool.false_ne_true
            | some rest =>
                rw [hafter] at h
                exact ⟨run, rest, (afterLiteral_iff run t rest).mp hafter, rfl, h⟩
          · rintro ⟨piece, rest, ht, hpiece, h⟩
            rw [hpiece] at ht
            rw [(afterLiteral_iff run t rest).mpr ht]
            exact h
      | part =>
          rw [matchesTokens, someSplit_iff]
          simp only [decide_eq_true_eq, ne_eq, List.forall_mem_ne', Takes]
      | anything =>
          rw [matchesTokens, someSplit_iff]
          simp only [decide_eq_true_eq, ne_eq, List.forall_mem_ne', Takes]

/-- Every mask has one cut, and it fits just the paths that fall into pieces, one for each token of
    the cut. -/
theorem fits_iff_pieces (mask : Text) : ∃ tokens : List Token,
    (∀ others, Cuts mask others ↔ others = tokens) ∧
    ∀ p : Path, (compile mask false).fits p = true ↔
      ∃ pieces : List Text, p = pieces.flatten ∧ List.Forall₂ Takes tokens pieces :=
  ⟨tokensOf mask, cuts_iff mask, matchesTokens_iff (tokensOf mask)⟩

end Mask

end Maskwalk
