import Maskwalk.Proofs.Mask.Fitting
import Mathlib.Data.List.Forall2

/-!
# Masks and respelled paths

A mask that is made ready without regard to case fits more paths than the same mask with regard to
it. They are those that can be respelled, letter by letter, so that the strict mask fits. Respelling
is by what the mask of a single letter fits: characters are alike if they are spellings of one
letter, which goes by tables and is more than the pair of a capital and a small letter.

What a star takes stays as it is when a path is respelled, and it keeps to what a star may take,
since slashes and ends of lines are letters of their own. What stands for itself in the mask is
spelled as it is there. So the two masks are compared by one induction on the mask, along the
equations for what it fits.

## Main definitions

* `Mask.Alike`: a character that the mask of another fits without regard to case.
* `Mask.Respells`: texts that are alike, letter by letter.

## Theorems

* `Mask.alike_iff`: Alike are the spellings of one letter.
* `Mask.Respells.not_mem_iff`: Respelling neither brings nor takes a letter of its own.
* `Mask.covers_anyCase_iff`, `Mask.fits_anyCase_iff`: What a mask fits without regard to case.
-/

namespace Maskwalk

namespace Mask

/-- Whether the mask of the letter `a` alone, read without regard to case, fits the letter `b`. -/
def Alike (a b : Char) : Prop := (Mask.mk [.literal [a]] true).fits [b] = true

instance (a b : Char) : Decidable (Alike a b) := inferInstanceAs (Decidable (_ = true))

/-- Texts of one length whose letters are alike, place by place. -/
def Respells : Text → Text → Prop := List.Forall₂ Alike

/-- Alike are the spellings of one letter. -/
theorem alike_iff (a b : Char) : Alike a b ↔ Text.sameLetter true a b = true := by
  rw [Alike, fits, matchesTokens, afterLiteral]
  by_cases h : Text.sameLetter true a b = true
  · rw [if_pos h]
    exact iff_of_true rfl h
  · rw [if_neg h]
    exact iff_of_false Bool.false_ne_true h

theorem alike_refl (a : Char) : Alike a a := (alike_iff a a).mpr (Text.sameLetter_refl true a)

theorem Respells.refl (t : Text) : Respells t t :=
  List.forall₂_same.mpr fun a _ => alike_refl a

theorem Respells.append {a a' b b' : Text} (ha : Respells a a') (hb : Respells b b') :
    Respells (a ++ b) (a' ++ b') :=
  List.rel_append ha hb

/-- What respells a text in two parts falls into parts itself. -/
theorem Respells.exists_parts (a b : Text) {t : Text} (h : Respells (a ++ b) t) :
    ∃ a' b', t = a' ++ b' ∧ Respells a a' ∧ Respells b b' := by
  have hfront := List.forall₂_take a.length h
  have hback := List.forall₂_drop a.length h
  rw [List.take_left] at hfront
  rw [List.drop_left] at hback
  exact ⟨_, _, (List.take_append_drop a.length t).symm, hfront, hback⟩

/-- Respelling neither brings nor takes a letter that is alike to itself only. -/
theorem Respells.not_mem_iff {x : Char} (hx : ∀ a b, Alike a b → (a = x ↔ b = x)) {s t : Text}
    (h : Respells s t) : x ∉ s ↔ x ∉ t := by
  induction h with
  | nil => exact Iff.rfl
  | @cons a b s t hab _ ih =>
      rw [List.mem_cons, List.mem_cons, not_or, not_or, ih, eq_comm, hx a b hab, eq_comm]

theorem alike_slash (a b : Char) (h : Alike a b) : a = '/' ↔ b = '/' :=
  Text.sameLetter_slash true a b ((alike_iff a b).mp h)

theorem alike_lineEnd (a b : Char) (h : Alike a b) : a = '\n' ↔ b = '\n' :=
  Text.sameLetter_lineEnd true a b ((alike_iff a b).mp h)

/-- A part without a letter of its own in front of what is respelled: this is how stars go along
    with a respelling, whatever is asked of the rest. -/
theorem exists_respelled_star {x : Char} (hx : ∀ a b, Alike a b → (a = x ↔ b = x))
    (strict loose : Text → Prop) (h : ∀ b, loose b ↔ ∃ s, Respells s b ∧ strict s) (t : Text) :
    (∃ a b, t = a ++ b ∧ x ∉ a ∧ loose b) ↔
      ∃ s, Respells s t ∧ ∃ a b, s = a ++ b ∧ x ∉ a ∧ strict b := by
  constructor
  · rintro ⟨a, b, ht, ha, hb⟩
    rcases (h b).mp hb with ⟨s, hs, hstrict⟩
    exact ⟨a ++ s, ht ▸ (Respells.refl a).append hs, a, s, rfl, ha, hstrict⟩
  · rintro ⟨s, hs, a, b, hab, ha, hstrict⟩
    rw [hab] at hs
    rcases hs.exists_parts a b with ⟨a', b', ht, ha', hb'⟩
    exact ⟨a', b', ht, (ha'.not_mem_iff hx).mp ha, (h b').mpr ⟨b, hb', hstrict⟩⟩

/-- What a mask fits without regard to case is what it fits strictly, respelled. -/
theorem covers_anyCase_iff (mask : Text) : ∀ t, Covers (Text.sameLetter true) mask t ↔
    ∃ s, Respells s t ∧ Covers (Text.sameLetter false) mask s := by
  induction mask using star_induction with
  | nil =>
      intro t
      simp only [covers_nil, Respells, exists_eq_right, List.forall₂_nil_left_iff]
  | two rest ih =>
      intro t
      simp only [covers_two]
      exact exists_respelled_star alike_lineEnd _ _ ih t
  | one rest single ih =>
      intro t
      simp only [covers_one _ _ _ single]
      exact exists_respelled_star alike_slash _ _ ih t
  | other c rest hc ih =>
      intro t
      simp only [covers_other _ c rest _ hc]
      constructor
      -- The letter is respelled to what stands in the mask.
      · rintro ⟨x, u, ht, hcx, hu⟩
        rcases (ih u).mp hu with ⟨s, hs, hstrict⟩
        exact ⟨c :: s, ht ▸ .cons ((alike_iff c x).mpr hcx) hs, c, s, rfl,
          Text.sameLetter_refl false c, hstrict⟩
      · rintro ⟨s, hs, x, u, hsx, hcx, hstrict⟩
        rw [hsx] at hs
        rcases List.forall₂_cons_left_iff.mp hs with ⟨y, v, hxy, huv, ht⟩
        rw [Text.sameLetter, if_neg Bool.false_ne_true, decide_eq_true_eq] at hcx
        rw [← hcx] at hxy
        exact ⟨y, v, ht, (alike_iff c y).mp hxy, (ih v).mpr ⟨u, huv, hstrict⟩⟩

/-- Without regard to case a mask fits just those paths of which it fits a respelling with regard
    to it, and so all that it fits with regard to case. -/
theorem fits_anyCase_iff (mask : Text) (p : Path) :
    ((compile mask true).fits p = true ↔
      ∃ q, List.Forall₂ Alike q p ∧ (compile mask false).fits q = true) ∧
    ((compile mask false).fits p = true → (compile mask true).fits p = true) := by
  have hiff : (compile mask true).fits p = true ↔
      ∃ q, List.Forall₂ Alike q p ∧ (compile mask false).fits q = true :=
    covers_anyCase_iff mask p
  exact ⟨hiff, fun h => hiff.mpr ⟨p, Respells.refl p, h⟩⟩

/-- The long s is a spelling of s, and the sign for kelvins one of k. -/
theorem fits_anyCase_kelvins :
    (compile "src/*.mk".toList false).fits "src/A.mk".toList = true ∧
    (compile "src/*.mk".toList true).fits "src/A.mk".toList = true ∧
    List.Forall₂ Alike "src/A.mk".toList "\u017frc/a.m\u212a".toList ∧
    (compile "src/*.mk".toList true).fits "\u017frc/a.m\u212a".toList = true := by
  have hstrict : (compile "src/*.mk".toList false).fits "src/A.mk".toList = true := by decide
  have halike : List.Forall₂ Alike "src/A.mk".toList "\u017frc/a.m\u212a".toList := by decide
  exact ⟨hstrict, (fits_anyCase_iff _ _).2 hstrict, halike,
    (fits_anyCase_iff _ _).1.mpr ⟨_, halike, hstrict⟩⟩

end Mask

end Maskwalk
