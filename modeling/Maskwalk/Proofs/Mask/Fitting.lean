import Maskwalk.Mask.Basic
import Mathlib.Data.List.Basic

/-!
# Which texts a mask fits

What the tokens of a mask match is a recursion over tokens, and the tokens are a recursion over the
mask. Taken together they say what each character of a mask stands for, and that is the form in
which masks are reasoned about here: a mask is read from the left, two stars before one, and each
case has its equation.

Slashes are what structure a path, and a mask treats them strictly. A slash in a mask stands for a
slash, since no other character is the same letter in either case, so a mask with a slash fits just
the texts that can be cut at one so that both halves fit. A single star stands for no slash at all.
Hence a text has no fewer slashes than a mask that fits it, and just as many if the mask is not
deep.

## Main definitions

* `Mask.Covers`: a mask fits a text, with letters compared in a given way.

## Theorems

* `Text.sameLetter_low`: A character in front of all letters is a letter of its own.
* `Mask.star_induction`: Masks are read two stars before one.
* `Mask.covers_append_slash`: A mask with a slash in it fits in two halves.
* `Mask.count_of_covers`: The slashes of a mask and of a text that it fits.
-/

namespace Maskwalk

namespace Text

theorem toNat_of_ofNat_eq (n : Nat) (x : Char) (hx : 0 < x.toNat) (h : Char.ofNat n = x) :
    n = x.toNat := by
  by_cases hv : n.isValidChar
  · rw [← h, Char.ofNat, dif_pos hv]
    rfl
  · rw [Char.ofNat, dif_neg hv] at h
    rw [← h] at hx
    exact absurd hx (by decide)

section

variable (x : Char) (h0 : 0 < x.toNat) (hx : x.toNat < 65)

include h0 hx

/-- A character in front of all letters is the lower case of no other. -/
theorem lower_eq_of_low (c : Char) (h : lower c = x) : c = x := by
  unfold lower at h
  by_cases ha : c.toNat < 128
  · rw [if_pos ha, asciiLower] at h
    by_cases hu : 'A' ≤ c ∧ c ≤ 'Z'
    · rw [if_pos hu] at h
      have hn := toNat_of_ofNat_eq _ x h0 h
      have hle : ('A' : Char).toNat ≤ c.toNat := hu.1
      have h65 : ('A' : Char).toNat = 65 := rfl
      omega
    · rw [if_neg hu] at h
      exact h
  · rw [if_neg ha] at h
    cases hf : lowerRuns.findSome? (lowerIn c.toNat) with
    | none =>
        rw [hf] at h
        exact h
    | some n =>
        rw [hf, Option.map_some, Option.getD_some] at h
        rcases List.exists_of_findSome?_eq_some hf with ⟨⟨first, last, step, target⟩, hmem, hin⟩
        -- No run of letters has its lower case that far down.
        have htarget : 64 < target :=
          (by decide +kernel : ∀ r ∈ lowerRuns, 64 < r.2.2.2) _ hmem
        have hn := toNat_of_ofNat_eq n x h0 h
        rw [lowerIn] at hin
        by_cases hc : first ≤ c.toNat ∧ c.toNat ≤ last ∧ (c.toNat - first) % step = 0
        · rw [if_pos hc, Option.some.injEq] at hin
          omega
        · rw [if_neg hc] at hin
          exact absurd hin (by simp only [reduceCtorEq, not_false_eq_true])

/-- Nor is it a spelling of another. -/
theorem fold_eq_of_low (c : Char) (h : fold c = x) : c = x := by
  unfold fold at h
  by_cases ha : (lower c).toNat < 128
  · rw [if_pos ha] at h
    exact lower_eq_of_low x h0 hx c h
  · rw [if_neg ha] at h
    -- Twins are letters.
    have hentry : ∀ n m : Nat, valueOf? n twins = some m → 64 < m := by
      intro n m
      have hall : ∀ t ∈ twins, 64 < t.2 := by decide +kernel
      revert hall
      generalize twins = table
      induction table with
      | nil =>
          intro _ hn
          exact absurd hn (by simp only [valueOf?, reduceCtorEq, not_false_eq_true])
      | cons entry rest ih =>
          intro hall hn
          rw [valueOf?] at hn
          by_cases hk : entry.1 = n
          · rw [if_pos hk, Option.some.injEq] at hn
            rw [← hn]
            exact hall entry List.mem_cons_self
          · rw [if_neg hk] at hn
            exact ih (fun t ht => hall t (List.mem_cons_of_mem _ ht)) hn
    cases ht : valueOf? (lower c).toNat twins with
    | none =>
        rw [ht] at h
        exact lower_eq_of_low x h0 hx c h
    | some m =>
        rw [ht, Option.map_some, Option.getD_some] at h
        have := hentry _ m ht
        have := toNat_of_ofNat_eq m x h0 h
        omega

theorem fold_of_low : fold x = x := by
  have hlower : lower x = x := by
    have hle : ¬ 'A' ≤ x := fun hle => by
      have h65 : ('A' : Char).toNat ≤ x.toNat := hle
      exact absurd (Nat.lt_of_le_of_lt h65 hx) (by decide)
    rw [lower, if_pos (by omega), asciiLower, if_neg fun h => hle h.1]
  rw [fold, hlower]
  exact if_pos (by omega)

/-- It is a letter of its own, also when case is ignored. -/
theorem sameLetter_low (ignoreCase : Bool) (a c : Char) (h : sameLetter ignoreCase a c = true) :
    a = x ↔ c = x := by
  unfold sameLetter at h
  cases ignoreCase with
  | false =>
      rw [if_neg Bool.false_ne_true, decide_eq_true_eq] at h
      rw [h]
  | true =>
      rw [if_pos rfl, decide_eq_true_eq] at h
      constructor
      · intro ha
        rw [ha, fold_of_low x h0 hx] at h
        exact fold_eq_of_low x h0 hx c h.symm
      · intro hc
        rw [hc, fold_of_low x h0 hx] at h
        exact fold_eq_of_low x h0 hx a h

end

theorem sameLetter_refl (ignoreCase : Bool) (c : Char) : sameLetter ignoreCase c c = true := by
  unfold sameLetter
  cases ignoreCase <;> simp only [Bool.false_eq_true, if_false, if_true, decide_true]

/-- A slash is a letter of its own, also when case is ignored, -/
theorem sameLetter_slash (ignoreCase : Bool) (a c : Char) (h : sameLetter ignoreCase a c = true) :
    a = '/' ↔ c = '/' :=
  sameLetter_low '/' (by decide) (by decide) ignoreCase a c h

/-- and so is the end of a line. -/
theorem sameLetter_lineEnd (ignoreCase : Bool) (a c : Char)
    (h : sameLetter ignoreCase a c = true) : a = '\n' ↔ c = '\n' :=
  sameLetter_low '\n' (by decide) (by decide) ignoreCase a c h

end Text

namespace Mask

/-- Whether a mask fits a text, with letters compared in a given way. -/
def Covers (same : Char → Char → Bool) (mask t : Text) : Prop :=
  matchesTokens same (tokensOf mask) t = true

theorem fits_compile (mask : Text) (ignoreCase : Bool) (p : Path) :
    (compile mask ignoreCase).fits p = true ↔ Covers (Text.sameLetter ignoreCase) mask p :=
  Iff.rfl

theorem tokensOf_two (rest : Text) :
    tokensOf ('*' :: '*' :: rest) = .anything :: tokensOf rest := by
  rw [tokensOf]

theorem tokensOf_one (rest : Text) (h : rest.head? ≠ some '*') :
    tokensOf ('*' :: rest) = .part :: tokensOf rest := by
  rw [tokensOf]
  · rw [if_pos rfl]
  · intro rest' _ hr
    exact h (by rw [hr]; rfl)

theorem tokensOf_other (c : Char) (rest : Text) (h : c ≠ '*') :
    tokensOf (c :: rest) = withLiteral c (tokensOf rest) := by
  rw [tokensOf]
  · rw [if_neg h]
  · intro rest' hc _
    exact h hc

/-- Masks are read from the left, two stars before one. -/
theorem star_induction (motive : Text → Prop) (nil : motive [])
    (two : ∀ rest, motive rest → motive ('*' :: '*' :: rest))
    (one : ∀ rest : Text, rest.head? ≠ some '*' → motive rest → motive ('*' :: rest))
    (other : ∀ c rest, c ≠ '*' → motive rest → motive (c :: rest)) : ∀ mask, motive mask
  | [] => nil
  | [c] => by
      by_cases hc : c = '*'
      · rw [hc]
        exact one [] (by decide) nil
      · exact other c [] hc nil
  | c :: d :: rest => by
      have hd := star_induction motive nil two one other (d :: rest)
      by_cases hc : c = '*'
      · rw [hc]
        by_cases hs : d = '*'
        · rw [hs]
          exact two rest (star_induction motive nil two one other rest)
        · refine one (d :: rest) (fun hh => hs ?_) hd
          exact Option.some.inj hh
      · exact other c (d :: rest) hc hd

/-- A star stays a single one in front of a slash, whatever lies between. -/
theorem single_star_append_slash (rest back : Text) (h : rest.head? ≠ some '*') :
    (rest ++ '/' :: back).head? ≠ some '*' := by
  cases rest with
  | nil => simp only [List.nil_append, List.head?_cons, ne_eq, Option.some.injEq]; decide
  | cons c rest => exact h

theorem someSplit_iff (allowed : Char → Bool) (accepts : Text → Bool) (t : Text) :
    someSplit allowed accepts t = true ↔
      ∃ a b, t = a ++ b ∧ (∀ c ∈ a, allowed c = true) ∧ accepts b = true := by
  induction t with
  | nil =>
      rw [someSplit]
      constructor
      · intro h
        exact ⟨[], [], rfl, fun c hc => absurd hc List.not_mem_nil, h⟩
      · rintro ⟨a, b, hab, _, h⟩
        rw [eq_comm, List.append_eq_nil_iff] at hab
        rw [hab.2] at h
        exact h
  | cons c rest ih =>
      rw [someSplit, Bool.or_eq_true, Bool.and_eq_true, ih]
      constructor
      -- The split is in front of the first character, or behind it.
      · rintro (h | ⟨hc, a, b, hab, ha, h⟩)
        · exact ⟨[], c :: rest, rfl, fun c hc => absurd hc List.not_mem_nil, h⟩
        · refine ⟨c :: a, b, by rw [hab, List.cons_append], fun x hx => ?_, h⟩
          rcases List.mem_cons.mp hx with hx | hx
          · rw [hx]
            exact hc
          · exact ha x hx
      · rintro ⟨a, b, hab, ha, h⟩
        cases a with
        | nil =>
            rw [List.nil_append] at hab
            rw [hab]
            exact Or.inl h
        | cons x a =>
            rw [List.cons_append, List.cons.injEq] at hab
            refine Or.inr ⟨?_, a, b, hab.2, fun y hy => ha y (List.mem_cons_of_mem _ hy), h⟩
            rw [hab.1]
            exact ha x List.mem_cons_self

section

variable (same : Char → Char → Bool)

theorem covers_nil (t : Text) : Covers same [] t ↔ t = [] := by
  rw [Covers, tokensOf, matchesTokens, List.isEmpty_iff]

theorem covers_two (rest t : Text) : Covers same ('*' :: '*' :: rest) t ↔
    ∃ a b, t = a ++ b ∧ '\n' ∉ a ∧ Covers same rest b := by
  rw [Covers, tokensOf_two, matchesTokens, someSplit_iff]
  simp only [decide_eq_true_eq, ne_eq, List.forall_mem_ne', Covers]

theorem covers_one (rest t : Text) (h : rest.head? ≠ some '*') : Covers same ('*' :: rest) t ↔
    ∃ a b, t = a ++ b ∧ '/' ∉ a ∧ Covers same rest b := by
  rw [Covers, tokensOf_one rest h, matchesTokens, someSplit_iff]
  simp only [decide_eq_true_eq, ne_eq, List.forall_mem_ne', Covers]

theorem matches_withLiteral (c : Char) (tokens : List Token) (t : Text) :
    matchesTokens same (withLiteral c tokens) t = true ↔
      ∃ x rest, t = x :: rest ∧ same c x = true ∧ matchesTokens same tokens rest = true := by
  -- A run of letters is compared letter by letter, so its first one can be split off.
  have hliteral : ∀ run more, matchesTokens same (.literal (c :: run) :: more) t = true ↔
      ∃ x rest, t = x :: rest ∧ same c x = true ∧
        matchesTokens same (.literal run :: more) rest = true := by
    intro run more
    cases t with
    | nil => simp only [matchesTokens, afterLiteral, Bool.false_eq_true, reduceCtorEq, false_and,
        exists_false]
    | cons x rest =>
        simp only [List.cons.injEq, matchesTokens, afterLiteral]
        constructor
        · intro h
          by_cases hs : same c x = true
          · rw [if_pos hs] at h
            exact ⟨x, rest, ⟨rfl, rfl⟩, hs, h⟩
          · rw [if_neg hs] at h
            exact absurd h Bool.false_ne_true
        · rintro ⟨x', rest', ⟨hx, hr⟩, hs, h⟩
          rw [hx, hr, if_pos hs]
          exact h
  have hempty : ∀ more rest, matchesTokens same (.literal [] :: more) rest
      = matchesTokens same more rest := fun more rest => rfl
  unfold withLiteral
  split
  · exact hliteral _ _
  · rw [hliteral]
    simp only [hempty]

theorem covers_other (c : Char) (rest t : Text) (h : c ≠ '*') : Covers same (c :: rest) t ↔
    ∃ x u, t = x :: u ∧ same c x = true ∧ Covers same rest u := by
  rw [Covers, tokensOf_other c rest h, matches_withLiteral]
  rfl

/-- A single star fits every text without slashes. -/
theorem covers_star (n : Text) : Covers same ['*'] n ↔ '/' ∉ n := by
  rw [covers_one same [] n (by decide)]
  constructor
  · rintro ⟨a, b, hab, ha, hb⟩
    rw [covers_nil] at hb
    rw [hab, hb, List.append_nil]
    exact ha
  · intro h
    exact ⟨n, [], (List.append_nil n).symm, h, (covers_nil same []).mpr rfl⟩

/-- A mask without stars fits itself. -/
theorem covers_self (hrefl : ∀ c, same c c = true) (t : Text) (h : '*' ∉ t) : Covers same t t := by
  induction t with
  | nil => exact (covers_nil same []).mpr rfl
  | cons c rest ih =>
      rw [List.mem_cons, not_or] at h
      exact (covers_other same c rest _ (Ne.symm h.1)).mpr ⟨c, rest, rfl, hrefl c, ih h.2⟩

/-- A piece that a text begins with stays in front of its cut. -/
theorem piece_before_cut (piece front back : Text → Prop) (t : Text) :
    (∃ a b, t = a ++ b ∧ piece a ∧ ∃ u v, b = u ++ '/' :: v ∧ front u ∧ back v) ↔
      ∃ u v, t = u ++ '/' :: v ∧ (∃ a b, u = a ++ b ∧ piece a ∧ front b) ∧ back v := by
  constructor
  · rintro ⟨a, b, ht, ha, u, v, hb, hu, hv⟩
    refine ⟨a ++ u, v, ?_, ⟨a, u, rfl, ha, hu⟩, hv⟩
    rw [ht, hb, List.append_assoc]
  · rintro ⟨u, v, ht, ⟨a, b, hu, ha, hb⟩, hv⟩
    refine ⟨a, b ++ '/' :: v, ?_, ha, b, v, rfl, hb, hv⟩
    rw [ht, hu, List.append_assoc]

/-- A mask with a slash in it fits a text just if its halves fit the halves of the text in front of
    some slash and behind it. -/
theorem covers_append_slash (hslash : ∀ a c, same a c = true → (a = '/' ↔ c = '/'))
    (hrefl : same '/' '/' = true) (back : Text) (front : Text) : ∀ t,
    Covers same (front ++ '/' :: back) t ↔
      ∃ u v, t = u ++ '/' :: v ∧ Covers same front u ∧ Covers same back v := by
  induction front using star_induction with
  | nil =>
      intro t
      -- With nothing in front, the slash fits the first character, which is a slash itself.
      rw [List.nil_append, covers_other same '/' back t (by decide)]
      simp only [covers_nil]
      constructor
      · rintro ⟨x, v, ht, hx, hv⟩
        rw [(hslash '/' x hx).mp rfl] at ht
        exact ⟨[], v, ht, rfl, hv⟩
      · rintro ⟨u, v, ht, hu, hv⟩
        rw [hu] at ht
        exact ⟨'/', v, ht, hrefl, hv⟩
  | two rest ih =>
      intro t
      simp only [List.cons_append, covers_two, ih]
      exact piece_before_cut ('\n' ∉ ·) _ _ t
  | one rest hhead ih =>
      intro t
      simp only [List.cons_append, covers_one same _ _ hhead, ih,
        covers_one same _ _ (single_star_append_slash rest back hhead)]
      exact piece_before_cut ('/' ∉ ·) _ _ t
  | other c rest hc ih =>
      intro t
      rw [List.cons_append, covers_other same c _ t hc]
      constructor
      · rintro ⟨x, b, ht, hx, hb⟩
        rcases (ih b).mp hb with ⟨u, v, hbu, hu, hv⟩
        refine ⟨x :: u, v, ?_, (covers_other same c rest _ hc).mpr ⟨x, u, rfl, hx, hu⟩, hv⟩
        rw [ht, hbu, List.cons_append]
      · rintro ⟨u, v, ht, hu, hv⟩
        rcases (covers_other same c rest u hc).mp hu with ⟨x, b, hub, hx, hb⟩
        refine ⟨x, b ++ '/' :: v, ?_, hx, (ih _).mpr ⟨b, v, rfl, hb, hv⟩⟩
        rw [ht, hub, List.cons_append]

theorem isDeep_cons (c : Char) (rest : Text) (h : c ≠ '*') : isDeep (c :: rest) = isDeep rest := by
  unfold isDeep
  rw [Text.occursIn, List.isPrefixOf, beq_eq_false_iff_ne.mpr (Ne.symm h), Bool.false_and,
    Bool.false_or]

theorem isDeep_one (rest : Text) (h : rest.head? ≠ some '*') :
    isDeep ('*' :: rest) = isDeep rest := by
  unfold isDeep
  rw [Text.occursIn]
  cases rest with
  | nil => rfl
  | cons c rest =>
      have hc : ('*' == c) = false := beq_eq_false_iff_ne.mpr fun hc => h (by rw [← hc]; rfl)
      simp only [List.isPrefixOf, beq_self_eq_true, Bool.true_and, hc, Bool.false_and,
        Bool.false_or]

/-- A text has no fewer slashes than a mask that fits it, and just as many if the mask is not
    deep. -/
theorem count_of_covers (hslash : ∀ a c, same a c = true → (a = '/' ↔ c = '/')) (mask : Text) :
    ∀ t, Covers same mask t → mask.count '/' ≤ t.count '/' ∧
      (isDeep mask = false → t.count '/' = mask.count '/') := by
  induction mask using star_induction with
  | nil =>
      intro t h
      rw [covers_nil] at h
      rw [h]
      exact ⟨Nat.le_refl _, fun _ => rfl⟩
  | two rest ih =>
      intro t h
      rcases (covers_two same rest t).mp h with ⟨a, b, ht, _, hb⟩
      -- What two stars take may hold slashes too, but then the mask is deep.
      have hrest := (ih b hb).1
      rw [ht, List.count_append, List.count_cons_of_ne (by decide),
        List.count_cons_of_ne (by decide)]
      refine ⟨by omega, fun hd => absurd hd ?_⟩
      simp only [isDeep, Text.occursIn, List.isPrefixOf, beq_self_eq_true, Bool.true_and,
        Bool.true_or, Bool.true_eq_false, not_false_eq_true]
  | one rest hhead ih =>
      intro t h
      rcases (covers_one same rest t hhead).mp h with ⟨a, b, ht, ha, hb⟩
      have hrest := ih b hb
      -- What a single star takes holds no slash.
      have hcount : t.count '/' = b.count '/' := by
        rw [ht, List.count_append, List.count_eq_zero_of_not_mem ha, Nat.zero_add]
      rw [hcount, List.count_cons_of_ne (by decide), isDeep_one rest hhead]
      exact hrest
  | other c rest hc ih =>
      intro t h
      rcases (covers_other same c rest t hc).mp h with ⟨x, u, ht, hx, hu⟩
      have hrest := ih u hu
      rw [ht, List.count_cons, List.count_cons, isDeep_cons c rest hc]
      -- A letter and what it fits are both slashes or neither is.
      have hsame : (x == '/') = (c == '/') := by
        rw [Bool.eq_iff_iff, beq_iff_eq, beq_iff_eq]
        exact (hslash c x hx).symm
      rw [hsame]
      refine ⟨by omega, fun hd => ?_⟩
      rw [hrest.2 hd]

end

end Mask

end Maskwalk
