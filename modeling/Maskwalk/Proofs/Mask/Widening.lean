import Maskwalk.Proofs.Mask.Literal
import Maskwalk.Proofs.Path.Meaning

/-!
# Stars made two

A mask without two stars in a row gets wider when some of its stars are doubled: what was any part
of a name is then any part of a path. That nothing else about it changes is what this module shows.
Doubling and bringing into normal form can be done in either order, since a segment with a star is
never taken away, and no segment is made or lost by doubling stars. The text in front of the first
star stays, and so does the directory where the mask starts.

A single star and two stars take different characters: the one no slash, the others no end of a
line. A text with neither is fitted by both masks or by none. Hence they fit the same entries of the
directory where they start, if no name there holds the end of a line; the path of the directory
itself may, since no star has to fit any of it.

The relation asks for stars that stand alone, so a mask that is widened is never deep, and neither
is its normal form.

## Main definitions

* `Mask.Widened`: a mask without two stars in a row, and the same with some stars doubled.

## Theorems

* `Mask.Widened.normalize`: Normal forms of a mask and a widened one are such masks again.
* `Mask.Widened.start_eq`: They start at the same directory.
* `Mask.Widened.covers_iff`: They fit the same texts without slashes and ends of lines.
* `Mask.Widened.covers_entry_iff`: They fit the same entries of the directory where they start.
-/

namespace Maskwalk

namespace Mask

/-- A mask without two stars in a row, and what it becomes when some of its stars are doubled. -/
inductive Widened : Text → Text → Prop where
  | nil : Widened [] []
  | other {c : Char} {mask wide : Text} (plain : c ≠ '*') (rest : Widened mask wide) :
      Widened (c :: mask) (c :: wide)
  | single {mask wide : Text} (alone : mask.head? ≠ some '*') (rest : Widened mask wide) :
      Widened ('*' :: mask) ('*' :: wide)
  | double {mask wide : Text} (alone : mask.head? ≠ some '*') (rest : Widened mask wide) :
      Widened ('*' :: mask) ('*' :: '*' :: wide)

namespace Widened

variable {mask wide : Text}

theorem head?_eq (h : Widened mask wide) : wide.head? = mask.head? := by
  cases h <;> rfl

/-- A mask that is widened has no two stars in a row. -/
theorem isDeep_eq_false (h : Widened mask wide) : isDeep mask = false := by
  induction h with
  | nil => rfl
  | other plain _ ih => rw [isDeep_cons _ _ plain, ih]
  | single alone _ ih => rw [isDeep_one _ alone, ih]
  | double alone _ ih => rw [isDeep_one _ alone, ih]

/-- Stars are doubled where there are some. -/
theorem star_mem_iff (h : Widened mask wide) : '*' ∈ wide ↔ '*' ∈ mask := by
  induction h with
  | nil => exact Iff.rfl
  | other _ _ ih => rw [List.mem_cons, List.mem_cons, ih]
  | single _ _ _ => exact iff_of_true List.mem_cons_self List.mem_cons_self
  | double _ _ _ => exact iff_of_true List.mem_cons_self List.mem_cons_self

/-- Text without stars in front of a mask stays as it is. -/
theorem append_plain (front : Text) (hf : '*' ∉ front) (h : Widened mask wide) :
    Widened (front ++ mask) (front ++ wide) := by
  induction front with
  | nil => exact h
  | cons c more ih =>
      rw [List.mem_cons, not_or] at hf
      exact .other (Ne.symm hf.1) (ih hf.2)

theorem of_plain (t : Text) (ht : '*' ∉ t) : Widened t t := by
  have h := append_plain t ht .nil
  rwa [List.append_nil] at h

/-- Behind text without stars in front of a mask, the rest of the mask is widened. -/
theorem exists_append_plain (front : Text) (hf : '*' ∉ front) {wide : Text}
    (h : Widened (front ++ mask) wide) : ∃ rest, wide = front ++ rest ∧ Widened mask rest := by
  induction front generalizing wide with
  | nil => exact ⟨wide, rfl, h⟩
  | cons c more ih =>
      rw [List.mem_cons, not_or] at hf
      rw [List.cons_append] at h
      cases h with
      | other _ hmore =>
          rcases ih hf.2 hmore with ⟨rest, hrest, h⟩
          exact ⟨rest, by rw [hrest, List.cons_append], h⟩
      | single _ _ => exact absurd rfl hf.1
      | double _ _ => exact absurd rfl hf.1

/-- Only a mask without stars is widened to one. -/
theorem eq_plain_iff (h : Widened mask wide) (t : Text) (ht : '*' ∉ t) : wide = t ↔ mask = t := by
  have hsame : '*' ∉ mask → wide = mask := by
    intro hm
    rw [← List.append_nil mask] at h
    rcases exists_append_plain mask hm h with ⟨rest, hrest, hnil⟩
    cases hnil
    rw [hrest, List.append_nil]
  constructor
  · intro hw
    have hm : '*' ∉ mask := fun hm => ht (by
      rw [← hw]
      exact h.star_mem_iff.mpr hm)
    rw [← hw, hsame hm]
  · intro hm
    rw [hsame (by rwa [hm]), hm]

theorem eq_nil_iff (h : Widened mask wide) : wide = [] ↔ mask = [] :=
  h.eq_plain_iff [] List.not_mem_nil

theorem takeWhile_eq (h : Widened mask wide) :
    wide.takeWhile (· ≠ '*') = mask.takeWhile (· ≠ '*') := by
  induction h with
  | nil => rfl
  | other _ _ ih => rw [List.takeWhile_cons, List.takeWhile_cons, ih]
  | single _ _ _ => rfl
  | double _ _ _ => rfl

/-- A mask and a widened one start at the same directory. -/
theorem start_eq (h : Widened mask wide) : start wide = start mask := by
  unfold start
  rw [h.takeWhile_eq]

/-- Widened masks on both sides of a slash make one widened mask, since the slash keeps the stars
    apart. -/
theorem append_slash {back backWide : Text} (h : Widened mask wide) (hb : Widened back backWide) :
    Widened (mask ++ '/' :: back) (wide ++ '/' :: backWide) := by
  have halone : ∀ m : Text, m.head? ≠ some '*' → (m ++ '/' :: back).head? ≠ some '*' := by
    intro m hm
    cases m with
    | nil =>
        rw [List.nil_append, List.head?_cons]
        decide
    | cons c more => exact hm
  induction h with
  | nil => exact .other (by decide) hb
  | other plain _ ih => exact .other plain ih
  | single alone _ ih => exact .single (halone _ alone) ih
  | double alone _ ih => exact .double (halone _ alone) ih

theorem joined {masks wides : List Text} (h : List.Forall₂ Widened masks wides) :
    Widened (Text.joined ['/'] masks) (Text.joined ['/'] wides) := by
  induction h with
  | nil => exact .nil
  | @cons m v ms vs hm hms ih =>
      by_cases h0 : ms = []
      · rw [h0] at hms ⊢
        cases hms
        exact hm
      · have hv : vs ≠ [] := fun hv => h0 (by
          rw [hv] at hms
          cases hms
          rfl)
        rw [Text.joined_cons _ _ _ h0, Text.joined_cons _ _ _ hv, List.append_assoc,
          List.append_assoc]
        exact hm.append_slash ih

theorem map_forward (h : Widened mask wide) :
    Widened (mask.map Path.forward) (wide.map Path.forward) := by
  have hstar : ∀ c, Path.forward c = '*' ↔ c = '*' := by
    intro c
    unfold Path.forward
    by_cases hc : c = '\\'
    · rw [if_pos hc, hc]
      decide
    · rw [if_neg hc]
  have halone : ∀ m : Text, m.head? ≠ some '*' → (m.map Path.forward).head? ≠ some '*' := by
    intro m hm
    cases m with
    | nil => exact hm
    | cons c more =>
        rw [List.head?_cons, ne_eq, Option.some.injEq] at hm
        rw [List.map_cons, List.head?_cons, ne_eq, Option.some.injEq, hstar]
        exact hm
  induction h with
  | nil => exact .nil
  | other plain _ ih => exact .other (fun hc => plain ((hstar _).mp hc)) ih
  | single alone _ ih => exact .single (halone _ alone) ih
  | double alone _ ih => exact .double (halone _ alone) ih

/-- Doubling stars leaves the root of a mask, and widens what follows it. -/
theorem rootOf_eq (h : Widened mask wide) : (Path.rootOf wide).1 = (Path.rootOf mask).1 ∧
    Widened (Path.rootOf mask).2 (Path.rootOf wide).2 := by
  -- The root is plain text in front, and what follows it starts with the same character.
  have hroot : ∀ root : Path.Root, mask = root.text ++ (Path.rootOf mask).2 →
      (Path.rootOf mask).1 = root → (root = .share ∨ (Path.rootOf mask).2.head? ≠ some '/') →
        (Path.rootOf wide).1 = (Path.rootOf mask).1 ∧
          Widened (Path.rootOf mask).2 (Path.rootOf wide).2 := by
    intro root hm hr hhead
    rw [hm] at h
    rcases exists_append_plain root.text (by cases root <;> decide) h with ⟨rest, hw, hrest⟩
    have hrootOf : Path.rootOf wide = (root, rest) := by
      rw [hw]
      rcases hhead with hs | hhead
      · rw [hs]
        rfl
      · exact Path.rootOf_text_append root rest (by rwa [hrest.head?_eq])
    rw [hrootOf]
    exact ⟨hr.symm, hrest⟩
  rcases Path.rootOf_cases mask with ⟨hm, hr⟩ | ⟨hm, hr, hno⟩ | ⟨hm, hr, hno⟩
  · exact hroot .share hm hr (Or.inl rfl)
  · refine hroot .rooted hm hr (Or.inr fun hhead => hno ?_)
    rcases List.head?_eq_some_iff.mp hhead with ⟨more, hmore⟩
    rw [hm, hmore]
    exact ⟨more, rfl⟩
  · refine hroot .relative hm hr (Or.inr fun hhead => hno ?_)
    rcases List.head?_eq_some_iff.mp hhead with ⟨more, hmore⟩
    rw [hm, hmore]
    exact ⟨more, rfl⟩

/-- The segments of a widened mask are those of the mask, widened. -/
theorem pieces (h : Widened mask wide) :
    List.Forall₂ Widened (mask.pieces Path.isSlash) (wide.pieces Path.isSlash) := by
  have hstar : Path.isSlash '*' = false := by decide
  -- A star that stands alone in the mask does so in its segment.
  have halone : ∀ (m first : Text) (more : List Text), m.head? ≠ some '*' →
      m.pieces Path.isSlash = first :: more → first.head? ≠ some '*' := by
    intro m first more hm hp
    rcases Text.head?_of_pieces m first more hp with h0 | hhead
    · rw [h0]
      decide
    · rwa [hhead]
  induction h with
  | nil => exact .cons .nil .nil
  | @other c mask wide plain _ ih =>
      cases hc : Path.isSlash c with
      | true =>
          rw [Text.pieces, Text.pieces, if_pos hc, if_pos hc]
          exact .cons .nil ih
      | false =>
          rcases Text.pieces_cons_of_free c mask hc with ⟨first, more, hm, hcm⟩
          rcases Text.pieces_cons_of_free c wide hc with ⟨first', more', hw, hcw⟩
          rw [hm, hw] at ih
          cases ih with
          | cons hfirst hmore =>
              rw [hcm, hcw]
              exact .cons (.other plain hfirst) hmore
  | @single mask wide alone _ ih =>
      rcases Text.pieces_cons_of_free '*' mask hstar with ⟨first, more, hm, hcm⟩
      rcases Text.pieces_cons_of_free '*' wide hstar with ⟨first', more', hw, hcw⟩
      rw [hm, hw] at ih
      cases ih with
      | cons hfirst hmore =>
          rw [hcm, hcw]
          exact .cons (.single (halone mask first more alone hm) hfirst) hmore
  | @double mask wide alone _ ih =>
      rcases Text.pieces_cons_of_free '*' mask hstar with ⟨first, more, hm, hcm⟩
      rcases Text.pieces_cons_of_free '*' wide hstar with ⟨first', more', hw, hcw⟩
      rcases Text.pieces_cons_of_free '*' ('*' :: wide) hstar with ⟨first'', more'', hww, hcww⟩
      rw [hcw, List.cons.injEq] at hww
      rw [hm, hw] at ih
      cases ih with
      | cons hfirst hmore =>
          rw [hcm, hcww, ← hww.1, ← hww.2]
          exact .cons (.double (halone mask first more alone hm) hfirst) hmore

/-- One more segment and a widened one keep stacks alike: it is a dot or two for both, and the
    segment on top gives way in both. -/
theorem push {stack wides : List Text} (root : Path.Root) (hs : List.Forall₂ Widened stack wides)
    (h : Widened mask wide) :
    List.Forall₂ Widened (Path.push root stack mask) (Path.push root wides wide) := by
  have hdot := h.eq_plain_iff Path.dot (by decide)
  have hup := h.eq_plain_iff Path.dotDot (by decide)
  by_cases hskip : mask = [] ∨ mask = Path.dot
  · rw [Path.push_skip root stack mask hskip,
      Path.push_skip root wides wide (hskip.imp h.eq_nil_iff.mpr hdot.mpr)]
    exact hs
  have hskip' : ¬ (wide = [] ∨ wide = Path.dot) := fun hw =>
    hskip (hw.imp h.eq_nil_iff.mp hdot.mp)
  by_cases hmask : mask = Path.dotDot
  · have hwide := hup.mpr hmask
    have hdots : Widened Path.dotDot Path.dotDot := of_plain _ (by decide)
    rw [hmask, hwide]
    cases hs with
    | nil =>
        rw [Path.push_dotDot_nil]
        split
        · exact .cons hdots .nil
        · exact .nil
    | @cons top top' below below' htop hbelow =>
        have hyields : Path.yields top' = Path.yields top := by
          rw [Bool.eq_iff_iff, Path.yields_iff, Path.yields_iff, htop.star_mem_iff,
            ne_eq, ne_eq, not_congr (htop.eq_plain_iff Path.dotDot (by decide))]
        rw [Path.push_dotDot_cons, Path.push_dotDot_cons, hyields]
        split
        · exact hbelow
        · exact .cons hdots (.cons htop hbelow)
  · rw [Path.push_name root stack mask hskip hmask,
      Path.push_name root wides wide hskip' (fun hw => hmask (hup.mp hw))]
    exact .cons h hs

theorem foldl_push (root : Path.Root) {masks wides : List Text}
    (h : List.Forall₂ Widened masks wides) : ∀ stack stackWide,
      List.Forall₂ Widened stack stackWide →
        List.Forall₂ Widened (masks.foldl (Path.push root) stack)
          (wides.foldl (Path.push root) stackWide) := by
  induction h with
  | nil => exact fun _ _ hs => hs
  | cons hm _ ih => exact fun _ _ hs => ih _ _ (push root hs hm)

theorem render (root : Path.Root) {masks wides : List Text}
    (h : List.Forall₂ Widened masks wides) :
    Widened (Path.render root masks) (Path.render root wides) := by
  have hwritten : Widened (Path.written root masks) (Path.written root wides) :=
    append_plain root.text (by cases root <;> decide) (joined h)
  by_cases h0 : Path.written root masks = []
  · have h0' := hwritten.eq_nil_iff.mpr h0
    unfold Path.written at h0 h0'
    unfold Path.render
    rw [h0, h0']
    exact of_plain Path.here (by decide)
  · rw [Path.render_of_written root masks h0,
      Path.render_of_written root wides (fun hw => h0 (hwritten.eq_nil_iff.mp hw))]
    exact hwritten

/-- The normal form of a widened mask is that of the mask, widened. -/
theorem normalize (h : Widened mask wide) :
    Widened (Path.normalize mask) (Path.normalize wide) := by
  by_cases h0 : mask = []
  · rw [h0, h.eq_nil_iff.mpr h0]
    exact .nil
  · rw [Path.normalize_of_ne_nil mask h0,
      Path.normalize_of_ne_nil wide (fun hw => h0 (h.eq_nil_iff.mp hw))]
    have hsplit : ∀ p : Path, Path.split p = ((Path.rootOf (p.map Path.forward)).1,
      (Path.rootOf (p.map Path.forward)).2.pieces Path.isSlash) := fun _ => rfl
    rcases h.map_forward.rootOf_eq with ⟨hroot, hrest⟩
    rw [hsplit mask, hsplit wide, hroot]
    refine render _ (List.rel_reverse ?_)
    exact foldl_push _ hrest.pieces [] [] .nil

section

variable (same : Char → Char → Bool)

/-- A mask and a widened one fit the same texts without slashes and ends of lines. -/
theorem covers_iff (h : Widened mask wide) : ∀ t : Text, '/' ∉ t → '\n' ∉ t →
    (Covers same mask t ↔ Covers same wide t) := by
  induction h with
  | nil => exact fun t _ _ => Iff.rfl
  | other plain _ ih =>
      intro t hs hn
      rw [covers_other same _ _ t plain, covers_other same _ _ t plain]
      refine exists_congr fun x => exists_congr fun u => and_congr_right fun ht => ?_
      rw [ht, List.mem_cons, not_or] at hs hn
      rw [ih u hs.2 hn.2]
  | single alone rest ih =>
      intro t hs hn
      rw [covers_one same _ t alone, covers_one same _ t (by rwa [rest.head?_eq])]
      refine exists_congr fun a => exists_congr fun b => and_congr_right fun ht => ?_
      rw [ht, List.mem_append, not_or] at hs hn
      rw [ih b hs.2 hn.2]
  | double alone _ ih =>
      intro t hs hn
      rw [covers_one same _ t alone, covers_two same _ t]
      refine exists_congr fun a => exists_congr fun b => and_congr_right fun ht => ?_
      -- In such a text what one star takes two may take as well, and the other way round.
      rw [ht, List.mem_append, not_or] at hs hn
      rw [ih b hs.2 hn.2, and_congr_left_iff]
      exact fun _ => iff_of_true hs.1 hn.1

/-- A mask and a widened one fit the same entries of the directory where they start, by names
    without ends of lines. -/
theorem covers_entry_iff (h : Widened mask wide) (n : Text) (hs : '/' ∉ n) (hn : '\n' ∉ n) :
    Covers same (Path.normalize mask) (Path.child (start (Path.normalize mask)) n) ↔
      Covers same (Path.normalize wide) (Path.child (start (Path.normalize mask)) n) := by
  -- Both masks start with the text in front of the name, and so it is the rest that matters.
  rcases (into_start_starts mask).trans (List.takeWhile_prefix _) with ⟨rest, hrest⟩
  have hplain := no_star_into _ (no_star_start (Path.normalize mask))
  have hnormal := h.normalize
  have hbehind : ∀ back, Covers same (Path.into (start (Path.normalize mask)) ++ back)
      (Path.child (start (Path.normalize mask)) n) ↔
      List.Forall₂ (fun a c => same a c = true) (Path.into (start (Path.normalize mask)))
        (Path.into (start (Path.normalize mask))) ∧ Covers same back n := by
    intro back
    rw [covers_append_plain same back _ hplain]
    constructor
    · rintro ⟨u, v, huv, hu, hv⟩
      rcases List.append_inj huv hu.length_eq with ⟨hu', hv'⟩
      rw [← hu'] at hu
      rw [← hv'] at hv
      exact ⟨hu, hv⟩
    · rintro ⟨hu, hv⟩
      exact ⟨_, n, rfl, hu, hv⟩
  rw [← hrest] at hnormal
  rcases exists_append_plain _ hplain hnormal with ⟨restWide, hwide, hback⟩
  rw [hwide, hbehind]
  nth_rewrite 1 [← hrest]
  rw [hbehind, hback.covers_iff same n hs hn]

end

end Widened

end Mask

end Maskwalk
