import Maskwalk.Proofs.Mask.Widening
import Maskwalk.Proofs.Walk.Matching

/-!
# What more is found with stars doubled

A mask whose stars stand alone looks into the directory where it starts and nowhere else. With some
of its stars doubled it starts at the same directory and goes on from there. What it finds first is
what the single stars find, in the same order, and everything else comes behind that.

The two walks begin with the same listing, so if one cannot start neither can the other, and both
say the same about it. From the listing on, it is the entries of one directory that matter, and
these the two masks fit alike, as long as no name has an end of a line in it.

## Theorems

* `Ordinary.keptAt_widened`: Where it starts, a mask finds what it does with stars doubled.
* `Ordinary.matched_widened`: What the walks of both come to.
* `matching_widened`: With stars doubled, a match finds what it did before, and then more.
-/

namespace Maskwalk

open Maskwalk.Path (child)

namespace Keyed

namespace Ordinary

variable {w : Keyed} {mask wide : Path}

/-- In the directory where it starts, a mask finds what it finds with some of its stars doubled. -/
theorem keptAt_widened (hw : w.Ordinary)
    (hnames : ∀ d names, w.names? d = some names → ∀ n ∈ names, '\n' ∉ n)
    (h : Mask.Widened mask wide) (m : Matcher) (files : Bool) (rd rf : Option Regex) :
    w.keptAt (m.selection (Path.normalize wide) files rd rf) (Mask.start (Path.normalize mask))
      = w.keptAt (m.selection (Path.normalize mask) files rd rf)
          (Mask.start (Path.normalize mask)) := by
  have hn := Mask.normalize_start mask
  rw [hw.keptAt_eq _ _ hn, hw.keptAt_eq _ _ hn]
  refine List.filter_congr (fun c hc => ?_)
  rcases (w.mem_kids _ c).mp hc with ⟨n, hshown, hcn⟩
  have hl := (hw.shown_leads _ n hshown).2
  rcases w.names_of_shown _ n hshown with ⟨names, hlisted, hmem⟩
  have hfits : (Mask.compile (Path.normalize wide) (!m.caseSensitive)).fits c
      = (Mask.compile (Path.normalize mask) (!m.caseSensitive)).fits c := by
    rw [Bool.eq_iff_iff, Mask.fits_compile, Mask.fits_compile, hcn]
    exact (h.covers_entry_iff _ n hl.no_slash (hnames _ names hlisted n hmem)).symm
  unfold hits Matcher.selection
  rw [hfits]

/-- A walk for a mask and one for the mask with some stars doubled either cannot start, for the same
    reason, or the second finds what the first does, and then more. -/
theorem matched_widened (hw : w.Ordinary)
    (hnames : ∀ d names, w.names? d = some names → ∀ n ∈ names, '\n' ∉ n)
    (h : Mask.Widened mask wide) (m : Matcher) (files : Bool) (rd rf : Option Regex) :
    (∃ dir cause,
      w.matched (m.selection (Path.normalize mask) files rd rf) (Mask.start (Path.normalize mask))
        = .error (.unlistable dir cause) ∧
      w.matched (m.selection (Path.normalize wide) files rd rf) (Mask.start (Path.normalize wide))
        = .error (.unlistable dir cause)) ∨
    ∃ found more,
      w.matched (m.selection (Path.normalize mask) files rd rf) (Mask.start (Path.normalize mask))
        = .ok found ∧
      w.matched (m.selection (Path.normalize wide) files rd rf) (Mask.start (Path.normalize wide))
        = .ok (found ++ more) := by
  have hn := Mask.normalize_start mask
  rw [h.normalize.start_eq]
  unfold matched
  cases ho : w.opened true (Mask.start (Path.normalize mask)) with
  | error fault =>
      rcases w.unlistable_of_opened _ _ fault ho with ⟨dir, cause, hfault⟩
      exact Or.inl ⟨dir, cause, by rw [hfault], by rw [hfault]⟩
  | ok entries =>
      -- The first walk stays where it starts, and that is where the tour of the second begins.
      have hfirst := Selection.tour_of_shallow (m.selection (Path.normalize mask) files rd rf)
        w.entriesAt w.depth (Mask.start (Path.normalize mask)) h.normalize.isDeep_eq_false
      rcases (hw.descends (m.selection (Path.normalize wide) files rd rf)).tour_complete
        (w.depth + 1) _ hn (Nat.succ_pos _) (fun _ => by omega) with ⟨dirs, hsecond⟩
      rcases Selection.exists_cons_of_tour _ _ _ _ dirs hsecond with ⟨below, hdirs⟩
      rw [hdirs] at hsecond
      refine Or.inr ⟨_, below.flatMap
        (w.keptAt (m.selection (Path.normalize wide) files rd rf)), by rw [hfirst]; rfl, ?_⟩
      rw [hsecond]
      change Except.ok (List.flatMap _ (_ :: below)) = _
      rw [List.flatMap_cons, hw.keptAt_widened hnames h, List.flatMap_singleton]

end Ordinary

end Keyed

/-- A match of a mask without two stars in a row, and one of the mask with some of its stars
    doubled, under the same rules. If the pattern of a rule cannot be read, neither match comes to
    anything. Otherwise both are refused for the same directory, or both come to a result, and the
    second begins with the first. -/
theorem matching_widened (w : Keyed) (m : Matcher) (mask wide : Path) (files : Bool)
    (dirRule fileRule : Option Rule) (hw : w.Ordinary)
    (hnames : ∀ d names, w.names? d = some names → ∀ n ∈ names, '\n' ∉ n)
    (h : Mask.Widened mask wide) :
    (∃ problem, (Rule.inForce m.dirRule dirRule = .error problem ∨
        Rule.inForce m.fileRule fileRule = .error problem) ∧
      ((m.matching mask files dirRule fileRule).ran w).result = .error (.badPattern problem) ∧
      ((m.matching wide files dirRule fileRule).ran w).result = .error (.badPattern problem)) ∨
    (∃ dir cause,
      ((m.matching mask files dirRule fileRule).ran w).result = .error (.unlistable dir cause) ∧
      ((m.matching wide files dirRule fileRule).ran w).result = .error (.unlistable dir cause)) ∨
    ∃ found more, ((m.matching mask files dirRule fileRule).ran w).result = .ok found ∧
      ((m.matching wide files dirRule fileRule).ran w).result = .ok (found ++ more) := by
  have hrefused := fun mask problem hp =>
    (m.matching_refused mask files dirRule fileRule w problem hp).result
  cases hd : Rule.inForce m.dirRule dirRule with
  | error problem =>
      exact Or.inl ⟨problem, Or.inl rfl, hrefused mask problem (Or.inl hd),
        hrefused wide problem (Or.inl hd)⟩
  | ok rd =>
      cases hf : Rule.inForce m.fileRule fileRule with
      | error problem =>
          exact Or.inl ⟨problem, Or.inr rfl, hrefused mask problem (Or.inr ⟨⟨rd, hd⟩, hf⟩),
            hrefused wide problem (Or.inr ⟨⟨rd, hd⟩, hf⟩)⟩
      | ok rf =>
          rw [(m.matching_reads mask files dirRule fileRule rd rf w hd hf).result,
            (m.matching_reads wide files dirRule fileRule rd rf w hd hf).result]
          exact Or.inr (hw.matched_widened hnames h m files rd rf)

/-- The mask `a/*` finds the file in the directory `a`, and `a/**` finds it first. -/
theorem matching_widened_grove : Keyed.grove.Ordinary ∧
    (∀ d names, Keyed.grove.names? d = some names → ∀ n ∈ names, '\n' ∉ n) ∧
    Mask.Widened ['a', '/', '*'] ['a', '/', '*', '*'] ∧
    ∃ more, (((⟨true, none, none⟩ : Matcher).matching ['a', '/', '*'] true none
        (some .nothing)).ran Keyed.grove).result = .ok [['a', '/', 'f']] ∧
      (((⟨true, none, none⟩ : Matcher).matching ['a', '/', '*', '*'] true none
        (some .nothing)).ran Keyed.grove).result = .ok ([['a', '/', 'f']] ++ more) := by
  have hnames : ∀ d names, Keyed.grove.names? d = some names → ∀ n ∈ names, '\n' ∉ n := by
    intro d names hd n hn
    have hall : ∀ entry ∈ Keyed.grove.dirs, ∀ n ∈ entry.2, '\n' ∉ n := by decide
    exact hall _ (Keyed.mem_of_valueOf? d names _ hd) n hn
  have hwide : Mask.Widened ['a', '/', '*'] ['a', '/', '*', '*'] :=
    .other (by decide) (.other (by decide) (.double (by decide) .nil))
  have hfirst : (((⟨true, none, none⟩ : Matcher).matching ['a', '/', '*'] true none
      (some .nothing)).ran Keyed.grove).result = .ok [['a', '/', 'f']] := rfl
  have h := matching_widened Keyed.grove ⟨true, none, none⟩ ['a', '/', '*'] ['a', '/', '*', '*']
    true none (some .nothing) Keyed.ordinary_grove hnames hwide
  rw [hfirst] at h
  -- The first match comes to a result, so the second does.
  rcases h with ⟨_, _, h, _⟩ | ⟨_, _, h, _⟩ | ⟨found, more, h, hsecond⟩
  · exact absurd h (by simp only [reduceCtorEq, not_false_eq_true])
  · exact absurd h (by simp only [reduceCtorEq, not_false_eq_true])
  · rw [Except.ok.injEq] at h
    rw [← h] at hsecond
    exact ⟨Keyed.ordinary_grove, hnames, hwide, more, hfirst, hsecond⟩

end Maskwalk
