import Maskwalk.Proofs.Mask.Literal
import Maskwalk.Proofs.Walk.Matching

/-!
# Starting further down loses nothing

A walk does not look at the whole world. It starts at the directory of what stands in front of the
first star of its mask, and if the mask is deep it goes everywhere from there. What should be found
can be said without that directory, and without any directory at all: the files whose key the mask
fits, among the relative keys if the mask is relative and among the rooted ones if it is rooted.

Nothing else has to be asked for. A key that the mask fits starts with the text in front of the
first star, so it lies below the directory of that text, on the same side of the world.

Letters have to be compared as they are. If case is ignored, a mask fits keys that do not start with
its own text, and those are not looked for.

## Main definitions

* `Keyed.IsWanted`: what a deep mask asks for in the whole world.

## Theorems

* `Ordinary.isMatch_iff_isWanted`: What is to be found below the start of a mask is all that is
  wanted.
* `matching_whole`: What a deep mask without rules finds.
-/

namespace Maskwalk

open Maskwalk.Path (Below)

namespace Keyed

/-- What a mask in normal form asks for in the whole world: a file on the side of the mask that the
    mask fits. -/
structure IsWanted (w : Keyed) (mask p : Path) : Prop extends IsEntry w p where
  side : p.head? = some '/' ↔ mask.head? = some '/'
  fits : (Mask.compile mask false).fits p = true

/-- What is to be found by a deep walk without rules from the directory where its mask starts is all
    that the mask asks for. -/
theorem isMatch_iff_isWanted (w : Keyed) (m : Matcher) (mask : Path)
    (hcase : m.caseSensitive = true) (hdeep : Mask.isDeep (Path.normalize mask) = true)
    (p : Path) :
    w.IsMatch (m.selection (Path.normalize mask) true (some .never) (some .never))
      (Mask.start (Path.normalize mask)) p ↔ w.IsWanted (Path.normalize mask) p := by
  have hmask : (m.selection (Path.normalize mask) true (some .never) (some .never)).mask
      = Mask.compile (Path.normalize mask) false := by
    rw [Matcher.selection, hcase]
    rfl
  constructor
  · rintro ⟨hfile, hbelow, _, _, _, hfits⟩
    rw [hmask] at hfits
    have hne := Path.ne_root_of_below _ p hbelow
    exact ⟨⟨hfile, hne.1, hne.2⟩, (Mask.below_start_iff mask p hfits hne.1 hne.2).mp hbelow, hfits⟩
  · rintro ⟨⟨hfile, h0, hr⟩, hside, hfits⟩
    refine ⟨hfile, (Mask.below_start_iff mask p hfits h0 hr).mpr hside, fun hshallow => ?_,
      fun e _ _ => leftOut_never _, leftOut_never _, by rwa [hmask]⟩
    exact absurd (hdeep.symm.trans hshallow) Bool.noConfusion

end Keyed

/-- A deep mask finds all that it asks for in the whole world, each key once, where letters are
    compared as they are, no rule leaves anything out, and nothing is denied or faulty. -/
theorem matching_whole (w : Keyed) (m : Matcher) (mask : Path) (hw : w.Ordinary)
    (hdenied : w.denied = []) (hfaults : w.faults = []) (hcase : m.caseSensitive = true)
    (hdeep : Mask.isDeep (Path.normalize mask) = true) :
    ∃ found, ((m.matching mask true (some .nothing) (some .nothing)).ran w).result = .ok found ∧
      found.Nodup ∧ ∀ p, p ∈ found ↔ w.IsWanted (Path.normalize mask) p := by
  rcases hw.matched_exact (w.mayList_of_nil hdenied hfaults) (m.selection (Path.normalize mask)
    true (some .never) (some .never)) (Mask.start (Path.normalize mask))
    (Mask.normalize_start mask) with ⟨found, hm, hfound, hnodup, _⟩
  refine ⟨found, ?_, hnodup, fun p => ?_⟩
  · rw [(m.matching_reads mask true (some .nothing) (some .nothing) (some .never) (some .never) w
      rfl rfl).result]
    exact hm
  · rw [hfound p, w.isMatch_iff_isWanted m mask hcase hdeep p]

/-- The mask `a**` asks for both files in the directory `a`, and finds them from the current
    directory on. -/
theorem matching_whole_grove :
    Keyed.grove.Ordinary ∧ Mask.isDeep (Path.normalize ['a', '*', '*']) = true ∧
      (((⟨true, none, none⟩ : Matcher).matching ['a', '*', '*'] true (some .nothing)
        (some .nothing)).ran Keyed.grove).result
          = .ok [['a', '/', 'f'], ['a', '/', 'b', '/', 'g']] ∧
      ∀ p, p ∈ [['a', '/', 'f'], ['a', '/', 'b', '/', 'g']] ↔
        Keyed.grove.IsWanted (Path.normalize ['a', '*', '*']) p := by
  have hrun : (((⟨true, none, none⟩ : Matcher).matching ['a', '*', '*'] true (some .nothing)
      (some .nothing)).ran Keyed.grove).result
        = .ok [['a', '/', 'f'], ['a', '/', 'b', '/', 'g']] := rfl
  have hdeep : Mask.isDeep (Path.normalize ['a', '*', '*']) = true := by decide
  rcases matching_whole Keyed.grove ⟨true, none, none⟩ ['a', '*', '*'] Keyed.ordinary_grove rfl rfl
    rfl hdeep with ⟨found, hfound, _, hwanted⟩
  rw [hrun, Except.ok.injEq] at hfound
  rw [← hfound] at hwanted
  exact ⟨Keyed.ordinary_grove, hdeep, hrun, hwanted⟩

end Maskwalk
