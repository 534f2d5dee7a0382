import Maskwalk.Proofs.Mask.Inside
import Maskwalk.Proofs.Walk.Matching
import Maskwalk.Tree

/-!
# What a directory holds

Before a directory is removed, what it holds is matched by its path with a star behind it, once for
directories and once for files, with no name left out. In an ordinary world this always comes to an
answer, and the world is left as it was: the walk ends, and a directory that cannot be listed holds
nothing.

For a path without stars the answer is right: it is the entries of the directory that have the
wanted kind. For any other path it is what the mask finds, wherever that is.

## Main definitions

* `Matcher.inside`: what is selected when a directory is asked for what it holds.
* `Keyed.holds`: what a directory is found to hold.

## Theorems

* `contents_reads`: Asking for what a directory holds comes to an answer and changes nothing.
* `Ordinary.isMatch_of_holds`, `Ordinary.holds_of_isMatch`: What is found is what the mask selects.
* `Ordinary.holds_eq`: Where there is no star, it is what the directory holds.
* `endsInMarker_child`: No entry is passed over as a marker.
-/

namespace Maskwalk

open Maskwalk.Path (child Below Within)

open Attempt

/-- The mask of what a directory holds, in its normal form. -/
def insideMask (dir : Path) : Path := Path.normalize (Path.join dir ['*'])

/-- What is selected when a directory is asked for the files or the directories that it holds. -/
def Matcher.inside (m : Matcher) (dir : Path) (files : Bool) : Selection :=
  m.selection (insideMask dir) files (if files then m.dirRule else some Regex.never)
    (if files then some Regex.never else m.fileRule)

/-- What a directory is found to hold. One that cannot be listed holds nothing. -/
def Keyed.holds (w : Keyed) (m : Matcher) (dir : Path) (files : Bool) : List Path :=
  match w.matched (m.inside dir files) (Mask.start (insideMask dir)) with
  | .ok found => found
  | .error _ => []

theorem normalize_start_inside (dir : Path) :
    Path.normalize (Mask.start (insideMask dir)) = Mask.start (insideMask dir) :=
  Mask.normalize_start (Path.join dir ['*'])

/-- The match by which a directory is asked for what it holds comes to what is selected there. -/
theorem inside_reads (m : Matcher) (dir : Path) (files : Bool) (w : Keyed) :
    Reads (if files then m.matching (Path.join dir ['*']) true none (some .nothing)
      else m.matching (Path.join dir ['*']) false (some .nothing) none) w
      (w.matched (m.inside dir files) (Mask.start (insideMask dir))) := by
  -- The rule given for the kind that is not wanted leaves out nothing of the other.
  cases files with
  | true => exact m.matching_reads _ true none (some .nothing) m.dirRule (some .never) w rfl rfl
  | false => exact m.matching_reads _ false (some .nothing) none (some .never) m.fileRule w rfl rfl

/-- Asking for what a directory holds comes to an answer and changes nothing, if walks go down. -/
theorem contents_reads_of_descends (m : Matcher) (dir : Path) (files : Bool) (w : Keyed)
    (hw : w.Descends (m.inside dir files)) :
    Reads (contents m dir files) w (.ok (w.holds m dir files)) := by
  unfold contents
  refine (inside_reads m dir files w).caught.bind_ok (fun calls => ?_)
  unfold Keyed.holds
  rcases hw.matched_cases _ (normalize_start_inside dir) with ⟨dirs, _, hm⟩ | ⟨_, dir', cause, hm⟩
  · rw [hm]
    exact Reads.pure _ _
  · rw [hm]
    exact (Reads.notice _ _).bind_ok (fun calls => Reads.pure _ _)

theorem contents_reads (m : Matcher) (dir : Path) (files : Bool) (w : Keyed) (hw : w.Ordinary) :
    Reads (contents m dir files) w (.ok (w.holds m dir files)) :=
  contents_reads_of_descends m dir files w (hw.descends _)

theorem insideMask_proper (d : Path) (hd : Path.Proper d) : insideMask d = child d ['*'] := by
  rw [insideMask, Path.join_child d _ hd (Path.leads_star d)]
  exact Path.normalize_proper _ (Path.Proper.child hd (Path.leads_star d))

/-- Without stars in its path, a directory is where the mask of what it holds starts. -/
theorem start_inside (d : Path) (hd : Path.Proper d) (hs : '*' ∉ d) :
    Mask.start (insideMask d) = d := by
  rw [insideMask_proper d hd]
  exact Mask.start_child d [] hs (Path.proper_ne_here d hd)

namespace Keyed

namespace Ordinary

variable {w : Keyed}

/-- What a directory is found to hold is what the mask selects. -/
theorem isMatch_of_holds (h : w.Ordinary) (m : Matcher) (dir : Path) (files : Bool) (p : Path)
    (hp : p ∈ w.holds m dir files) :
    w.IsMatch (m.inside dir files) (Mask.start (insideMask dir)) p := by
  unfold holds at hp
  rcases (h.descends (m.inside dir files)).matched_cases _ (normalize_start_inside dir) with
    ⟨dirs, ht, hm⟩ | ⟨_, dir', cause, hm⟩
  · rw [hm] at hp
    exact h.isMatch_of_found _ _ _ dirs (normalize_start_inside dir) ht p hp
  · rw [hm] at hp
    exact absurd hp List.not_mem_nil

theorem holds_of_isMatch (h : w.Ordinary) (hmay : ∀ d, w.mayList d = true) (m : Matcher)
    (dir : Path) (files : Bool) (p : Path)
    (hp : w.IsMatch (m.inside dir files) (Mask.start (insideMask dir)) p) :
    p ∈ w.holds m dir files := by
  rcases h.matched_exact hmay (m.inside dir files) _ (normalize_start_inside dir) with
    ⟨found, hm, hfound, _⟩
  unfold holds
  rw [hm]
  exact (hfound p).mpr hp

/-- Without stars in its path, a directory is found to hold its entries of the wanted kind. -/
theorem holds_eq (h : w.Ordinary) (m : Matcher) (d : Path) (files : Bool) (hd : Path.Proper d)
    (hs : '*' ∉ d) :
    w.holds m d files = (w.kids d).filter fun c => if files then w.hasFile c else w.hasDir c := by
  -- The mask is a star in the directory, so a walk starts there and goes no deeper.
  have hmask := insideMask_proper d hd
  have hstart := start_inside d hd hs
  have hdeep : (m.inside d files).deep = false := by
    change Mask.isDeep (insideMask d) = false
    rw [hmask, Mask.isDeep_child_star]
    exact Mask.isDeep_of_no_star d hs
  have hn := Path.normalize_proper d hd
  have hkept : w.keptAt (m.inside d files) d
      = (w.kids d).filter fun c => if files then w.hasFile c else w.hasDir c := by
    rw [h.keptAt_eq _ d hn]
    refine List.filter_congr (fun c hc => ?_)
    rcases (w.mem_kids d c).mp hc with ⟨n, hn', hcn⟩
    have hl := (h.shown_leads d n hn').2
    -- A star takes every name, so the kind of the entry alone decides.
    have hfits : (m.inside d files).mask.fits c = true := by
      change (Mask.compile (insideMask d) (!m.caseSensitive)).fits c = true
      rw [Mask.fits_compile, hmask, hcn]
      exact Mask.covers_child_star _ (fun a c => Text.sameLetter_slash _ a c)
        (Text.sameLetter_refl _) d n hs hl.no_slash
    rw [hits, hfits, Bool.and_true]
    cases files with
    | true =>
        change (w.hasFile c && !leftOut (some Regex.never) (name c)) = w.hasFile c
        rw [leftOut_never, Bool.not_false, Bool.and_true]
    | false =>
        change (w.hasDir c && !leftOut (some Regex.never) (name c)) = w.hasDir c
        rw [leftOut_never, Bool.not_false, Bool.and_true]
  unfold holds
  rw [hstart]
  rcases (h.descends (m.inside d files)).matched_cases d hn with
    ⟨dirs, ht, hm⟩ | ⟨hno, _, cause, hm⟩
  · rw [Selection.tour, hdeep, if_neg Bool.false_ne_true, Option.some.injEq] at ht
    rw [hm, ← ht]
    change [d].flatMap (w.keptAt (m.inside d files)) = _
    rw [List.flatMap_singleton, hkept]
  · rw [hm, kids, shown, hno, if_neg Bool.false_ne_true]
    rfl

end Ordinary

end Keyed

theorem baseName_append_slash (front n : Text) (h : '/' ∉ n) :
    Path.baseName (front ++ '/' :: n) = n := by
  rw [Path.baseName, List.reverse_append, List.reverse_cons, List.append_assoc,
    List.takeWhile_append_of_pos]
  · change (n.reverse ++ []).reverse = n
    rw [List.append_nil, List.reverse_reverse]
  · intro c hc
    have hne : c ≠ '/' := fun h0 => h (by rw [← h0]; exact List.mem_reverse.mp hc)
    rw [Path.isSlash, decide_eq_false hne, Bool.not_false]

/-- The key of an entry does not end in a marker. -/
theorem endsInMarker_child (d n : Text) (hn : Path.IsName n) :
    endsInMarker (child d n) = false := by
  -- What ends in a slash and a marker has the marker for its last name.
  have hend : ∀ t : Text, '/' ∉ t → n ≠ t → ('/' :: t).isSuffixOf (child d n) = false := by
    intro t ht hne
    rw [Bool.eq_false_iff, ne_eq, List.isSuffixOf_iff_suffix]
    rintro ⟨front, hfront⟩
    refine hne ?_
    rw [← Path.name_child d n hn.no_slash, ← hfront]
    exact baseName_append_slash front t ht
  rw [endsInMarker, hend ['.'] (by decide) hn.ne_dot, hend ['.', '.'] (by decide) hn.ne_dotDot]
  rfl

/-- No directory that is found in another is taken for a marker. -/
theorem Keyed.Ordinary.kids_not_markers {w : Keyed} (h : w.Ordinary) (p : Path) :
    ((w.kids p).filter w.hasDir).filter (!endsInMarker ·) = (w.kids p).filter w.hasDir := by
  rw [List.filter_eq_self]
  intro c hc
  rcases (w.mem_kids p c).mp (List.mem_filter.mp hc).1 with ⟨n, hn, hcn⟩
  rw [hcn, endsInMarker_child p n (h.shown_leads p n hn).2.toIsName]
  rfl

end Maskwalk
