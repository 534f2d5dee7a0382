import Maskwalk.Proofs.Tree.Confinement
import Maskwalk.Proofs.Tree.Visits
import Mathlib.Logic.Relation

/-!
# Removals among markers

Where directories list markers for themselves and for the ones above them, a removal must not take
these for directories. It tells them by the end of their paths, a slash and then the marker. The
path of an entry of the current directory is its name alone, so there the markers have no slash in
front of them: they are found, and they are not told from directories.

In every other directory all goes well. What is found there and not passed over is a directory in
its own right, and its mask has more slashes than the one by which it was found. A mask can have no
more slashes than the longest key has characters, so the visits come to an end long before the depth
does.

In the current directory the marker for the directory above is harmless as well. There is no
directory of that name, so its visit finds nothing and its removal is refused. The marker for the
directory itself is one more path for the current directory: its visit is the same one again, and so
on for ever.

## Main definitions

* `level`: how far down a path is.
* `Keyed.Circles`: a path whose removal runs in circles.
* `Visit.Bounded`: a visit from which there is only so far to go.

## Theorems

* `Marked.found_cases`: What is found and not passed over is a directory further down, or a marker
  in the current directory.
* `Visit.Bounded.calls`, `Visit.Bounded.not_endless`: Visits that do not circle come to an end.
* `Ordinary.endless_of_circles`: Visits that circle do not.
* `removeTree_markers`: Which removals end, and which treat a marker as a directory.
-/

namespace Maskwalk

open Attempt

open Maskwalk.Path (child)

/-- How far down a path is: the number of slashes in the mask of what it holds. -/
def level (p : Path) : Nat := (insideMask (Path.normalize p)).count '/'

theorem Keyed.isMark_iff (n : Text) : Keyed.isMark n = true ↔ n = Path.dot ∨ n = Path.dotDot := by
  rw [Keyed.isMark, Bool.or_eq_true, decide_eq_true_eq, decide_eq_true_eq]

/-- What holds of both markers holds of every marker. -/
theorem Keyed.forall_isMark (kind : Text → Prop) (hdot : kind Path.dot) (hdotDot : kind Path.dotDot)
    (n : Text) (hn : Keyed.isMark n = true) : kind n := by
  rcases (Keyed.isMark_iff n).mp hn with hn | hn
  · rw [hn]
    exact hdot
  · rw [hn]
    exact hdotDot

/-- The last name of a proper key is no marker. -/
theorem proper_not_mark (p : Path) (h : Path.Proper p) : Keyed.isMark (Keyed.name p) = false := by
  cases h with
  | here => decide
  | root => decide
  | @child d n _ name =>
      rw [Path.name_child d n name.no_slash]
      exact Keyed.isMark_of_isName n name.toIsName

/-- The mask of what a path holds is a star in the place of the path, unless that is the bare root of
    shares. -/
theorem insideMask_place (p : Path) (hshare : Path.normalize p ≠ ['/', '/']) :
    insideMask (Path.normalize p) = child (Path.place p) ['*'] := by
  have hn := Path.normalize_normalize p
  rw [insideMask_eq _ hn hshare, Path.place, Path.place, hn]

/-- The mask of what a path holds has no slash just if the path stands for the current directory. -/
theorem level_eq_zero_iff (p : Path) : level p = 0 ↔ Path.place p = [] := by
  by_cases hshare : Path.normalize p = ['/', '/']
  · rw [level, Path.place, hshare]
    decide
  · rw [level, insideMask_place p hshare, List.count_eq_zero, Path.mem_child]
    constructor
    · intro h
      by_contra hne
      exact h (Or.inr (Or.inl ⟨rfl, hne⟩))
    · intro h
      rw [h]
      decide

theorem insideMask_here (p : Path) (hp : Path.place p = []) :
    insideMask (Path.normalize p) = ['*'] := by
  have hshare : Path.normalize p ≠ ['/', '/'] := fun hshare => by
    rw [Path.place, hshare] at hp
    exact absurd hp (by decide)
  rw [insideMask_place p hshare, hp]
  rfl

/-- The level of an entry is one more than its slashes, and its key is at least as long. -/
theorem level_child (d n : Text) (hd : Path.Proper d) (hl : Path.Leads d n) :
    level (child d n) = (child d n).count '/' + 1 ∧ level (child d n) ≤ (child d n).length := by
  have hc : Path.Proper (child d n) := Path.Proper.child hd hl
  have hlevel : level (child d n) = (child d n).count '/' + 1 := by
    rw [level, Path.normalize_proper _ hc, insideMask_proper _ hc, child,
      Path.into_of_ne _ (Path.child_ne_nil d n hl.ne_nil)
        (Path.child_ne_root d n hl.ne_nil hl.no_slash), List.count_append, List.count_append]
    rfl
  refine ⟨hlevel, ?_⟩
  -- The slashes are all in front of the name.
  have hfront := List.count_le_length (a := '/') (l := Path.into d)
  have hname := List.length_pos_iff.mpr hl.ne_nil
  rw [hlevel, child, List.count_append, List.count_eq_zero_of_not_mem hl.no_slash,
    List.length_append]
  omega

/-- A marker of another directory than the current one is passed over. -/
theorem endsInMarker_join (d n : Text) (hd : Path.Proper d) (hne : d ≠ [])
    (hn : Keyed.isMark n = true) : endsInMarker (Path.join d n) = true := by
  rcases Path.into_getLast d hne with ⟨lead, hlead⟩
  have hjoin : Path.join d n = lead ++ '/' :: n := by
    rw [Path.join_eq_child d n hd.inTree
      (Keyed.forall_isMark (· ≠ []) (by decide) (by decide) n hn)
      (fun _ => Keyed.forall_isMark (Path.isAbsolute · = false) (by decide) (by decide) n hn),
      child, hlead, List.append_assoc]
    rfl
  rw [hjoin, endsInMarker, Bool.or_eq_true, List.isSuffixOf_iff_suffix, List.isSuffixOf_iff_suffix]
  rcases (Keyed.isMark_iff n).mp hn with hn | hn
  · rw [hn]
    exact Or.inl (List.suffix_append lead _)
  · rw [hn]
    exact Or.inr (List.suffix_append lead _)

/-- A marker of the current directory is not. -/
theorem endsInMarker_mark (n : Text) (hn : Keyed.isMark n = true) : endsInMarker n = false :=
  Keyed.forall_isMark (endsInMarker · = false) (by decide) (by decide) n hn

theorem join_here_mark (n : Text) (hn : Keyed.isMark n = true) : Path.join [] n = n :=
  Keyed.forall_isMark (fun n => Path.join [] n = n) (by decide) (by decide) n hn

namespace Keyed

/-- A path whose removal runs in circles: it stands for the current directory, and that shows a
    marker for itself. -/
def Circles (w : Keyed) (p : Path) : Prop := Path.place p = [] ∧ Path.dot ∈ w.shown []

namespace Marked

variable {w : Keyed} (h : w.Marked)

include h

/-- Whatever a directory is found to hold is a name that some directory shows, and its mask fits it.
    What is no marker is a directory. -/
theorem name_of_holds (m : Matcher) (dir c : Path) (hc : c ∈ w.holds m dir false) :
    ∃ d n, n ∈ w.shown d ∧ c = Path.join d n ∧
      Mask.Covers (Text.sameLetter (!m.caseSensitive)) (insideMask dir) c ∧
      (isMark n = false → w.hasDir c = true) := by
  unfold holds at hc
  rcases (h.descends (m.inside dir false)).matched_cases _ (normalize_start_inside dir) with
    ⟨dirs, _, hm⟩ | ⟨_, dir', cause, hm⟩
  · rw [hm] at hc
    refine w.found_forall _ _ _ hm (fun d => Path.normalize d = d)
      (fun c => ∃ d n, n ∈ w.shown d ∧ c = Path.join d n ∧
        Mask.Covers (Text.sameLetter (!m.caseSensitive)) (insideMask dir) c ∧
        (isMark n = false → w.hasDir c = true))
      (normalize_start_inside dir) (fun _ d c hd hc => (h.descends _).normal d c hd hc)
      (fun d c hd hc => ?_) c hc
    rcases (w.mem_keptAt _ d c).mp hc with ⟨n, hn, hkeeps, hcn⟩
    rw [hd] at hn hkeeps
    rw [Selection.keeps, w.entryOf_name, Bool.and_eq_true, ← hcn] at hkeeps
    refine ⟨d, n, hn, hcn, (Mask.fits_compile _ _ c).mp hkeeps.2, fun hmark => ?_⟩
    have hwants := hkeeps.1
    rw [w.entryOf_of_not_mark d n hmark, ← hcn] at hwants
    change (w.hasDir c && _) = true at hwants
    rw [Bool.and_eq_true] at hwants
    exact hwants.1
  · rw [hm] at hc
    exact absurd hc List.not_mem_nil

/-- What is found in a directory and not passed over is a directory further down, or a marker in the
    current directory. -/
theorem found_cases (m : Matcher) (p c : Path) (hc : c ∈ w.holds m (Path.normalize p) false)
    (hend : endsInMarker c = false) :
    (w.hasDir c = true ∧ Path.place c ≠ [] ∧ isMark (name c) = false ∧ level p < level c ∧
      level c ≤ c.length) ∨
    (Path.place p = [] ∧ isMark c = true ∧ c ∈ w.shown []) := by
  rcases h.name_of_holds m _ c hc with ⟨d, n, hn, hcn, hcov, hdir⟩
  have hproper := h.proper_of_shown d n hn
  have hslashes : level p ≤ c.count '/' :=
    (Mask.count_of_covers _ (Text.sameLetter_slash _) _ c hcov).1
  cases hmark : isMark n with
  | false =>
      have hl := h.shown_leads d n hn hmark
      rw [Path.join_child d n hproper hl] at hcn
      have hc' : Path.Proper c := by
        rw [hcn]
        exact Path.Proper.child hproper hl
      rcases level_child d n hproper hl with ⟨hlevel, hlength⟩
      rw [← hcn] at hlevel hlength
      refine Or.inl ⟨hdir hmark, ?_, proper_not_mark c hc', ?_, hlength⟩
      · rw [Path.place_proper c hc', hcn]
        exact Path.child_ne_nil d n hl.ne_nil
      · omega
  -- A marker is not passed over in the current directory only, and has no slash there.
  | true =>
      by_cases h0 : d = []
      · rw [h0, join_here_mark n hmark] at hcn
        rw [h0] at hn
        rw [hcn] at hslashes ⊢
        rw [forall_isMark (fun n => n.count '/' = 0) (by decide) (by decide) n hmark,
          Nat.le_zero] at hslashes
        exact Or.inr ⟨(level_eq_zero_iff p).mp hslashes, hmark, hn⟩
      · rw [hcn, endsInMarker_join d n hproper h0 hmark] at hend
        exact absurd hend (by decide)

end Marked

/-- What the current directory is found to hold are the names that it shows and that are kept. -/
theorem holds_here (w : Keyed) (m : Matcher) (p : Path) (hp : Path.place p = [])
    (hmay : w.mayList [] = true) : w.holds m (Path.normalize p) false =
      ((w.shown []).filter ((m.inside (Path.normalize p) false).keeps [] ∘ w.entryOf [])).map
        (Path.join []) := by
  have hmask := insideMask_here p hp
  have hstart : Mask.start (insideMask (Path.normalize p)) = [] := by
    rw [hmask]
    decide
  have hdeep : (m.inside (Path.normalize p) false).deep = false := by
    change Mask.isDeep (insideMask (Path.normalize p)) = false
    rw [hmask]
    decide
  unfold holds
  rw [hstart, matched, w.opened_of_mayList true [] hmay, Selection.tour_of_shallow _ _ _ _ hdeep]
  change [[]].flatMap (w.keptAt _) = _
  rw [List.flatMap_singleton, keptAt, Selection.kept, entriesAt_eq, List.filter_map, List.map_map]
  exact List.map_congr_left fun n _ => by rw [Function.comp_apply, w.entryOf_name]

/-- A marker of the current directory is kept: it counts as a directory, the star fits it, and no
    rule leaves it out. -/
theorem keeps_mark (w : Keyed) (m : Matcher) (p : Path) (hp : Path.place p = []) (n : Text)
    (hn : isMark n = true) :
    (m.inside (Path.normalize p) false).keeps [] (w.entryOf [] n) = true := by
  rw [entryOf, if_pos hn, Selection.keeps, join_here_mark n hn, Bool.and_eq_true]
  constructor
  · change (true && !leftOut (some Regex.never) n) = true
    rw [leftOut_never]
    rfl
  · change (Mask.compile (insideMask (Path.normalize p)) (!m.caseSensitive)).fits n = true
    rw [Mask.fits_compile, insideMask_here p hp, Mask.covers_star]
    exact forall_isMark ('/' ∉ ·) (by decide) (by decide) n hn

/-- Markers at the front of the current directory are found first, and are not passed over. -/
theorem found_front (w : Keyed) (m : Matcher) (p : Path) (hp : Path.place p = [])
    (front back : List Text) (hshown : w.shown [] = front ++ back) (hne : front ≠ [])
    (hfront : ∀ x ∈ front, isMark x = true) : ∃ rest,
      (w.holds m (Path.normalize p) false).filter (!endsInMarker ·) = front ++ rest := by
  have hmay : w.mayList [] = true := by
    rw [shown] at hshown
    by_contra hno
    rw [if_neg hno] at hshown
    exact hne (List.append_eq_nil_iff.mp hshown.symm).1
  have hkept : front.filter ((m.inside (Path.normalize p) false).keeps [] ∘ w.entryOf []) = front :=
    List.filter_eq_self.mpr fun x hx => w.keeps_mark m p hp x (hfront x hx)
  have hjoined : front.map (Path.join []) = front := by
    rw [List.map_congr_left fun x hx => join_here_mark x (hfront x hx)]
    exact List.map_id' front
  have hstays : front.filter (!endsInMarker ·) = front :=
    List.filter_eq_self.mpr fun x hx => by rw [endsInMarker_mark x (hfront x hx)]; rfl
  rw [w.holds_here m p hp hmay, hshown, List.filter_append, hkept, List.map_append, hjoined,
    List.filter_append, hstays]
  exact ⟨_, rfl⟩

namespace Marked

variable {w : Keyed} (h : w.Marked)

include h

/-- The marker for the directory above is no directory, so nothing is found in it. -/
theorem holds_dotDot (m : Matcher) (files : Bool) : w.holds m Path.dotDot files = [] := by
  have hstart : Mask.start (insideMask Path.dotDot) = Path.dotDot := by decide
  have hdeep : (m.inside Path.dotDot files).deep = false := by
    change Mask.isDeep (insideMask Path.dotDot) = false
    decide
  unfold holds
  rw [hstart]
  rcases (h.descends (m.inside Path.dotDot files)).matched_cases Path.dotDot (by decide) with
    ⟨dirs, ht, hm⟩ | ⟨_, dir', cause, hm⟩
  · rw [Selection.tour_of_shallow _ _ _ _ hdeep, Option.some.injEq] at ht
    rw [hm, ← ht]
    change [Path.dotDot].flatMap (w.keptAt _) = []
    rw [List.flatMap_singleton, List.eq_nil_iff_forall_not_mem]
    intro c hc
    rcases (w.mem_keptAt _ _ c).mp hc with ⟨n, hn, _⟩
    exact absurd (proper_not_mark _ (h.proper_of_shown _ n hn)) (by decide)
  · rw [hm]

/-- Removing the marker for the directory above is refused, for the same reason every time. -/
theorem rmdir_dotDot : ∃ why, why.isRefusal = true ∧ ∀ calls,
    Reads (Attempt.request (.rmdir Path.dotDot)) { w with calls } (.ok (.error why)) := by
  have hno : valueOf? Path.dotDot w.dirs = none := by
    by_contra hsome
    rcases Option.ne_none_iff_exists'.mp hsome with ⟨names, hnames⟩
    exact absurd (proper_not_mark _ (h.proper _ names hnames)) (by decide)
  have hsettled : ∀ v : Keyed, (Request.rmdir Path.dotDot).settled v =
      v.unlessFaulty (.rmdir Path.dotDot) Path.dotDot (·.rmdir Path.dotDot) := fun v => rfl
  cases hfault : valueOf? Path.dotDot w.faults with
  | some reason =>
      refine ⟨.other reason, rfl, fun calls => ?_⟩
      have hreply := hsettled { w with calls }
      rw [unlessFaulty, show valueOf? Path.dotDot ({ w with calls } : Keyed).faults = _ from hfault]
        at hreply
      exact ⟨by rw [ran_request, hreply], calls, by rw [ran_request, hreply]⟩
  | none =>
      refine ⟨.system .noEntry Path.dotDot, rfl, fun calls => ?_⟩
      have hreply := hsettled { w with calls }
      rw [unlessFaulty, show valueOf? Path.dotDot ({ w with calls } : Keyed).faults = _ from hfault]
        at hreply
      change _ = (record (.rmdir Path.dotDot) { w with calls }).rmdir Path.dotDot at hreply
      rw [rmdir, show valueOf? Path.dotDot (record (.rmdir Path.dotDot) { w with calls }).dirs = _
        from hno] at hreply
      exact ⟨by rw [ran_request, hreply], .rmdir Path.dotDot :: calls,
        by rw [ran_request, hreply]; rfl⟩

/-- A visit for the marker for the directory above finds nothing and changes nothing. -/
theorem removeFound_dotDot (m : Matcher) (depth : Nat) :
    Reads (removeFound m (depth + 1) Path.dotDot) w (.ok ()) := by
  have hempty : ∀ files calls, Reads (contents m Path.dotDot files) { w with calls } (.ok []) := by
    intro files calls
    have hcalls := (Thinned.of_calls w calls).marked h
    rw [← hcalls.holds_dotDot m files]
    exact hcalls.contents_reads m Path.dotDot files
  rcases h.rmdir_dotDot with ⟨why, hwhy, hrmdir⟩
  have hemptied : ∀ calls,
      Reads (removeEmptied m Path.dotDot) { w with calls } (.ok (.failedAt Path.dotDot why)) := by
    intro calls
    refine (hempty true calls).bind_ok fun calls => ?_
    refine (Reads.pure () _).bind_ok fun calls => ?_
    refine (hrmdir calls).bind_ok fun calls => ?_
    simp only [hwhy, if_true, refused]
    exact (Reads.notice _ _).bind_ok fun calls => Reads.pure _ _
  have hvisit : Reads (removeTreeWithin m (depth + 1) Path.dotDot) w
      (.ok (.failedAt Path.dotDot why)) := by
    rw [removeTreeWithin, show Path.normalize Path.dotDot = Path.dotDot by decide]
    refine (hempty false w.calls).bind_ok fun calls => ?_
    exact (Reads.pure () _).bind_ok fun calls => hemptied calls
  exact hvisit.bind_ok fun calls => Reads.pure () _

theorem removeFound_dotDots (m : Matcher) (depth : Nat) (paths : List Path)
    (hpaths : ∀ x ∈ paths, x = Path.dotDot) : ∀ calls,
      Reads (doEach (removeFound m (depth + 1)) paths) { w with calls } (.ok ()) := by
  induction paths with
  | nil => exact fun calls => Reads.pure () _
  | cons first more ih =>
      intro calls
      rw [hpaths first List.mem_cons_self]
      have hfirst := ((Thinned.of_calls w calls).marked h).removeFound_dotDot m depth
      exact hfirst.bind_ok fun calls => ih (fun x hx => hpaths x (List.mem_cons_of_mem _ hx)) calls

end Marked

end Keyed

namespace Visit

variable {m : Matcher}

/-- A visit from which there is only so far to go: no directory of its world has a longer key than
    the depth that is left allows for, and the visit does not run in circles. -/
structure Bounded (bound : Nat) (t : Visit) : Prop where
  marked : t.world.Marked
  short : ∀ d, t.world.hasDir d = true → d.length < bound
  left : 0 < t.depth
  enough : bound < t.depth + level t.path
  straight : ¬ t.world.Circles t.path

/-- What a bounded visit calls is bounded. -/
theorem Bounded.calls {bound : Nat} {t t' : Visit} (h : t.Bounded bound) (hc : t.Calls m t') :
    t'.Bounded bound := by
  rcases hc.inv h.marked with ⟨hdepth, hfound, hend, hthin⟩
  have henough := h.enough
  have hshort : ∀ d, t'.world.hasDir d = true → d.length < bound :=
    fun d hd => h.short d (hthin.hasDir d hd)
  rcases h.marked.found_cases m t.path t'.path hfound hend with
    ⟨hdir, hplace, _, hdown, hlength⟩ | ⟨hplace, hmark, hshown⟩
  · have hlong := h.short t'.path hdir
    exact ⟨hthin.marked h.marked, hshort, by omega, by omega, fun hcirc => hplace hcirc.1⟩
  -- A marker is that of the directory above, and the current directory is there.
  · have hdotDot : t'.path = Path.dotDot := by
      rcases (Keyed.isMark_iff _).mp hmark with hdot | hdotDot
      · rw [hdot] at hshown
        exact absurd ⟨hplace, hshown⟩ h.straight
      · exact hdotDot
    have hzero := (level_eq_zero_iff t.path).mpr hplace
    have hone : level t'.path = 1 := by
      rw [hdotDot]
      decide
    have hhere : 0 < bound := by
      rcases t.world.names_of_shown [] _ hshown with ⟨names, hnames, _⟩
      exact h.short [] ((t.world.hasDir_iff []).mpr ⟨names, hnames⟩)
    refine ⟨hthin.marked h.marked, hshort, by omega, by omega, fun hcirc => ?_⟩
    rw [hdotDot] at hcirc
    exact absurd hcirc.1 (by decide)

/-- A bounded visit is not given up. -/
theorem Bounded.not_endless {bound : Nat} (depth : Nat) : ∀ t : Visit, t.depth = depth →
    t.Bounded bound → ¬ t.Endless m := by
  induction depth with
  | zero =>
      intro t hdepth h
      have hleft := h.left
      omega
  | succ depth ih =>
      intro t hdepth h hend
      rcases (endless_iff t h.marked).mp hend with h0 | ⟨t', hc, ht'⟩
      · exact absurd h0 (Nat.pos_iff_ne_zero.mp h.left)
      · have hnext := (hc.inv h.marked).1
        exact ih t' (by omega) (h.calls hc) ht'

/-- Away from the current directory, and behind one call from there that is not for a marker, no
    visit is for a marker. -/
theorem not_mark_of_calls {t t' : Visit} (h : t.world.Marked)
    (hhere : Path.place t.path = [] → ∀ n ∈ t.world.shown [], Keyed.isMark n = false)
    (hc : Relation.TransGen (Calls m) t t') :
    t'.world.Marked ∧ Path.place t'.path ≠ [] ∧ Keyed.isMark (Keyed.name t'.path) = false := by
  induction hc with
  | single hc =>
      rcases hc.inv h with ⟨_, hfound, hend, hthin⟩
      rcases h.found_cases m _ _ hfound hend with ⟨_, hplace, hmark, _⟩ | ⟨hplace, hmark, hshown⟩
      · exact ⟨hthin.marked h, hplace, hmark⟩
      · rw [hhere hplace _ hshown] at hmark
        exact absurd hmark Bool.false_ne_true
  | tail _ hc ih =>
      rcases hc.inv ih.1 with ⟨_, hfound, hend, hthin⟩
      rcases ih.1.found_cases m _ _ hfound hend with ⟨_, hplace, hmark, _⟩ | ⟨hplace, _, _⟩
      · exact ⟨hthin.marked ih.1, hplace, hmark⟩
      · exact absurd hplace ih.2.1

end Visit

namespace Keyed

namespace Ordinary

variable {w : Keyed}

/-- A marker that the current directory shows is found there behind nothing but other markers. -/
theorem found_split (h : w.unmarked.Ordinary) (m : Matcher) (p : Path) (hp : Path.place p = [])
    (n : Text) (hn : n ∈ w.shown []) (hmark : isMark n = true) : ∃ front rest,
      (w.holds m (Path.normalize p) false).filter (!endsInMarker ·) = front ++ n :: rest ∧
      n ∉ front ∧ ∀ x ∈ front, isMark x = true := by
  rcases List.eq_append_cons_of_mem hn with ⟨front, back, hsplit, hfirst⟩
  have hfront : ∀ x ∈ front, isMark x = true := by
    rcases w.shown_cases [] with h0 | ⟨names, hnames, hs⟩
    · rw [h0] at hn
      exact absurd hn List.not_mem_nil
    · rw [hs] at hsplit
      exact h.marks_before [] names front back n hnames hsplit hmark
  rcases w.found_front m p hp (front ++ [n]) back (by rw [hsplit, List.append_assoc]; rfl)
    (List.append_ne_nil_of_right_ne_nil _ (List.cons_ne_nil _ _)) (fun x hx => by
      rcases List.mem_append.mp hx with hx | hx
      · exact hfront x hx
      · rw [List.mem_singleton.mp hx]
        exact hmark) with ⟨rest, hrest⟩
  rw [List.append_assoc] at hrest
  exact ⟨front, rest, hrest, hfirst, hfront⟩

/-- Where the current directory shows a marker, the first visit of its removal is for one. -/
theorem calls_mark (h : w.unmarked.Ordinary) (m : Matcher) (p : Path) (hp : Path.place p = [])
    (n : Text) (hn : n ∈ w.shown []) (hmark : isMark n = true) (depth : Nat) :
    ∃ t, Visit.Calls m ⟨depth + 1, p, w⟩ t ∧ t.depth = depth ∧ isMark t.path = true := by
  have hread := h.marked.contents_reads m (Path.normalize p) false
  rcases h.found_split m p hp n hn hmark with ⟨front, rest, hfound, _, hfront⟩
  cases front with
  | nil => exact ⟨_, .call hread.result rfl hfound rfl, rfl, hmark⟩
  | cons x more =>
      have hnext : (w.holds m (Path.normalize p) false).filter (!endsInMarker ·)
          = [] ++ x :: (more ++ n :: rest) := hfound
      exact ⟨_, .call hread.result rfl hnext rfl, rfl, hfront x List.mem_cons_self⟩

/-- A visit that runs in circles is given up at any depth. -/
theorem endless_of_circles (m : Matcher) (depth : Nat) : ∀ (p : Path) (w : Keyed),
    w.unmarked.Ordinary → w.Circles p → Visit.Endless m ⟨depth, p, w⟩ := by
  induction depth with
  | zero => exact fun p w _ _ => Visit.endless_zero p w
  | succ depth ih =>
      intro p w h hcirc
      refine (Visit.endless_iff _ h.marked).mpr (Or.inr ?_)
      cases depth with
      -- With no depth left for them, all visits that are called are given up.
      | zero =>
          rcases h.calls_mark m p hcirc.1 _ hcirc.2 (by decide) 0 with ⟨t, hc, hdepth, _⟩
          rcases t with ⟨depth, path, world⟩
          rw [show depth = 0 from hdepth] at hc
          exact ⟨_, hc, Visit.endless_zero path world⟩
      -- Otherwise those for the directory above do nothing, and then the visit comes again.
      | succ depth =>
          have hread := h.marked.contents_reads m (Path.normalize p) false
          rcases h.found_split m p hcirc.1 _ hcirc.2 (by decide) with
            ⟨front, rest, hfound, hfirst, hfront⟩
          have hdotDots : ∀ x ∈ front, x = Path.dotDot := fun x hx =>
            ((isMark_iff x).mp (hfront x hx)).resolve_left fun hdot => hfirst (hdot ▸ hx)
          rcases hread.world with ⟨calls, hw⟩
          have hdone := h.marked.removeFound_dotDots m depth front hdotDots calls
          rcases hdone.world with ⟨calls', hw'⟩
          have hcall := Visit.Calls.call hread.result hw hfound hdone.result
          rw [hw'] at hcall
          exact ⟨_, hcall, ih Path.dot _ (h.with_calls calls') ⟨by decide, hcirc.2⟩⟩

end Ordinary

end Keyed

/-- In a world with markers just the removal of the current directory goes wrong, and only if that
    shows markers. It runs in circles if there is one for the directory itself, whatever the depth.
    If there is any, it treats one as a directory; otherwise no visit is ever for a marker. -/
theorem removeTree_markers (m : Matcher) (p : Path) (w : Keyed) (h : w.unmarked.Ordinary) :
    (((removeTree m p).ran w).result = .error .endless ↔ w.Circles p) ∧
    (w.Circles p → ∀ depth, Visit.Endless m ⟨depth, p, w⟩) ∧
    ((∀ t, Relation.TransGen (Visit.Calls m) ⟨w.depth + 2, p, w⟩ t →
        Keyed.isMark (Keyed.name t.path) = false) ↔
      ¬ (Path.place p = [] ∧ ∃ n ∈ w.shown [], Keyed.isMark n = true)) := by
  have hrun : ((removeTree m p).ran w).result = .error .endless ↔
      Visit.Endless m ⟨w.depth + 2, p, w⟩ := by
    rw [removeTree, result_bind, ran_request]
    exact Iff.rfl
  have hcircles := fun hcirc depth => h.endless_of_circles m depth p w hcirc
  refine ⟨hrun.trans ⟨fun hend => ?_, fun hcirc => hcircles hcirc _⟩, hcircles, ?_⟩
  · by_contra hstraight
    -- The depth is more than the length of any key, and so more than any mask has slashes.
    have henough : w.depth < w.depth + 2 + level p := by omega
    have hbounded : Visit.Bounded w.depth ⟨w.depth + 2, p, w⟩ :=
      ⟨h.marked, w.length_lt_depth, Nat.succ_pos _, henough, hstraight⟩
    exact hbounded.not_endless _ _ rfl hend
  · constructor
    · rintro hall ⟨hp, n, hn, hmark⟩
      rcases h.calls_mark m p hp n hn hmark (w.depth + 1) with ⟨t, hc, _, hcalled⟩
      have hname : Keyed.name t.path = t.path :=
        Keyed.forall_isMark (fun n => Keyed.name n = n) (by decide) (by decide) t.path hcalled
      have hnone := hall t (.single hc)
      rw [hname, hcalled] at hnone
      exact Bool.false_ne_true hnone.symm
    · intro hnone t hc
      refine (Visit.not_mark_of_calls h.marked (fun hp n hn => ?_) hc).2.2
      by_contra hmark
      exact hnone ⟨hp, n, hn, by rwa [Bool.not_eq_false] at hmark⟩

/-- In the grove, markers in a directory do no harm, but those in the current directory do. -/
theorem removeTree_markers_grove :
    let m : Matcher := ⟨true, none, none⟩
    let inside := Keyed.grove.addMarkers ['a']
    let here := Keyed.grove.addMarkers []
    inside.unmarked.Ordinary ∧ here.unmarked.Ordinary ∧
    ((removeTree m ['a']).ran inside).result ≠ .error .endless ∧
    (∀ t, Relation.TransGen (Visit.Calls m) ⟨inside.depth + 2, ['a'], inside⟩ t →
      Keyed.isMark (Keyed.name t.path) = false) ∧
    ((removeTree m ['.']).ran here).result = .error .endless := by
  intro m inside here
  have hinside : inside.unmarked.Ordinary := by decide
  have hhere : here.unmarked.Ordinary := by decide
  have hgood := removeTree_markers m ['a'] inside hinside
  have hbad := removeTree_markers m ['.'] here hhere
  have hplace : Path.place ['a'] ≠ [] := by decide
  exact ⟨hinside, hhere, fun hend => hplace (hgood.1.mp hend).1,
    hgood.2.2.mpr fun hp => hplace hp.1, hbad.1.mpr ⟨by decide, by decide⟩⟩

end Maskwalk
