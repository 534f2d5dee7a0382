import Maskwalk.Proofs.Walk.Tour
import Mathlib.Algebra.Order.BigOperators.Group.List
import Mathlib.Algebra.Order.Ring.Nat
import Mathlib.Data.List.Nodup
import Mathlib.Data.List.Perm.Basic

/-!
# Tours that go down

In a world that is in order a walk goes down a tree: from a directory to entries of it that are
directories, and never back up or across. `Descends` says so of a world and a selection. Then every
directory that a tour visits is the one at which it starts or below it, and the depth that the world
gives is never used up.

A tour is also no smaller than it should be: what it visits is closed under going on into entries,
and everything but its start was reached in this way. That needs no order in the world.

Ordinary worlds are in order for every selection, and what a walk sees of their directories are the
keys of the entries.

## Main definitions

* `Keyed.shown`: the names that a directory shows to a walk.
* `Keyed.entered`: the paths that a walk enters from a directory.
* `Keyed.Descends`: walks in a world go down.
* `Keyed.kids`: the keys of the entries that a directory shows.
* `Keyed.goesInto`: whether a walk goes on into a key.

## Theorems

* `tour_closed`, `tour_perm`, `tour_origin`: What a tour visits, and why.
* `Descends.tour_within`: Tours stay below their start.
* `Descends.tour_complete`: Tours come to an end.
* `Descends.matched_cases`: So a selection comes to what its tour finds.
* `Ordinary.entered_eq`, `Ordinary.descends`: Walks in ordinary worlds go on into entries.
-/

namespace Maskwalk

namespace Keyed

/-- Whether listing a directory is allowed. -/
def mayList (w : Keyed) (d : Path) : Bool := (valueOf? d w.faults).isNone && !w.denied.elem d

/-- The names that a directory shows to a walk. -/
def shown (w : Keyed) (d : Path) : List Text := if w.mayList d then (w.names? d).getD [] else []

/-- The paths that a walk enters from a directory. -/
def entered (w : Keyed) (s : Selection) (dir : Path) : List Path :=
  s.entered dir (w.entriesAt dir)

/-- A directory shows either nothing or its names. -/
theorem shown_cases (w : Keyed) (d : Path) :
    w.shown d = [] ∨ ∃ names, w.names? d = some names ∧ w.shown d = names := by
  unfold shown
  by_cases hm : w.mayList d = true
  · rw [if_pos hm]
    cases hn : w.names? d with
    | none => exact Or.inl rfl
    | some names => exact Or.inr ⟨names, rfl, rfl⟩
  · rw [if_neg hm]
    exact Or.inl rfl

theorem names_of_shown (w : Keyed) (d : Path) (n : Text) (h : n ∈ w.shown d) :
    ∃ names, w.names? d = some names ∧ n ∈ names := by
  rcases w.shown_cases d with h0 | ⟨names, hn, hs⟩
  · rw [h0] at h
    exact absurd h List.not_mem_nil
  · rw [hs] at h
    exact ⟨names, hn, h⟩

/-- What a walk sees in a directory are the entries of the names that it shows. -/
theorem entriesAt_eq (w : Keyed) (dir : Path) :
    w.entriesAt dir = (w.shown (Path.normalize dir)).map (w.entryOf (Path.normalize dir)) := by
  unfold entriesAt listReply shown mayList
  cases valueOf? (Path.normalize dir) w.faults with
  | some reason => rfl
  | none =>
      simp only [Option.isNone_none, Bool.true_and]
      unfold listDir
      by_cases hd : w.denied.elem (Path.normalize dir) = true
      · rw [if_pos hd, hd]
        rfl
      · rw [if_neg hd, Bool.eq_false_iff.mpr hd]
        unfold names?
        cases valueOf? (Path.normalize dir) w.dirs with
        | none => rfl
        | some names => rfl

/-- A walk can start wherever listing is allowed. -/
theorem opened_of_mayList (w : Keyed) (isStart : Bool) (dir : Path)
    (h : w.mayList (Path.normalize dir) = true) :
    w.opened isStart dir = .ok (w.entriesAt dir) := by
  rw [mayList, Bool.and_eq_true, Bool.not_eq_true'] at h
  have hreply : w.listReply (Path.normalize dir) = w.listDir (Path.normalize dir) := by
    rw [listReply, Option.isNone_iff_eq_none.mp h.1]
  unfold opened entriesAt
  rw [hreply, listDir, if_neg (Bool.eq_false_iff.mp h.2)]
  cases valueOf? (Path.normalize dir) w.dirs with
  | none => rfl
  | some names => rfl

/-- A walk starts only where listing is allowed. -/
theorem mayList_of_opened (w : Keyed) (dir : Path) (entries : List Entry)
    (h : w.opened true dir = .ok entries) : w.mayList (Path.normalize dir) = true := by
  unfold opened listReply at h
  unfold mayList
  cases hf : valueOf? (Path.normalize dir) w.faults with
  | some reason =>
      rw [hf] at h
      exact absurd h (by simp only [Failure.isAbsence, Bool.not_true, Bool.or_self,
        Bool.false_eq_true, if_false, reduceCtorEq, not_false_eq_true])
  | none =>
      rw [hf] at h
      cases hd : w.denied.elem (Path.normalize dir) with
      | false => rfl
      | true =>
          unfold listDir at h
          rw [if_pos hd] at h
          exact absurd h (by simp only [Failure.isAbsence, Bool.not_true, Bool.or_self,
            Bool.false_eq_true, if_false, reduceCtorEq, not_false_eq_true])

theorem entryOf_name (w : Keyed) (dir : Path) (n : Text) : (w.entryOf dir n).name = n := by
  unfold entryOf
  by_cases hm : isMark n = true
  · rw [if_pos hm]
  · rw [if_neg hm]

theorem entryOf_of_not_mark (w : Keyed) (dir : Path) (n : Text) (h : isMark n = false) :
    w.entryOf dir n = ⟨n, w.hasFile (Path.join dir n), w.hasDir (Path.join dir n)⟩ := by
  rw [entryOf, if_neg (Bool.eq_false_iff.mp h)]

/-- The depth of a world is a sum over its directories, -/
theorem depth_eq_sum (w : Keyed) :
    w.depth = (w.dirs.map fun entry => entry.1.length + entry.2.length + 1).sum := by
  rw [depth, List.sum, List.foldr_map]

/-- so it counts each of them, -/
theorem length_dirs_le_depth (w : Keyed) : w.dirs.length ≤ w.depth := by
  rw [w.depth_eq_sum, ← List.length_map (fun entry => entry.1.length + entry.2.length + 1)]
  refine List.length_le_sum_of_one_le _ (fun i hi => ?_)
  rcases List.mem_map.mp hi with ⟨entry, _, heq⟩
  omega

/-- and is more than the length of any key of a directory. -/
theorem length_lt_depth (w : Keyed) (d : Path) (h : w.hasDir d = true) : d.length < w.depth := by
  rcases (w.hasDir_iff d).mp h with ⟨names, hn⟩
  have hle : d.length + names.length + 1 ≤ w.depth := by
    rw [w.depth_eq_sum]
    exact List.single_le_sum (fun i _ => Nat.zero_le i) _
      (List.mem_map.mpr ⟨(d, names), mem_of_valueOf? d names w.dirs hn, rfl⟩)
  omega

/-- What a walk enters comes in the order of the names that stand for directories. -/
theorem entered_eq_map (w : Keyed) (s : Selection) (dir : Path) : w.entered s dir =
    ((w.shown (Path.normalize dir)).filter (s.enters ∘ w.entryOf (Path.normalize dir))).map
      (Path.join dir) := by
  rw [entered, Selection.entered, entriesAt_eq, List.filter_map, List.map_map]
  exact List.map_congr_left (fun n _ => by rw [Function.comp_apply, w.entryOf_name])

/-- A walk enters a path for every name that a directory shows and that stands for a directory. -/
theorem mem_entered (w : Keyed) (s : Selection) (dir c : Path) : c ∈ w.entered s dir ↔
    ∃ n ∈ w.shown (Path.normalize dir), s.enters (w.entryOf (Path.normalize dir) n) = true ∧
      c = Path.join dir n := by
  rw [entered_eq_map, List.mem_map]
  simp only [List.mem_filter, Function.comp_apply, and_assoc, eq_comm (b := c)]

/-- A directory gives a result for every name that it shows and that is kept. -/
theorem mem_keptAt (w : Keyed) (s : Selection) (dir c : Path) : c ∈ w.keptAt s dir ↔
    ∃ n ∈ w.shown (Path.normalize dir), s.keeps dir (w.entryOf (Path.normalize dir) n) = true ∧
      c = Path.join dir n := by
  rw [keptAt, Selection.kept, entriesAt_eq, List.filter_map, List.map_map, List.mem_map]
  simp only [List.mem_filter, Function.comp_apply, w.entryOf_name, and_assoc, eq_comm (b := c)]

theorem hasDir_of_entered (w : Keyed) (s : Selection) (d c : Path) (hd : Path.normalize d = d)
    (hc : c ∈ w.entered s d) : w.hasDir d = true := by
  rcases (w.mem_entered s d c).mp hc with ⟨n, hn, _⟩
  rw [hd] at hn
  rcases w.names_of_shown d n hn with ⟨names, hnames, _⟩
  exact (w.hasDir_iff d).mpr ⟨names, hnames⟩

section

variable (w : Keyed) (s : Selection) (depth : Nat) (dir : Path) (dirs : List Path)
  (ht : s.tour w.entriesAt depth dir = some dirs)

include ht

/-- A deep tour enters all that is to be entered, wherever it comes. -/
theorem tour_closed (hs : s.deep = true) :
    dir ∈ dirs ∧ ∀ d ∈ dirs, ∀ c ∈ w.entered s d, c ∈ dirs := by
  refine Selection.tour_induction s w.entriesAt (fun dir dirs => dir ∈ dirs ∧ ∀ d ∈ dirs,
    ∀ c ∈ w.entered s d, c ∈ dirs) (fun hd => ?_) (fun _ dir round ih => ?_) depth dir dirs ht
  · exact absurd hs (by rw [hd]; exact Bool.false_ne_true)
  · refine ⟨List.mem_cons_self, fun d hd c hc => List.mem_cons_of_mem _ ?_⟩
    rcases List.mem_cons.mp hd with hd | hd
    · rw [hd] at hc
      exact List.mem_flatMap.mpr ⟨c, hc, (ih c hc).1⟩
    · rcases List.mem_flatMap.mp hd with ⟨top, htop, hdtop⟩
      exact List.mem_flatMap.mpr ⟨top, htop, (ih top htop).2 d hdtop c hc⟩

/-- What holds of the start of a tour and is passed on to whatever is entered holds of all that is
    visited. -/
theorem tour_forall (kind : Path → Prop) (hstart : kind dir)
    (hstep : s.deep = true → ∀ d c, kind d → c ∈ w.entered s d → kind c) : ∀ d ∈ dirs, kind d := by
  refine Selection.tour_induction s w.entriesAt (fun dir dirs => kind dir → ∀ d ∈ dirs, kind d)
    (fun _ dir hdir d hd => ?_) (fun hs dir round ih hdir d hd => ?_) depth dir dirs ht hstart
  · rw [List.mem_singleton.mp hd]
    exact hdir
  · rcases List.mem_cons.mp hd with hd | hd
    · rw [hd]
      exact hdir
    · rcases List.mem_flatMap.mp hd with ⟨c, hc, hdc⟩
      exact ih c hc (hstep hs dir c hdir hc) d hdc

/-- A deep tour visits its start, and besides just what is entered from what it visits, as often as
    it is entered. -/
theorem tour_perm (hs : s.deep = true) : dirs.Perm (dir :: dirs.flatMap (w.entered s)) := by
  refine Selection.tour_induction s w.entriesAt
    (fun dir dirs => dirs.Perm (dir :: dirs.flatMap (w.entered s))) (fun hd => ?_)
    (fun _ dir round ih => ?_) depth dir dirs ht
  · exact absurd hs (by rw [hd]; exact Bool.false_ne_true)
  -- Each round begins with its own start, and these starts are what is entered first.
  · have hrounds : ((w.entered s dir).flatMap round).Perm (w.entered s dir ++
        ((w.entered s dir).flatMap round).flatMap (w.entered s)) := by
      have hone := List.Perm.flatMap_left (w.entered s dir) ih
      have htwo := List.flatMap_append_perm (w.entered s dir) (fun c => [c])
        (fun c => (round c).flatMap (w.entered s))
      rw [List.flatMap_singleton', ← List.flatMap_assoc] at htwo
      exact hone.trans htwo.symm
    rw [List.flatMap_cons]
    exact hrounds.cons dir

/-- Whatever a tour visits behind its start was entered from what it visits. -/
theorem tour_origin : dir ∈ dirs ∧
    ∀ c ∈ dirs, c = dir ∨ (s.deep = true ∧ ∃ d ∈ dirs, c ∈ w.entered s d) := by
  refine Selection.tour_induction s w.entriesAt (fun dir dirs => dir ∈ dirs ∧ ∀ c ∈ dirs,
    c = dir ∨ (s.deep = true ∧ ∃ d ∈ dirs, c ∈ w.entered s d))
    (fun _ dir => ⟨List.mem_singleton_self dir, fun c hc => Or.inl (List.mem_singleton.mp hc)⟩)
    (fun hd dir round ih => ⟨List.mem_cons_self, fun c hc => ?_⟩) depth dir dirs ht
  rcases List.mem_cons.mp hc with hc | hc
  · exact Or.inl hc
  · rcases List.mem_flatMap.mp hc with ⟨top, htop, hctop⟩
    -- A round starts where the start of the tour leads, and what is behind comes from the round.
    rcases (ih top htop).2 c hctop with hct | ⟨_, d, hdmem, hcd⟩
    · rw [hct]
      exact Or.inr ⟨hd, dir, List.mem_cons_self, htop⟩
    · exact Or.inr ⟨hd, d, List.mem_cons_of_mem _ (List.mem_flatMap.mpr ⟨top, htop, hdmem⟩), hcd⟩

end

/-- What a selection comes to is found on a whole tour. -/
theorem tour_of_matched (w : Keyed) (s : Selection) (start : Path) (found : List Path)
    (h : w.matched s start = .ok found) : ∃ dirs,
      s.tour w.entriesAt (w.depth + 1) start = some dirs ∧ found = dirs.flatMap (w.keptAt s) := by
  unfold matched at h
  cases ho : w.opened true start with
  | error fault =>
      rw [ho] at h
      exact absurd h (by simp only [reduceCtorEq, not_false_eq_true])
  | ok entries =>
      rw [ho] at h
      cases ht : s.tour w.entriesAt (w.depth + 1) start with
      | none =>
          rw [ht] at h
          exact absurd h (by simp only [Keyed.found, reduceCtorEq, not_false_eq_true])
      | some dirs =>
          rw [ht] at h
          injection h with h
          exact ⟨dirs, rfl, h.symm⟩

theorem mayList_of_matched (w : Keyed) (s : Selection) (start : Path) (found : List Path)
    (h : w.matched s start = .ok found) : w.mayList (Path.normalize start) = true := by
  unfold matched at h
  cases ho : w.opened true start with
  | ok entries => exact w.mayList_of_opened start entries ho
  | error fault =>
      rw [ho] at h
      exact absurd h (by simp only [reduceCtorEq, not_false_eq_true])

/-- What holds of every result in the directories of a kind holds of all that is found, where the
    start of a walk is of that kind and it is passed on to whatever is entered. -/
theorem found_forall (w : Keyed) (s : Selection) (start : Path) (found : List Path)
    (h : w.matched s start = .ok found) (kind post : Path → Prop) (hstart : kind start)
    (hstep : s.deep = true → ∀ d c, kind d → c ∈ w.entered s d → kind c)
    (hkept : ∀ d c, kind d → c ∈ w.keptAt s d → post c) : ∀ c ∈ found, post c := by
  rcases w.tour_of_matched s start found h with ⟨dirs, ht, hfound⟩
  intro c hc
  rw [hfound] at hc
  rcases List.mem_flatMap.mp hc with ⟨d, hd, hcd⟩
  exact hkept d c (w.tour_forall s _ start dirs ht kind hstart hstep d hd) hcd

/-- A selection with a whole tour comes to what that finds, unless its start cannot be listed. -/
theorem matched_of_tour (w : Keyed) (s : Selection) (start : Path) (dirs : List Path)
    (ht : s.tour w.entriesAt (w.depth + 1) start = some dirs) :
    w.matched s start = .ok (dirs.flatMap (w.keptAt s)) ∨
    (w.mayList (Path.normalize start) = false ∧
      ∃ dir cause, w.matched s start = .error (.unlistable dir cause)) := by
  cases hm : w.mayList (Path.normalize start) with
  | true =>
      left
      rw [matched, w.opened_of_mayList true start hm, ht]
      rfl
  | false =>
      unfold matched
      cases ho : w.opened true start with
      | ok entries =>
          left
          rw [ht]
          rfl
      | error fault =>
          right
          rcases w.unlistable_of_opened true start fault ho with ⟨shown, cause, hfault⟩
          exact ⟨rfl, shown, cause, by rw [hfault]⟩

/-- Walks in a world go down: what they enter from a directory are directories among its entries, by
    the keys under which the world has them. -/
structure Descends (w : Keyed) (s : Selection) : Prop where
  entry : ∀ d c, Path.normalize d = d → c ∈ w.entered s d → ∃ n, Path.IsName n ∧ c = Path.child d n
  normal : ∀ d c, Path.normalize d = d → c ∈ w.entered s d → Path.normalize c = c
  dir : ∀ d c, Path.normalize d = d → c ∈ w.entered s d → w.hasDir c = true

namespace Descends

variable {w : Keyed} {s : Selection}

theorem below (h : w.Descends s) (d c : Path) (hd : Path.normalize d = d)
    (hc : c ∈ w.entered s d) : Path.Below d c := by
  rcases h.entry d c hd hc with ⟨n, hn, hcn⟩
  rw [hcn]
  exact Path.below_self_child d n hn.ne_nil hn.no_slash

/-- What holds of all tours that go down, from one normal form to the next. -/
theorem tour_induction (h : w.Descends s) (motive : Path → List Path → Prop)
    (shallow : s.deep = false → ∀ dir, motive dir [dir])
    (deep : s.deep = true → ∀ dir (round : Path → List Path), Path.normalize dir = dir →
      (∀ c ∈ w.entered s dir, motive c (round c)) →
        motive dir (dir :: (w.entered s dir).flatMap round))
    (depth : Nat) (dir : Path) (dirs : List Path) (hn : Path.normalize dir = dir)
    (ht : s.tour w.entriesAt depth dir = some dirs) : motive dir dirs := by
  refine Selection.tour_induction s w.entriesAt
    (fun dir dirs => Path.normalize dir = dir → motive dir dirs)
    (fun hd dir _ => shallow hd dir) (fun hd dir round ih hdir => ?_) depth dir dirs ht hn
  exact deep hd dir round hdir (fun c hc => ih c hc (h.normal dir c hdir hc))

/-- A tour visits its start, and directories below it. -/
theorem tour_within (h : w.Descends s) (depth : Nat) (dir : Path) (dirs : List Path)
    (hn : Path.normalize dir = dir) (ht : s.tour w.entriesAt depth dir = some dirs) :
    ∀ d ∈ dirs, d = dir ∨ (w.hasDir d = true ∧ Path.normalize d = d ∧ Path.Below dir d) := by
  refine h.tour_induction
    (fun dir dirs => ∀ d ∈ dirs, d = dir ∨
      (w.hasDir d = true ∧ Path.normalize d = d ∧ Path.Below dir d))
    (fun _ dir d hd => Or.inl (List.mem_singleton.mp hd)) (fun _ dir round hdir ih d hd => ?_)
    depth dir dirs hn ht
  rcases List.mem_cons.mp hd with hd | hd
  · exact Or.inl hd
  · rcases List.mem_flatMap.mp hd with ⟨c, hc, hdc⟩
    -- What the round visits is below its start, which is below that of the tour.
    have hbelow := h.below dir c hdir hc
    rcases ih c hc d hdc with hcd | ⟨hd', hn', hcd⟩
    · rw [hcd]
      exact Or.inr ⟨h.dir dir c hdir hc, h.normal dir c hdir hc, hbelow⟩
    · exact Or.inr ⟨hd', hn', Path.below_trans dir c d hbelow hcd⟩

theorem normalize_of_mem_tour (h : w.Descends s) (depth : Nat) (dir : Path) (dirs : List Path)
    (hn : Path.normalize dir = dir) (ht : s.tour w.entriesAt depth dir = some dirs) (d : Path)
    (hd : d ∈ dirs) : Path.normalize d = d := by
  rcases h.tour_within depth dir dirs hn ht d hd with hd | hd
  · rw [hd]
    exact hn
  · exact hd.2.1

/-- The depth of a world leaves room for every descent: a tour that goes down comes to an end. Where
    the fuel of a visit is short, its key is long. -/
theorem tour_complete (h : w.Descends s) (fuel : Nat) : ∀ dir, Path.normalize dir = dir → 0 < fuel →
    (w.hasDir dir = true → w.depth < fuel + dir.length) →
      ∃ dirs, s.tour w.entriesAt fuel dir = some dirs := by
  induction fuel with
  | zero =>
      intro dir _ hpos _
      exact absurd hpos (Nat.lt_irrefl 0)
  | succ fuel ih =>
      intro dir hn _ hdepth
      refine (s.tour_succ_iff _ fuel dir).mpr (fun _ c hc => ?_)
      -- One less of fuel is made up for by a key that is longer.
      have hlen := Path.below_length dir c (h.below dir c hn hc)
      have hshort := w.length_lt_depth c (h.dir dir c hn hc)
      have hroom := hdepth (w.hasDir_of_entered s dir c hn hc)
      exact ih c (h.normal dir c hn hc) (by omega) (fun _ => by omega)

/-- A selection that goes down comes to what its tour finds, unless its start cannot be listed. -/
theorem matched_cases (h : w.Descends s) (start : Path) (hn : Path.normalize start = start) :
    (∃ dirs, s.tour w.entriesAt (w.depth + 1) start = some dirs ∧
      w.matched s start = .ok (dirs.flatMap (w.keptAt s))) ∨
    (w.mayList start = false ∧
      ∃ dir cause, w.matched s start = .error (.unlistable dir cause)) := by
  rcases h.tour_complete (w.depth + 1) start hn (Nat.succ_pos _) (fun _ => by omega) with ⟨dirs, ht⟩
  rcases w.matched_of_tour s start dirs ht with hm | ⟨hmay, hm⟩
  · exact Or.inl ⟨dirs, ht, hm⟩
  · rw [hn] at hmay
    exact Or.inr ⟨hmay, hm⟩

end Descends

/-- The keys of the entries that a directory shows. -/
def kids (w : Keyed) (d : Path) : List Path := (w.shown d).map (Path.child d)

/-- Whether a walk goes on into a key. -/
def goesInto (w : Keyed) (s : Selection) (c : Path) : Bool :=
  w.hasDir c && !leftOut s.dirRule (name c)

theorem mem_kids (w : Keyed) (d c : Path) :
    c ∈ w.kids d ↔ ∃ n ∈ w.shown d, c = Path.child d n := by
  simp only [kids, List.mem_map, eq_comm (b := c)]

theorem named_of_kid (w : Keyed) (d c : Path) (hc : c ∈ w.kids d) :
    ∃ names n, w.names? d = some names ∧ n ∈ names ∧ c = Path.child d n := by
  rcases (w.mem_kids d c).mp hc with ⟨n, hn, hcn⟩
  rcases w.names_of_shown d n hn with ⟨names, hnames, hmem⟩
  exact ⟨names, n, hnames, hmem, hcn⟩

theorem hasDir_of_kid (w : Keyed) (d c : Path) (hc : c ∈ w.kids d) : w.hasDir d = true := by
  rcases w.named_of_kid d c hc with ⟨names, _, hnames, _⟩
  exact (w.hasDir_iff d).mpr ⟨names, hnames⟩

namespace Ordinary

variable {w : Keyed}

theorem shown_leads (h : w.Ordinary) (d : Path) (n : Text) (hn : n ∈ w.shown d) :
    Path.Proper d ∧ Path.Leads d n := by
  rcases w.names_of_shown d n hn with ⟨names, hd, hmem⟩
  have hdir := (w.hasDir_iff d).mpr ⟨names, hd⟩
  exact ⟨h.proper d (w.has_of_hasDir d hdir), h.leads d names n hd hmem⟩

/-- The key of an entry is what the walk asks for. -/
theorem join_eq (h : w.Ordinary) (d : Path) (n : Text) (hn : n ∈ w.shown d) :
    Path.join d n = Path.child d n := by
  rcases h.shown_leads d n hn with ⟨hd, hl⟩
  exact Path.join_child d n hd hl

theorem entryOf_eq (h : w.Ordinary) (d : Path) (n : Text) (hn : n ∈ w.shown d) :
    w.entryOf d n = ⟨n, w.hasFile (Path.child d n), w.hasDir (Path.child d n)⟩ := by
  rcases w.names_of_shown d n hn with ⟨names, hd, hmem⟩
  rw [w.entryOf_of_not_mark d n (h.no_marks d names hd n hmem), h.join_eq d n hn]

theorem below_kid (h : w.Ordinary) (d c : Path) (hc : c ∈ w.kids d) : Path.Below d c := by
  rcases (w.mem_kids d c).mp hc with ⟨n, hn, hcn⟩
  have hl := (h.shown_leads d n hn).2
  rw [hcn]
  exact Path.below_self_child d n hl.ne_nil hl.no_slash

/-- A walk goes on into entries of the directory, in their order. -/
theorem entered_eq (h : w.Ordinary) (s : Selection) (d : Path) (hd : Path.normalize d = d) :
    w.entered s d = (w.kids d).filter (w.goesInto s) := by
  rw [entered_eq_map, hd, kids, List.filter_map]
  -- No name is a marker here, and each stands for its own key.
  have hfilter : (w.shown d).filter (s.enters ∘ w.entryOf d)
      = (w.shown d).filter (w.goesInto s ∘ Path.child d) := by
    refine List.filter_congr (fun n hn => ?_)
    rcases w.names_of_shown d n hn with ⟨names, hnames, hmem⟩
    have hmark : isMarker n = false := h.no_marks d names hnames n hmem
    have hl := (h.shown_leads d n hn).2
    simp only [Function.comp_apply, Selection.enters, goesInto, h.entryOf_eq d n hn, hmark,
      Bool.not_false, Bool.and_true, Path.name_child d n hl.no_slash]
  rw [hfilter]
  exact List.map_congr_left (fun n hn => h.join_eq d n (List.mem_filter.mp hn).1)

/-- The entries of a directory have different keys. -/
theorem kids_nodup (h : w.Ordinary) (d : Path) : (w.kids d).Nodup := by
  refine List.Nodup.map (fun n₁ n₂ => Path.child_inj_name d n₁ n₂) ?_
  rcases w.shown_cases d with h0 | ⟨names, hn, hs⟩
  · rw [h0]
    exact List.nodup_nil
  · rw [hs]
    exact h.nodup d names hn

/-- Different entries of a directory have nothing in common. -/
theorem kids_apart (h : w.Ordinary) (d c₁ c₂ q : Path) (h₁ : c₁ ∈ w.kids d) (h₂ : c₂ ∈ w.kids d)
    (hq₁ : Path.Within c₁ q) (hq₂ : Path.Within c₂ q) : c₁ = c₂ := by
  rcases (w.mem_kids d c₁).mp h₁ with ⟨n₁, hn₁, hc₁⟩
  rcases (w.mem_kids d c₂).mp h₂ with ⟨n₂, hn₂, hc₂⟩
  have hl₁ := (h.shown_leads d n₁ hn₁).2
  have hl₂ := (h.shown_leads d n₂ hn₂).2
  rw [hc₁] at hq₁ ⊢
  rw [hc₂] at hq₂ ⊢
  rw [Path.within_children_disjoint d n₁ n₂ q hl₁.ne_nil hl₂.ne_nil hl₁.no_slash hl₂.no_slash hq₁
    hq₂]

/-- Walks in ordinary worlds go down. -/
theorem descends (h : w.Ordinary) (s : Selection) : w.Descends s := by
  -- What is entered is an entry of the directory that is a directory itself.
  have hkid : ∀ d c, Path.normalize d = d → c ∈ w.entered s d →
      c ∈ w.kids d ∧ w.hasDir c = true := by
    intro d c hd hc
    rw [h.entered_eq s d hd, List.mem_filter, goesInto, Bool.and_eq_true] at hc
    exact ⟨hc.1, hc.2.1⟩
  refine ⟨fun d c hd hc => ?_, fun d c hd hc => ?_, fun d c hd hc => (hkid d c hd hc).2⟩
  · rcases (w.mem_kids d c).mp (hkid d c hd hc).1 with ⟨n, hn, hcn⟩
    exact ⟨n, (h.shown_leads d n hn).2.toIsName, hcn⟩
  · exact h.normal c (w.has_of_hasDir c (hkid d c hd hc).2)

end Ordinary

end Keyed

end Maskwalk
