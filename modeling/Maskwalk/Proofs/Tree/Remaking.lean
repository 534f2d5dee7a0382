import Maskwalk.Proofs.Tree.Course

/-!
# Makings that end well

Whether a making ends well can be told from the world that it starts in, without going through its
course. Each of its fronts has to be a directory, or one may be made there: no file is in its place,
it has no fault, and the directory above may be changed. That has to be there too, or be a front
itself, and then it is made before.

From this two facts follow. After a making that ended well all its fronts are there, so another one
of the same path only looks at them. And it does not matter in which order two paths are made. A
front that one of them makes in a directory of the other is one of its own fronts too, or else the
directory is passed over by both and has been there all along: what is above a front is a front of
the same path, unless it is a root or its last segment looks absolute.

## Main definitions

* `Keyed.Allows`: whether a directory may be made at a key, as far as the tree does not matter.
* `Keyed.Admits`: whether there is a directory at a key, or one may be made, beside others.

## Theorems

* `Keyed.settled_mkdir_ok_iff`: When a request makes a directory.
* `isMakeable_of_mem_fronts`, `parent_mem_fronts`: The fronts of a path, and what is above them.
* `makeDirs_done_iff`: When a making ends well.
* `makeDirs_again`: A making of what has been made.
* `makeDirs_comm`: Two makings in either order.
-/

namespace Maskwalk

open Attempt

namespace Keyed

/-- Whether a directory may be made at a key, if the one above is there: no file is in its place, it
    has no fault, and the directory above is not read-only. -/
structure Allows (w : Keyed) (q : Path) : Prop where
  no_file : w.hasFile q = false
  sound : valueOf? q w.faults = none
  free : parent q ∉ w.readonly

/-- Whether a key is a directory, or one may be made there and the one above is there or is among
    those to be made as well. -/
def Admits (w : Keyed) (given : List Path) (q : Path) : Prop :=
  w.hasDir q = true ∨ w.Allows q ∧ (w.hasDir (parent q) = true ∨ parent q ∈ given)

/-- A request makes a directory just if there is none, one may be made, and the one above is
    there. -/
theorem settled_mkdir_ok_iff (w : Keyed) (q : Path) (hq : Path.normalize q = q) :
    ((Request.mkdir q).settled w).1 = .ok () ↔
      w.hasDir q = false ∧ w.Allows q ∧ w.hasDir (parent q) = true := by
  constructor
  · intro hok
    rcases w.settled_mkdir_ok q hq hok with ⟨_, hsound, hnew, habove, hfree⟩
    rw [has, Bool.or_eq_false_iff] at hnew
    exact ⟨hnew.1, ⟨hnew.2, hsound, hfree⟩, habove⟩
  · rintro ⟨hmissing, hallows, habove⟩
    change (w.answer (.mkdir (Path.normalize q))).1 = .ok ()
    rw [hq, answer, unlessFaulty, hallows.sound]
    simp only
    rcases mkdir_cases (w.record (.mkdir q)) q with ⟨why, hm, _⟩ | ⟨hm, _⟩
    -- None of the three reasons for a refusal is given.
    · unfold mkdir at hm
      rw [if_neg, if_neg, if_neg] at hm
      · exact absurd hm (by simp only [reduceCtorEq, not_false_eq_true])
      · exact fun h => hallows.free (List.elem_iff.mp h)
      · change ¬ (!w.hasDir (parent q)) = true
        rw [habove]
        exact Bool.false_ne_true
      · change ¬ (w.hasDir q || w.hasFile q) = true
        rw [hmissing, hallows.no_file]
        exact Bool.false_ne_true
    · rw [hm]

/-- A name that ends a path is behind what it is below. -/
theorem upToSlash_below (above : Path) (ha : above = [] ∨ ∃ lead, above = lead ++ ['/']) (s : Text)
    (hs : '/' ∉ s) : Path.upToSlash (above ++ s) = above ∧ name (above ++ s) = s := by
  have hname : name (above ++ s) = s := by
    rcases ha with ha | ⟨lead, ha⟩
    · rw [ha]
      exact Path.baseName_of_no_slash s hs
    · rw [ha, List.append_assoc]
      exact Path.baseName_behind lead s hs
  refine ⟨?_, hname⟩
  have hwhole := Path.upToSlash_append_baseName (above ++ s)
  rw [show Path.baseName (above ++ s) = s from hname] at hwhole
  exact List.append_cancel_right hwhole

/-- A path with a name is longer than its directory. -/
theorem length_parent_lt (q : Path) (hq : name q ≠ []) : (parent q).length < q.length := by
  have hpos := List.length_pos_iff.mpr hq
  have hlen := congrArg List.length (Path.upToSlash_append_baseName q)
  rw [List.length_append] at hlen
  change 0 < (Path.baseName q).length at hpos
  rcases Path.upToSlash_cases q with h0 | ⟨lead, hlead⟩
  · rw [parent, Path.directory, h0]
    change 0 < q.length
    omega
  · rw [hlead, List.length_append, List.length_singleton] at hlen
    by_cases hhere : lead = Path.here
    · rw [parent, Path.directory, hlead, hhere]
      change 0 < q.length
      omega
    · rw [Path.parent_of_upToSlash q lead hlead hhere]
      split
      · rw [List.length_singleton]
        omega
      · omega

end Keyed

section

variable {segments : List Text} (hsegments : ∀ s ∈ segments, s ≠ [] ∧ '/' ∉ s)

include hsegments

/-- What is made below a path ends in one of the segments, and in none that is passed over. -/
theorem isMakeable_of_mem_madeBelow : ∀ above : Path, (above = [] ∨ ∃ lead, above = lead ++ ['/']) →
    ∀ q ∈ madeBelow above segments, Keyed.isMakeable q = true := by
  induction segments with
  | nil => exact fun _ _ q hq => absurd hq List.not_mem_nil
  | cons segment more ih =>
      intro above ha q hq
      rcases List.forall_mem_cons.mp hsegments with ⟨hsegment, hmore⟩
      rw [madeBelow] at hq
      by_cases hg : isGiven segment = true
      · rw [if_pos hg] at hq
        exact ih hmore _ (Or.inr ⟨_, rfl⟩) q hq
      · rw [if_neg hg] at hq
        rcases List.mem_cons.mp hq with hq | hq
        · rw [hq, Keyed.isMakeable, (Keyed.upToSlash_below above ha segment hsegment.2).2,
            decide_eq_true hsegment.1, Bool.eq_false_iff.mpr hg]
          rfl
        · exact ih hmore _ (Or.inr ⟨_, rfl⟩) q hq

/-- What is made below a path is made directly there, or the directory above it is made as well
    unless that is passed over. -/
theorem parent_mem_madeBelow : ∀ above : Path, (above = [] ∨ ∃ lead, above = lead ++ ['/']) →
    ∀ q ∈ madeBelow above segments, (∃ s, '/' ∉ s ∧ q = above ++ s) ∨
      (Keyed.isMakeable (Keyed.parent q) = true → Keyed.parent q ∈ madeBelow above segments) := by
  induction segments with
  | nil => exact fun _ _ q hq => absurd hq List.not_mem_nil
  | cons segment more ih =>
      intro above ha q hq
      rcases List.forall_mem_cons.mp hsegments with ⟨hsegment, hmore⟩
      -- What is made further down, or is passed over here, lies below the first segment.
      have hbelow : q ∈ madeBelow (above ++ segment ++ ['/']) more →
          Keyed.isMakeable (Keyed.parent q) = true →
            Keyed.parent q ∈ madeBelow above (segment :: more) := by
        intro hq hmakeable
        rw [madeBelow]
        rcases ih hmore _ (Or.inr ⟨_, rfl⟩) q hq with ⟨s, hs, hqs⟩ | hmem
        · have hup := (Keyed.upToSlash_below (above ++ segment ++ ['/'])
            (Or.inr ⟨above ++ segment, rfl⟩) s hs).1
          rw [← hqs] at hup
          by_cases hhere : above ++ segment = Path.here
          · rw [Keyed.parent, Path.directory, hup, hhere] at hmakeable
            exact absurd hmakeable (by decide)
          · have hne : above ++ segment ≠ [] :=
              List.append_ne_nil_of_right_ne_nil _ hsegment.1
            rw [Path.parent_of_upToSlash q _ hup hhere, if_neg hne] at hmakeable ⊢
            rw [Keyed.isMakeable, (Keyed.upToSlash_below above ha segment hsegment.2).2,
              Bool.and_eq_true, Bool.not_eq_true'] at hmakeable
            rw [hmakeable.2, if_neg Bool.false_ne_true]
            exact List.mem_cons_self
        · split
          · exact hmem hmakeable
          · exact List.mem_cons_of_mem _ (hmem hmakeable)
      by_cases hg : isGiven segment = true
      · rw [madeBelow, if_pos hg] at hq
        exact Or.inr (hbelow hq)
      · rw [madeBelow, if_neg hg] at hq
        rcases List.mem_cons.mp hq with hq | hq
        · exact Or.inl ⟨segment, hsegment.2, hq⟩
        · exact Or.inr (hbelow hq)

end

section

variable (p : Path)

theorem fronts_segments : ∀ s ∈ ((Path.normalize p).pieces Path.isSlash).filter (· ≠ []),
    s ≠ [] ∧ '/' ∉ s := by
  intro s hs
  rcases List.mem_filter.mp hs with ⟨hs, hne⟩
  exact ⟨of_decide_eq_true hne, fun hslash =>
    absurd (Text.pieces_free _ s hs _ hslash) (by decide)⟩

/-- A front ends in a segment that is made. -/
theorem isMakeable_of_mem_fronts (q : Path) (hq : q ∈ fronts p) : Keyed.isMakeable q = true := by
  refine isMakeable_of_mem_madeBelow (fronts_segments p) _ ?_ q hq
  split
  · exact Or.inr ⟨[], rfl⟩
  · exact Or.inl rfl

/-- What is above a front is a front too, unless it is not one that is made at all. -/
theorem parent_mem_fronts (q : Path) (hq : q ∈ fronts p)
    (hmakeable : Keyed.isMakeable (Keyed.parent q) = true) : Keyed.parent q ∈ fronts p := by
  have hroot : ∀ above : Path, above = [] ∨ above = ['/'] → ∀ s : Text, '/' ∉ s →
      q ≠ above ++ s := by
    rintro above ha s hs rfl
    have hup := (Keyed.upToSlash_below above (ha.imp_right fun h => ⟨[], h⟩) s hs).1
    rw [Keyed.parent, Path.directory, hup] at hmakeable
    rcases ha with rfl | rfl
    · exact absurd hmakeable (by decide)
    · exact absurd hmakeable (by decide)
  unfold fronts at hq ⊢
  split
  · rename_i hhead
    rw [if_pos hhead] at hq
    rcases parent_mem_madeBelow (fronts_segments p) ['/'] (Or.inr ⟨[], rfl⟩) q hq with
      ⟨s, hs, hqs⟩ | hmem
    · exact absurd hqs (hroot _ (Or.inr rfl) s hs)
    · exact hmem hmakeable
  · rename_i hhead
    rw [if_neg hhead] at hq
    rcases parent_mem_madeBelow (fronts_segments p) [] (Or.inl rfl) q hq with
      ⟨s, hs, hqs⟩ | hmem
    · exact absurd hqs (hroot _ (Or.inl rfl) s hs)
    · exact hmem hmakeable

end

/-- Of paths given from the top down the first is the shortest. -/
theorem length_lt_of_pairwise {q₀ : Path} {more : List Path}
    (hdown : (q₀ :: more).Pairwise fun a b => a ++ ['/'] <+: b) :
    ∀ q ∈ more, q₀.length < q.length := by
  intro q hq
  have hlen := ((List.pairwise_cons.mp hdown).1 q hq).length_le
  rw [List.length_append, List.length_singleton] at hlen
  omega

namespace Keyed

theorem Widened.allows_iff {w w' : Keyed} {given : List Path} (h : w.Widened given w') (q : Path) :
    w'.Allows q ↔ w.Allows q := by
  rcases h.frame with ⟨dirs, calls, rfl⟩
  exact ⟨fun h => ⟨h.no_file, h.sound, h.free⟩, fun h => ⟨h.no_file, h.sound, h.free⟩⟩

theorem Widened.files {w w' : Keyed} {given : List Path} (h : w.Widened given w') :
    w'.files = w.files := by
  rcases h.frame with ⟨dirs, calls, rfl⟩
  rfl

/-- What may be made stays so with more directories. -/
theorem Admits.widened {w w' : Keyed} {given new : List Path} {q : Path} (h : w.Admits given q)
    (hw : w.Widened new w') : w'.Admits given q := by
  rcases h with hthere | ⟨hallows, habove⟩
  · exact Or.inl (hw.hasDir q hthere)
  · exact Or.inr ⟨(hw.allows_iff q).mpr hallows, habove.imp_left (hw.hasDir _)⟩

/-- Where one directory has been looked at, and made if it was missing, others may be made just if
    they might before beside that one. -/
theorem Widened.admits_iff {w v : Keyed} {q₀ q : Path} {more : List Path} (h : w.Widened [q₀] v)
    (hthere : v.hasDir q₀ = true) (hne : q ≠ q₀) : v.Admits more q ↔ w.Admits (q₀ :: more) q := by
  have hdir : ∀ r, v.hasDir r = true ↔ w.hasDir r = true ∨ r = q₀ := by
    refine fun r => ⟨fun hr => (h.given r hr).imp_right List.mem_singleton.mp, ?_⟩
    rintro (hr | rfl)
    · exact h.hasDir r hr
    · exact hthere
  rw [Admits, Admits, hdir, hdir, h.allows_iff, or_iff_left hne, List.mem_cons, or_assoc]

/-- So where the first of those given from the top down may be made, the others are left. -/
theorem Widened.forall_admits_iff {w v : Keyed} {q₀ : Path} {more : List Path}
    (h : w.Widened [q₀] v) (hthere : v.hasDir q₀ = true)
    (hdown : (q₀ :: more).Pairwise fun a b => a ++ ['/'] <+: b)
    (hfirst : w.Admits (q₀ :: more) q₀) :
    (∀ q ∈ more, v.Admits more q) ↔ ∀ q ∈ q₀ :: more, w.Admits (q₀ :: more) q := by
  rw [List.forall_mem_cons, and_iff_right hfirst]
  refine forall₂_congr fun q hq => h.admits_iff hthere ?_
  rintro rfl
  exact Nat.lt_irrefl _ (length_lt_of_pairwise hdown q hq)

end Keyed

namespace Course

variable {given : List Path} {w w' : Keyed} {stages : List (Request × Keyed)} {o : Outcome}

theorem eq_done (h : Course given w stages o w') (hok : o.ok = true) : o = .done := by
  induction h with
  | done => rfl
  | there _ _ ih => exact ih hok
  | made _ _ _ ih => exact ih hok
  | refused _ _ => exact absurd hok Bool.false_ne_true

/-- Directories given from the top down are all made just if each of them is there or may be made
    beside the others. -/
theorem ok_iff (h : Course given w stages o w')
    (hkeys : ∀ q ∈ given, Path.normalize q = q ∧ (Keyed.parent q).length < q.length)
    (hdown : given.Pairwise fun a b => a ++ ['/'] <+: b) :
    o.ok = true ↔ ∀ q ∈ given, w.Admits given q := by
  induction h with
  | done => exact ⟨fun _ q hq => absurd hq List.not_mem_nil, fun _ => rfl⟩
  | @there q₀ more w _ _ _ hthere _ ih =>
      exact (ih (List.forall_mem_cons.mp hkeys).2 (List.pairwise_cons.mp hdown).2).trans
        (Keyed.Widened.forall_admits_iff (.of_calls w _ _) hthere hdown (Or.inl hthere))
  | @made q₀ more w _ _ _ _ hmissing hmade _ ih =>
      have hkey := (List.forall_mem_cons.mp hkeys).1.1
      rcases Keyed.looked_made hkey hmade with ⟨hw, hthere⟩
      have hasked : w.Widened [] (w.record (.isDir q₀)) := .of_calls w _ _
      rcases ((w.record (.isDir q₀)).settled_mkdir_ok_iff q₀ hkey).mp (by rw [hmade]) with
        ⟨_, hallows, habove⟩
      exact (ih (List.forall_mem_cons.mp hkeys).2 (List.pairwise_cons.mp hdown).2).trans
        (hw.forall_admits_iff hthere hdown
          (Or.inr ⟨(hasked.allows_iff q₀).mp hallows, Or.inl habove⟩))
  | @refused q₀ more w _ why hmissing hrefused =>
      refine ⟨fun hok => absurd hok Bool.false_ne_true, fun hall => ?_⟩
      rcases (List.forall_mem_cons.mp hkeys).1 with ⟨hkey, hlen⟩
      have hasked : w.Widened [] (w.record (.isDir q₀)) := .of_calls w _ _
      rcases hall q₀ List.mem_cons_self with hthere | ⟨hallows, habove⟩
      · exact absurd (hthere.symm.trans hmissing) (by simp)
      -- The directory above is not one that is made as well, since it is shorter than all these.
      · have hthere : w.hasDir (Keyed.parent q₀) = true := by
          refine habove.resolve_right fun hmem => ?_
          rcases List.mem_cons.mp hmem with heq | hmem
          · rw [heq] at hlen
            exact Nat.lt_irrefl _ hlen
          · exact Nat.lt_asymm hlen (length_lt_of_pairwise hdown _ hmem)
        have hok := ((w.record (.isDir q₀)).settled_mkdir_ok_iff q₀ hkey).mpr
          ⟨hmissing, (hasked.allows_iff q₀).mpr hallows, hthere⟩
        rw [hrefused] at hok
        exact absurd hok (by simp only [reduceCtorEq, not_false_eq_true])

end Course

/-- A making ends well just if each of its fronts is there or may be made beside the others. -/
theorem makeDirs_done_iff (p : Path) (w : Keyed) :
    ((makeDirs p).ran w).result = .ok .done ↔ ∀ q ∈ fronts p, w.Admits (fronts p) q := by
  rcases makeDirs_course p w with ⟨o, ho, hcourse⟩
  rw [ho, ← hcourse.ok_iff (fun q hq => ⟨fronts_normal p q hq, ?_⟩) (fronts_pairwise p)]
  · constructor
    · intro h
      rw [Except.ok.inj h]
      rfl
    · exact fun h => congrArg _ (hcourse.eq_done h)
  · have hmakeable := isMakeable_of_mem_fronts p q hq
    rw [Keyed.isMakeable, Bool.and_eq_true, decide_eq_true_eq] at hmakeable
    exact Keyed.length_parent_lt q hmakeable.1

/-- What a making that ended well has left: its fronts are directories besides those that there
    were, and all else is as it was. -/
theorem makeDirs_left (p : Path) (w : Keyed) (o : Outcome)
    (ho : ((makeDirs p).ran w).result = .ok o) (hok : o.ok = true) :
    o = .done ∧ w.Widened (fronts p) ((makeDirs p).ran w).world ∧
      ∀ d, ((makeDirs p).ran w).world.hasDir d = true ↔ w.hasDir d = true ∨ d ∈ fronts p := by
  rcases makeDirs_course p w with ⟨o', ho', hcourse⟩
  cases ho.symm.trans ho'
  have hwidened := hcourse.widened (fronts_normal p)
  refine ⟨hcourse.eq_done hok, hwidened, fun d => ⟨hwidened.given d, ?_⟩⟩
  rintro (hd | hd)
  · exact hwidened.hasDir d hd
  · exact hcourse.complete (fronts_normal p) hok d hd

/-- Where all directories are there that are to be made, they are looked at and nothing else is
    done. -/
theorem makeBelow_there (segments : List Text) : ∀ (above : Path) (w : Keyed),
    (∀ s ∈ segments, s ≠ []) →
    (∀ q ∈ madeBelow above segments, Path.normalize q = q ∧ w.hasDir q = true) →
    (makeBelow above segments).ran w = ⟨.ok .done, [],
        { w with calls := ((madeBelow above segments).map .isDir).reverse ++ w.calls }⟩ ∧
      (makeBelow above segments).asked w = (madeBelow above segments).map .isDir := by
  induction segments with
  | nil => exact fun above w _ _ => ⟨rfl, rfl⟩
  | cons segment more ih =>
      intro above w hne hthere
      have hsegment := hne segment List.mem_cons_self
      have hmore : ∀ s ∈ more, s ≠ [] := fun s hs => hne s (List.mem_cons_of_mem _ hs)
      cases hg : isGiven segment with
      | true =>
          rw [makeBelow_given above segment more hsegment hg]
          rw [madeBelow, if_pos hg] at hthere ⊢
          exact ih _ w hmore hthere
      | false =>
          rw [madeBelow, if_neg (Bool.eq_false_iff.mp hg)] at hthere ⊢
          rcases List.forall_mem_cons.mp hthere with ⟨⟨hkey, hdir⟩, hrest⟩
          rcases ih _ (w.record (.isDir (above ++ segment))) hmore hrest with ⟨hran, hasked⟩
          rw [makeBelow, if_neg hsegment]
          simp only [hg, Bool.false_eq_true, if_false]
          rw [ran_request_bind, asked_request_bind, w.settled_isDir _ hkey, hdir]
          simp only [if_true]
          rw [hran, hasked, Request.normal, hkey, List.map_cons, List.reverse_cons,
            List.append_assoc (List.reverse _)]
          exact ⟨rfl, rfl⟩

/-- After a making that ended well another one of the same path, however it is spelled, only looks
    at what is there: it ends well, says nothing, makes nothing, and leaves the world as it is but
    for what is recorded. -/
theorem makeDirs_again (p q : Path) (hsame : Path.normalize q = Path.normalize p) (w : Keyed)
    (o : Outcome) (ho : ((makeDirs p).ran w).result = .ok o) (hok : o.ok = true) :
    let made := ((makeDirs p).ran w).world
    (makeDirs q).ran made = ⟨.ok .done, [],
        { made with calls := ((fronts q).map .isDir).reverse ++ made.calls }⟩ ∧
      (makeDirs q).asked made = (fronts q).map .isDir := by
  intro made
  have hfronts : fronts q = fronts p := by rw [fronts, fronts, hsame]
  rw [show makeDirs q = _ from makeBelow_filter _ _]
  refine makeBelow_there _ _ made (fun s hs => (fronts_segments q s hs).1) fun d hd => ?_
  change d ∈ fronts q at hd
  rw [hfronts] at hd
  exact ⟨fronts_normal p d hd, ((makeDirs_left p w o ho hok).2.2 d).mpr (Or.inr hd)⟩

theorem makeDirs_again_branch :
    Path.normalize "a//c\\d/".toList = Path.normalize "./a/c/x/../d".toList ∧
    ((makeDirs "./a/c/x/../d".toList).ran Keyed.grove).result = .ok .done ∧
    (makeDirs "a//c\\d/".toList).asked ((makeDirs "./a/c/x/../d".toList).ran Keyed.grove).world =
      [.isDir "a".toList, .isDir "a/c".toList, .isDir "a/c/d".toList] := by
  have hsame : Path.normalize "a//c\\d/".toList = Path.normalize "./a/c/x/../d".toList := by decide
  have hdone : ((makeDirs "./a/c/x/../d".toList).ran Keyed.grove).result = .ok .done := by decide
  refine ⟨hsame, hdone, ?_⟩
  rw [(makeDirs_again _ _ hsame _ _ hdone rfl).2]
  decide

/-- If one path and then another are made well, so are they in the other order, and the same
    directories and files are there at the end. -/
theorem makeDirs_comm (p q : Path) (w : Keyed) (o o' : Outcome)
    (hp : ((makeDirs p).ran w).result = .ok o) (hpok : o.ok = true)
    (hq : ((makeDirs q).ran ((makeDirs p).ran w).world).result = .ok o') (hqok : o'.ok = true) :
    let before := ((makeDirs q).ran w).world
    ((makeDirs q).ran w).result = .ok .done ∧ ((makeDirs p).ran before).result = .ok .done ∧
      (∀ d, ((makeDirs p).ran before).world.hasDir d =
        ((makeDirs q).ran ((makeDirs p).ran w).world).world.hasDir d) ∧
      ((makeDirs p).ran before).world.files =
        ((makeDirs q).ran ((makeDirs p).ran w).world).world.files := by
  intro before
  rcases makeDirs_left p w o hp hpok with ⟨rfl, hwide, hdirs⟩
  rcases makeDirs_left q _ o' hq hqok with ⟨rfl, hwide', hdirs'⟩
  have hfirst := (makeDirs_done_iff p w).mp hp
  -- What the first making has put above a front of the second is a front of that as well.
  have habove : ∀ f ∈ fronts q, Keyed.parent f ∈ fronts p → Keyed.parent f ∈ fronts q :=
    fun f hf hmem => parent_mem_fronts q f hf (isMakeable_of_mem_fronts p _ hmem)
  have hbefore : ((makeDirs q).ran w).result = .ok .done := by
    refine (makeDirs_done_iff q w).mpr fun f hf => ?_
    rcases (makeDirs_done_iff q _).mp hq f hf with hthere | ⟨hallows, hup⟩
    · rcases (hdirs f).mp hthere with hthere | hmade
      · exact Or.inl hthere
      · exact (hfirst f hmade).imp_right fun h => ⟨h.1, h.2.imp_right (habove f hf)⟩
    · refine Or.inr ⟨(hwide.allows_iff f).mp hallows, ?_⟩
      rw [hdirs, or_assoc] at hup
      exact hup.imp_right fun h => h.elim (habove f hf) id
  rcases makeDirs_left q w .done hbefore rfl with ⟨_, hleft, hdirsq⟩
  have hafter : ((makeDirs p).ran before).result = .ok .done :=
    (makeDirs_done_iff p before).mpr fun f hf => (hfirst f hf).widened hleft
  rcases makeDirs_left p before .done hafter rfl with ⟨_, hleft', hdirsp⟩
  refine ⟨hbefore, hafter, fun d => ?_, ?_⟩
  · rw [Bool.eq_iff_iff, hdirsp, hdirsq, hdirs', hdirs, or_right_comm]
  · rw [hleft'.files, hleft.files, hwide'.files, hwide.files]

theorem makeDirs_comm_siblings :
    ((makeDirs "a/c/d".toList).ran Keyed.grove).result = .ok .done ∧
    ((makeDirs "a/c/e/../f".toList).ran ((makeDirs "a/c/d".toList).ran Keyed.grove).world).result =
      .ok .done ∧
    ((makeDirs "a/c/e/../f".toList).ran Keyed.grove).result = .ok .done := by
  have hfirst : ((makeDirs "a/c/d".toList).ran Keyed.grove).result = .ok .done := by decide
  have hsecond : ((makeDirs "a/c/e/../f".toList).ran
      ((makeDirs "a/c/d".toList).ran Keyed.grove).world).result = .ok .done := by decide
  exact ⟨hfirst, hsecond, (makeDirs_comm _ _ _ _ _ hfirst rfl hsecond rfl).1⟩

end Maskwalk
