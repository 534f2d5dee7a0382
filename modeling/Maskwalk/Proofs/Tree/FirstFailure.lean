import Maskwalk.Proofs.Tree.Files
import Maskwalk.Proofs.Walk.Matching

/-!
# The first failure of a removal

In an ordinary world it can be told beforehand whether a file can be removed: there has to be no
fault on it, and its directory may not be read-only. The files of a mask are removed up to the first
for which one of these is in the way, and that file and its obstacle are the answer.

The loop carries the world as the one at the start without the files that have been removed. That is
an ordinary world again, in which the files still to come are as they were: no file is listed twice,
and no removal touches what stands in the way of another.

After a removal that is complete the same match finds nothing. Walks in the world that is left go
where they went before, since only files are gone, and what they would find there had been found
and removed.

## Main definitions

* `Keyed.obstacle?`: what stands in the way of removing a file.
* `Keyed.Without`: a world without some files, and without their names.

## Theorems

* `Ordinary.remove_free`, `remove_obstructed`: A file is removed if nothing is in the way.
* `Ordinary.removeFiles_done`, `Ordinary.removeFiles_stops`: A removal ends at the first obstacle.
* `Ordinary.matched_again`: When all is removed there is nothing left to find.
* `removeAll_failsFast`: The removal of the files of a mask.
-/

namespace Maskwalk

open Maskwalk.Path (child)

open Attempt

namespace Keyed

/-- What stands in the way of removing a file: a fault of its own, or that its directory may not be
    changed. -/
def obstacle? (w : Keyed) (f : Path) : Option Failure :=
  match valueOf? f w.faults with
  | some reason => some (.other reason)
  | none => if w.readonly.elem (parent f) then some (.system .denied f) else none

/-- Nothing stands in the way of a file without a fault in a directory that may be changed. -/
theorem obstacle_eq_none_iff (w : Keyed) (f : Path) :
    w.obstacle? f = none ↔ valueOf? f w.faults = none ∧ parent f ∉ w.readonly := by
  unfold obstacle?
  cases valueOf? f w.faults with
  | some reason => simp only [reduceCtorEq, false_and]
  | none => simp only [ite_eq_right_iff, List.elem_iff, reduceCtorEq, imp_false, true_and]

/-- The second world is the first without some files, and its directories list what they did without
    the names of these. -/
structure Without (w : Keyed) (gone : List Path) (w' : Keyed) : Prop extends Lost w gone w' where
  names : ∀ d, w'.names? d = (w.names? d).map fun names => names.filter fun n => child d n ∉ gone

namespace Without

variable {w w' w'' : Keyed} {gone gone' : List Path}

theorem of_calls (w : Keyed) (calls : List Request) : w.Without [] { w with calls } := by
  refine ⟨Lost.of_calls w calls, fun d => ?_⟩
  change w.names? d = _
  simp only [List.not_mem_nil, not_false_eq_true, decide_true, List.filter_true, Option.map_id']

theorem trans (h : w.Without gone w') (h' : w'.Without gone' w'') :
    w.Without (gone ++ gone') w'' := by
  refine ⟨h.toLost.trans h'.toLost, fun d => ?_⟩
  rw [h'.names, h.names, Option.map_map]
  congr 1
  funext names
  simp only [Function.comp_apply, List.filter_filter, List.mem_append, not_or, Bool.decide_and,
    Bool.and_comm]

theorem faults (h : w.Without gone w') : w'.faults = w.faults := by rw [h.rest]

theorem readonly (h : w.Without gone w') : w'.readonly = w.readonly := by rw [h.rest]

theorem denied (h : w.Without gone w') : w'.denied = w.denied := by rw [h.rest]

/-- Removing files removes nothing that would stand in the way of another. -/
theorem obstacle_eq (h : w.Without gone w') (f : Path) : w'.obstacle? f = w.obstacle? f := by
  rw [obstacle?, obstacle?, h.faults, h.readonly]

theorem mayList_eq (h : w.Without gone w') (d : Path) : w'.mayList d = w.mayList d := by
  rw [mayList, mayList, h.faults, h.denied]

theorem mem_shown (h : w.Without gone w') (d : Path) (n : Text) (hn : n ∈ w'.shown d) :
    n ∈ w.shown d := by
  rw [shown, h.mayList_eq, h.names] at hn
  rw [shown]
  by_cases hm : w.mayList d = true
  · rw [if_pos hm] at hn ⊢
    cases hd : w.names? d with
    | none =>
        rw [hd] at hn
        exact absurd hn List.not_mem_nil
    | some names =>
        rw [hd] at hn
        exact (List.mem_filter.mp hn).1
  · rw [if_neg hm] at hn
    exact absurd hn List.not_mem_nil

theorem hasFile_iff (h : w.Without gone w') (f : Path) :
    w'.hasFile f = true ↔ w.hasFile f = true ∧ f ∉ gone := by
  rw [Keyed.hasFile_iff, Keyed.hasFile_iff, h.content]
  by_cases hf : f ∈ gone
  · rw [if_pos hf]
    simp only [reduceCtorEq, exists_false, hf, not_true_eq_false, and_false]
  · rw [if_neg hf]
    simp only [hf, not_false_eq_true, and_true]

/-- A world without files is a pruned world. -/
theorem pruned (h : w.Without gone w') (hw : w.Ordinary) (hfiles : ∀ f ∈ gone, w.hasFile f = true) :
    Pruned w (· ∈ gone) w' := by
  refine ⟨fun d hd => ?_, fun d _ => ?_, fun f hf => by rw [h.content, if_pos hf],
    fun f hf => by rw [h.content, if_neg hf], h.denied, h.readonly, h.faults⟩
  -- A file is no directory, so there are no names under its key.
  · cases hnames : w'.names? d with
    | none => rfl
    | some names =>
        have hdir : w'.hasDir d = true := (w'.hasDir_iff d).mpr ⟨names, hnames⟩
        rw [h.dirs] at hdir
        exact absurd ⟨hdir, hfiles d hd⟩ (hw.apart d)
  · rw [h.names]
    congr 1
    funext names
    refine List.filter_congr (fun n _ => ?_)
    rw [Bool.eq_iff_iff]
    simp only [decide_eq_true_eq]

/-- Without some of its files an ordinary world is ordinary. -/
theorem ordinary (h : w.Without gone w') (hw : w.Ordinary)
    (hfiles : ∀ f ∈ gone, w.hasFile f = true) : w'.Ordinary := by
  refine (h.pruned hw hfiles).ordinary hw (fun d n hd hk hl => ?_)
  -- There is nothing below a file.
  have hbelow := Path.below_self_child d n hl.ne_nil hl.no_slash
  exact absurd ⟨hw.hasDir_of_below d _ hk hbelow, hfiles d hd⟩ (hw.apart d)

end Without

namespace Ordinary

variable {w : Keyed} (h : w.Ordinary)

include h

/-- A file with nothing in the way is removed. -/
theorem remove_free (f : Path) (hf : w.IsEntry f) (hfree : w.obstacle? f = none) :
    ((Request.remove f).settled w).1 = .ok () ∧ w.Without [f] ((Request.remove f).settled w).2 := by
  have hn := h.normal f (w.has_of_hasFile f hf.file)
  rcases (w.obstacle_eq_none_iff f).mp hfree with ⟨hfault, hopen⟩
  rcases h.coherent.remove_done f hn hfault hf.file hopen with ⟨hpruned, hok⟩
  have hreply := hok hf.ne_here hf.ne_root
  have hlost : w.Lost [f] ((Request.remove f).settled w).2 := by
    rcases w.lost_remove f with hlost | ⟨_, why, hwhy⟩
    · rw [hn] at hlost
      exact hlost
    · rw [hreply] at hwhy
      exact absurd hwhy (by simp only [reduceCtorEq, not_false_eq_true])
  refine ⟨hreply, hlost, fun d => ?_⟩
  by_cases hd : d = f
  -- Under the key of the file there are no names before or after.
  · have hnone : w.names? f = none := by
      cases hnames : w.names? f with
      | none => rfl
      | some names => exact absurd ⟨(w.hasDir_iff f).mpr ⟨names, hnames⟩, hf.file⟩ (h.apart f)
    rw [hd, hpruned.names_gone f rfl, hnone]
    rfl
  · rw [hpruned.names_left d hd]
    congr 1
    funext names
    refine List.filter_congr (fun n _ => ?_)
    rw [Bool.eq_iff_iff]
    simp only [List.mem_singleton, decide_eq_true_eq]

end Ordinary

/-- A file with something in the way is not removed, and that is the answer. -/
theorem remove_obstructed (w : Keyed) (f : Path) (hn : Path.normalize f = f)
    (hf : w.hasFile f = true) (why : Failure) (hwhy : w.obstacle? f = some why) :
    why.isRefusal = true ∧
      ∃ calls, (Request.remove f).settled w = (.error why, { w with calls }) := by
  unfold obstacle? at hwhy
  change _ ∧ ∃ calls, World.answer (.remove (Path.normalize f)) w = _
  rw [hn]
  change _ ∧ ∃ calls, w.unlessFaulty (.remove f) f (·.remove f) = _
  unfold unlessFaulty
  cases hfault : valueOf? f w.faults with
  | some reason =>
      rw [hfault, Option.some.injEq] at hwhy
      rw [← hwhy]
      exact ⟨rfl, w.calls, rfl⟩
  | none =>
      rw [hfault] at hwhy
      simp only at hwhy ⊢
      by_cases hro : w.readonly.elem (parent f) = true
      · rw [if_pos hro, Option.some.injEq] at hwhy
        rw [← hwhy]
        refine ⟨rfl, .remove f :: w.calls, ?_⟩
        unfold remove
        rw [if_neg (by rw [show (w.record (.remove f)).hasFile f = true from hf]; decide),
          if_pos (show (w.record (.remove f)).readonly.elem (parent f) = true from hro)]
        rfl
      · rw [if_neg hro] at hwhy
        exact absurd hwhy (by simp only [reduceCtorEq, not_false_eq_true])

namespace Ordinary

/-- Files with nothing in the way are removed one after the other, and the removal goes on with the
    rest in the world without them. -/
theorem removeFiles_append (rest : List Path) (before : List Path) : ∀ {w : Keyed}, w.Ordinary →
    (∀ f ∈ before, w.IsEntry f ∧ w.obstacle? f = none) → before.Nodup →
    ∃ w', w.Without before w' ∧
      ((removeFiles (before ++ rest)).ran w).result = ((removeFiles rest).ran w').result ∧
      ((removeFiles (before ++ rest)).ran w).world = ((removeFiles rest).ran w').world := by
  induction before with
  | nil => exact fun {w} _ _ _ => ⟨w, Without.of_calls w w.calls, rfl, rfl⟩
  | cons file more ih =>
      intro w h hfiles hnodup
      rw [List.nodup_cons] at hnodup
      rcases hfiles file List.mem_cons_self with ⟨hfile, hfree⟩
      rcases h.remove_free file hfile hfree with ⟨hreply, hwithout⟩
      rcases removeFiles_granted file (more ++ rest) w _ (Prod.ext hreply rfl) with
        ⟨hresult, hworld⟩
      have hone : ∀ f ∈ [file], w.hasFile f = true := by
        intro f hf
        rw [List.mem_singleton.mp hf]
        exact hfile.file
      -- In the world without the first file the others are what they were.
      have hmore : ∀ f ∈ more, ((Request.remove file).settled w).2.IsEntry f ∧
          ((Request.remove file).settled w).2.obstacle? f = none := by
        intro f hf
        rcases hfiles f (List.mem_cons_of_mem _ hf) with ⟨hold, hfree⟩
        rw [hwithout.obstacle_eq]
        refine ⟨⟨(hwithout.hasFile_iff f).mpr ⟨hold.file, fun hmem => hnodup.1 ?_⟩,
          hold.ne_here, hold.ne_root⟩, hfree⟩
        rw [← List.mem_singleton.mp hmem]
        exact hf
      rcases ih (hwithout.ordinary h hone) hmore hnodup.2 with ⟨w', hgone, hresult', hworld'⟩
      rw [List.cons_append, hresult, hworld]
      exact ⟨w', hwithout.trans hgone, hresult', hworld'⟩

/-- A removal stops at the first file with something in the way, and all before it are gone. -/
theorem removeFiles_stops {w : Keyed} (h : w.Ordinary) (before after : List Path) (f : Path)
    (why : Failure) (hbefore : ∀ g ∈ before, w.IsEntry g ∧ w.obstacle? g = none)
    (hf : w.IsEntry f) (hnodup : (before ++ f :: after).Nodup) (hwhy : w.obstacle? f = some why) :
    ((removeFiles (before ++ f :: after)).ran w).result = .ok (.failedAt f why) ∧
      w.Without before ((removeFiles (before ++ f :: after)).ran w).world := by
  rw [List.nodup_append] at hnodup
  rcases removeFiles_append (f :: after) before h hbefore hnodup.1 with
    ⟨w', hgone, hresult, hworld⟩
  have hfile : w'.hasFile f = true := (hgone.hasFile_iff f).mpr
    ⟨hf.file, fun hmem => hnodup.2.2 f hmem f List.mem_cons_self rfl⟩
  rcases w'.remove_obstructed f (h.normal f (w.has_of_hasFile f hf.file)) hfile why
    (by rw [hgone.obstacle_eq, hwhy]) with ⟨hrefusal, calls, hs⟩
  rcases removeFiles_refused f after w' _ why hs with ⟨hresult', hworld'⟩
  rw [if_pos hrefusal] at hresult'
  rw [hresult, hworld, hresult', hworld', ← List.append_nil before]
  exact ⟨rfl, hgone.trans (Without.of_calls w' calls)⟩

/-- With nothing in the way all files are removed. -/
theorem removeFiles_done {w : Keyed} (h : w.Ordinary) (files : List Path)
    (hfiles : ∀ f ∈ files, w.IsEntry f ∧ w.obstacle? f = none) (hnodup : files.Nodup) :
    ((removeFiles files).ran w).result = .ok .done ∧
      w.Without files ((removeFiles files).ran w).world := by
  rcases removeFiles_append [] files h hfiles hnodup with ⟨w', hgone, hresult, hworld⟩
  rw [List.append_nil] at hresult hworld
  rw [hresult, hworld]
  exact ⟨rfl, hgone⟩

variable {w : Keyed}

variable (h : w.Ordinary) (s : Selection) (hfiles : s.files = true) (start : Path)
  (hn : Path.normalize start = start) (found : List Path) (hfound : w.matched s start = .ok found)

include h hfiles hn hfound

/-- What a match for files finds are files, each of them once. -/
theorem entries_of_found : (∀ f ∈ found, w.IsEntry f) ∧ found.Nodup := by
  rcases w.tour_of_matched s start found hfound with ⟨dirs, ht, heq⟩
  rw [heq]
  refine ⟨fun f hf => ?_, ?_⟩
  · have hmatch := h.isMatch_of_found s _ start dirs hn ht f hf
    have hkind := hmatch.kind
    rw [if_pos hfiles] at hkind
    have hne := Path.ne_root_of_below start f hmatch.below
    exact ⟨hkind, hne.1, hne.2⟩
  · exact (h.found_before s _ start dirs hn ht).imp (fun hb => h.ne_of_before _ _ hb)

/-- When all that a match found is gone, the same match finds nothing. -/
theorem matched_again (w' : Keyed) (hgone : w.Without found w') : w'.matched s start = .ok [] := by
  have hentries := (h.entries_of_found s hfiles start hn found hfound).1
  have hw' := hgone.ordinary h (fun f hf => (hentries f hf).file)
  rcases w.tour_of_matched s start found hfound with ⟨dirs, ht, heq⟩
  rcases (hw'.descends s).matched_cases start hn with ⟨dirs', ht', hm⟩ | ⟨hshut, _⟩
  · rw [hm, Except.ok.injEq, List.eq_nil_iff_forall_not_mem]
    -- A walk in the world that is left visits only what was visited before, and a file that it
    -- finds there had been found before.
    refine w'.found_forall s start _ hm (· ∈ dirs) (fun _ => False)
      (w.tour_origin s _ start dirs ht).1 (fun hs d c hd hc => ?_) (fun d c hd hc => ?_)
    · refine (w.tour_closed s _ start dirs ht hs).2 d hd c ?_
      rcases (w'.mem_entered s d c).mp hc with ⟨n, hmem, henters, hcn⟩
      have hshown := hgone.mem_shown _ n hmem
      refine (w.mem_entered s d c).mpr ⟨n, hshown, ?_, hcn⟩
      rw [Selection.enters, hw'.entryOf_eq _ n hmem, hgone.dirs] at henters
      rw [Selection.enters, h.entryOf_eq _ n hshown]
      exact henters
    · have hdn := (h.descends s).normalize_of_mem_tour _ start dirs hn ht d hd
      rw [hw'.keptAt_eq s d hdn, List.mem_filter, hits_iff, if_pos hfiles, hgone.hasFile_iff] at hc
      rcases hc with ⟨hkid, ⟨hfile, hleft⟩, hhits⟩
      refine hleft ?_
      rw [heq]
      refine List.mem_flatMap.mpr ⟨d, hd, ?_⟩
      rw [h.keptAt_eq s d hdn, List.mem_filter, hits_iff, if_pos hfiles]
      rcases (w'.mem_kids d c).mp hkid with ⟨n, hmem, hcn⟩
      exact ⟨(w.mem_kids d c).mpr ⟨n, hgone.mem_shown d n hmem, hcn⟩, hfile, hhits⟩
  -- The start can be listed as well as before.
  · have hopen := w.mayList_of_matched s start found hfound
    rw [hn, ← hgone.mayList_eq, hshut] at hopen
    exact absurd hopen Bool.false_ne_true

end Ordinary

end Keyed

/-- The removal of the files of a mask in an ordinary world, whatever is denied, read-only or faulty
    there. If the match is a fault, which can only be that its start cannot be listed, so is the
    removal, and nothing changes. Otherwise the files that the match found are removed in its order,
    up to the first with something in the way. If there is none, they are gone, nothing else is, and
    the same match finds nothing. If there is one, the answer names it and what is in its way, and
    just the files before it are gone. -/
theorem removeAll_failsFast (m : Matcher) (mask : Path) (w : Keyed) (h : w.Ordinary) :
    let found := ((m.matching mask true none (some .nothing)).ran w).result
    let ran := (removeAll m (.mask mask)).ran w
    (∃ dir cause, found = .error (.unlistable dir cause) ∧
      ran.result = .error (.unlistable dir cause) ∧ ∃ calls, ran.world = { w with calls }) ∨
    ∃ files, found = .ok files ∧ (∀ f ∈ files, w.hasFile f = true) ∧ files.Nodup ∧
      ((∀ f ∈ files, w.obstacle? f = none) → ran.result = .ok .done ∧
        w.Without files ran.world ∧
        ((m.matching mask true none (some .nothing)).ran ran.world).result = .ok []) ∧
      ∀ before f after why, files = before ++ f :: after →
        (∀ g ∈ before, w.obstacle? g = none) → w.obstacle? f = some why →
          ran.result = .ok (.failedAt f why) ∧ w.Without before ran.world := by
  intro found ran
  have hran : ran = (removeMask m mask).ran w := by
    change (removeAll m (.mask mask)).ran w = _
    rw [removeAll]
  have hreads := m.candidates_reads mask w
  have hn := Mask.normalize_start mask
  rw [hran]
  rcases removeMask_cases m mask w with
    ⟨calls, hfound, hresult, hworld⟩ | ⟨fault, hfault, _, hremoval⟩
  · right
    have hmatched : w.matched (m.selection (Path.normalize mask) true m.dirRule (some .never))
        (Mask.start (Path.normalize mask)) = .ok (m.candidates mask w) := by
      rw [← hreads.result, hfound]
    rcases h.entries_of_found _ rfl _ hn _ hmatched with ⟨hentries, hnodup⟩
    -- The removal starts in a world in which only the record of calls is another.
    have hstart := Keyed.Without.of_calls w calls
    have hw := h.with_calls calls
    have hentry : ∀ f ∈ m.candidates mask w, Keyed.IsEntry { w with calls } f := fun f hf =>
      ⟨(hentries f hf).file, (hentries f hf).ne_here, (hentries f hf).ne_root⟩
    rw [hresult, hworld]
    refine ⟨m.candidates mask w, hfound, fun f hf => (hentries f hf).file, hnodup, fun hfree => ?_,
      fun before f after why hsplit hfree hwhy => ?_⟩
    · rcases hw.removeFiles_done _ (fun f hf => ⟨hentry f hf,
        (hstart.obstacle_eq f).trans (hfree f hf)⟩) hnodup with ⟨hdone, hgone⟩
      have hgone := hstart.trans hgone
      refine ⟨hdone, hgone, ?_⟩
      rw [(m.candidates_reads mask _).result]
      exact h.matched_again _ rfl _ hn _ hmatched _ hgone
    · rw [hsplit] at hentry hnodup ⊢
      rcases hw.removeFiles_stops before after f why
        (fun g hg => ⟨hentry g (List.mem_append_left _ hg),
          (hstart.obstacle_eq g).trans (hfree g hg)⟩)
        (hentry f (List.mem_append_right _ List.mem_cons_self)) hnodup
        ((hstart.obstacle_eq f).trans hwhy) with ⟨hfailed, hgone⟩
      exact ⟨hfailed, hstart.trans hgone⟩
  · left
    rw [hreads.result] at hfault
    rcases (h.descends _).matched_cases _ hn with ⟨dirs, _, hm⟩ | ⟨_, dir, cause, hm⟩
    · exact absurd (hm.symm.trans hfault) (by simp only [reduceCtorEq, not_false_eq_true])
    · rw [hfault, Except.error.injEq] at hm
      rw [hm] at hfault hremoval
      exact ⟨dir, cause, hreads.result.trans hfault, hremoval.result, hremoval.world⟩

/-- In the grove the file at the deepest place can be protected by its directory. It is found behind
    the other file in `a`, which is gone by then. -/
theorem removeAll_failsFast_grove :
    let w : Keyed := { Keyed.grove with readonly := [['a', '/', 'b']] }
    let ran := (removeAll ⟨true, none, none⟩ (.mask "a/**".toList)).ran w
    w.Ordinary ∧
      ran.result = .ok (.failedAt "a/b/g".toList (.system .denied "a/b/g".toList)) ∧
      w.Without ["a/f".toList] ran.world := by
  intro w ran
  have hw : w.Ordinary := by decide
  have hfound : ((Matcher.matching ⟨true, none, none⟩ "a/**".toList true none (some .nothing)).ran
      w).result = .ok ["a/f".toList, "a/b/g".toList] := by decide
  refine ⟨hw, ?_⟩
  rcases removeAll_failsFast ⟨true, none, none⟩ "a/**".toList w hw with
    ⟨dir, cause, hfault, _⟩ | ⟨files, hfiles, _, _, _, hstop⟩
  · rw [hfound] at hfault
    exact absurd hfault (by simp only [reduceCtorEq, not_false_eq_true])
  · rw [hfound, Except.ok.injEq] at hfiles
    exact hstop ["a/f".toList] "a/b/g".toList [] _ hfiles.symm (by decide) (by decide)

end Maskwalk
