import Maskwalk.Proofs.Engine.History
import Maskwalk.Proofs.Engine.Running
import Maskwalk.Proofs.Tree.Named
import Maskwalk.Proofs.World.Listed

/-!
# When a removed file is gone

A path without a star names one file, and two ways lead to it. A question about the file looks its
key up; a removal lists the directory of the key, joins the names that it finds there to the
directory, and removes what fits the path. The two agree where the name of the path leads from its
directory back to the path. A name that looks absolute does not, below any directory, and neither
does a name that stands directly on a share; and a name that is a marker is never listed as a file.
At such a path a removal finds nothing to do and says that all is done, and the file is still there.

In a planted world every file is listed by the directory of its key, whatever the names, so nothing
else can go wrong: `Session.removeAll_gone` says of every path whether it is a file after a removal
that was answered as done.

## Main definitions

* `Keyed.leadsBack`: whether the name of a path leads from its directory back to it.

## Theorems

* `mem_found_of_leadsBack`, `leadsBack_of_mem_found`: When a removal finds the file of a path.
* `Session.removeAll_gone`: When a file is gone after its removal.
-/

namespace Maskwalk

namespace Keyed

/-- Whether the name of a path leads from its directory back to it, and is no marker. -/
def leadsBack (p : Path) : Bool := !isMark (name p) && decide (Path.join (parent p) (name p) = p)

/-- A path that is its own directory is one of the two roots. -/
theorem eq_of_parent_self (p : Path) (h : parent p = p) : p = [] ∨ p = ['/'] := by
  rcases Path.upToSlash_cases p with h0 | ⟨lead, hlead⟩
  · rw [← h, parent, Path.directory, h0]
    exact Or.inl rfl
  · by_cases hhere : lead = Path.here
    · rw [← h, parent, Path.directory, hlead, hhere]
      exact Or.inl rfl
    · rw [Path.parent_of_upToSlash p lead hlead hhere] at h
      by_cases hl : lead = []
      · rw [if_pos hl] at h
        exact Or.inr h.symm
      -- Otherwise the path would be as long as what stands in front of its last slash.
      · rw [if_neg hl] at h
        have hlen := (Path.upToSlash_starts p).length_le
        rw [hlead, h, List.length_append, List.length_singleton] at hlen
        omega

/-- What a name is joined to does not change it. -/
theorem name_join (d n : Path) (hn : n ≠ []) (hs : '/' ∉ n) : name (Path.join d n) = n := by
  rw [Path.join, if_neg hn]
  split
  · exact Path.baseName_of_no_slash n hs
  · split
    · rename_i hend
      rw [Path.endsWithSlash, decide_eq_true_eq, List.getLast?_eq_some_iff] at hend
      rcases hend with ⟨lead, hlead⟩
      rw [hlead, List.append_assoc]
      exact Path.baseName_behind lead n hs
    · exact Path.baseName_behind d n hs

/-- What a directory gives as a file is a name joined to it that it lists and that is no marker. -/
theorem file_of_keptAt (w : Keyed) (s : Selection) (hfiles : s.files = true) (d c : Path)
    (hd : Path.normalize d = d) (hc : c ∈ w.keptAt s d) :
    ∃ n ∈ w.shown d, isMark n = false ∧ c = Path.join d n ∧ w.hasFile c = true := by
  rcases (w.mem_keptAt s d c).mp hc with ⟨n, hn, hkeeps, hcn⟩
  rw [hd] at hn hkeeps
  rw [Selection.keeps, Bool.and_eq_true, Selection.wants, if_pos hfiles, Bool.and_eq_true] at hkeeps
  cases hm : isMark n with
  | true =>
      rw [entryOf, if_pos hm] at hkeeps
      exact absurd hkeeps.1.1 Bool.false_ne_true
  | false =>
      rw [w.entryOf_of_not_mark d n hm, ← hcn] at hkeeps
      exact ⟨n, hn, hm, hcn, hkeeps.1.1⟩

/-- A path without a star, read as a mask, starts at its directory. -/
theorem start_of_no_star (p : Path) (h : '*' ∉ p) : Mask.start p = parent p := by
  have htake : p.takeWhile (· ≠ '*') = p := by
    have hall := Mask.takeWhile_append_of_no_star p [] h
    rwa [List.takeWhile_nil, List.append_nil] at hall
  rw [Mask.start, htake]
  rfl

section

variable {w : Keyed} (hlisted : w.FilesListed fun f => Path.normalize f = f)
  (m : Matcher) (k : Path) (hk : Path.normalize k = k) (hstar : '*' ∉ k) (found : List Path)
  (hfound : w.matched (m.selection k true m.dirRule (some .never)) (parent k) = .ok found)

include hlisted hk hstar hfound

/-- A file to which its name leads back is found. -/
theorem mem_found_of_leadsBack (hfile : w.hasFile k = true) (hback : leadsBack k = true) :
    k ∈ found := by
  rw [leadsBack, Bool.and_eq_true, Bool.not_eq_true', decide_eq_true_eq] at hback
  rcases hlisted k hfile with ⟨_, names, hnames, hmem⟩
  have hparent : Path.normalize (parent k) = parent k := by
    have hstart := Mask.normalize_start k
    rwa [hk, start_of_no_star k hstar] at hstart
  have hshown : name k ∈ w.shown (Path.normalize (parent k)) := by
    have hmay := w.mayList_of_matched _ _ found hfound
    rw [shown, if_pos hmay, hparent, hnames]
    exact hmem
  rcases w.tour_of_matched _ _ found hfound with ⟨dirs, ht, heq⟩
  rw [heq, List.mem_flatMap]
  refine ⟨parent k, (w.tour_origin _ _ _ dirs ht).1, ?_⟩
  refine (w.mem_keptAt _ (parent k) k).mpr ⟨name k, hshown, ?_, hback.2.symm⟩
  rw [hparent, w.entryOf_of_not_mark _ _ hback.1, hback.2]
  change (w.hasFile k && !leftOut (some Regex.never) (name k) &&
    (Mask.compile k (!m.caseSensitive)).fits (Path.join (parent k) (name k))) = true
  rw [hback.2, leftOut_never, hfile]
  exact Mask.covers_self _ (Text.sameLetter_refl _) k hstar

/-- And no other file is found in its place. -/
theorem leadsBack_of_mem_found (hspelled : w.Spelled fun _ => True) (c : Path) (hc : c ∈ found)
    (hck : Path.normalize c = k) : leadsBack k = true := by
  have hparent : Path.normalize (parent k) = parent k := by
    have hstart := Mask.normalize_start k
    rwa [hk, start_of_no_star k hstar] at hstart
  -- The walk looks at one directory only.
  have hplace := w.found_forall _ _ found hfound (fun d => d = parent k)
    (fun c => ∃ n ∈ w.shown (parent k), isMark n = false ∧ c = Path.join (parent k) n ∧
      w.hasFile c = true) rfl
    (fun hdeep => absurd hdeep (by
      change Mask.isDeep k ≠ true
      rw [Mask.isDeep_of_no_star k hstar]
      exact Bool.false_ne_true))
    (fun d c hd hc => by
      rw [hd] at hc
      exact w.file_of_keptAt _ rfl (parent k) c hparent hc)
  rcases hplace c hc with ⟨n, hn, hmark, hcn, hfile⟩
  -- What is found is a file, and so it is the path itself.
  have heq : k = Path.join (parent k) n := hck.symm.trans ((hlisted c hfile).1.trans hcn)
  rcases hspelled.entry_cases (parent k) n hn hmark with h0 | ⟨hname, _⟩
  · rw [h0, Path.join, if_pos rfl] at heq
    rcases eq_of_parent_self k heq.symm with hroot | hroot
    · rw [hroot]
      decide
    · rw [hroot]
      decide
  · have hkn : name k = n := by
      rw [heq]
      exact name_join _ n hname.ne_nil hname.no_slash
    rw [leadsBack, hkn, hmark, ← heq, decide_eq_true rfl]
    rfl

end

end Keyed

/-- A removal of files that ends well has come to its end. -/
theorem removeFiles_ok (files : List Path) : ∀ (w : Keyed) (o : Outcome),
    ((removeFiles files).ran w).result = .ok o → o.ok = true → o = .done := by
  induction files with
  | nil => exact fun w o ho _ => (Except.ok.inj ho).symm
  | cons file more ih =>
      intro w o ho hok
      cases hs : (Request.remove file).settled w with
      | mk reply w' =>
          cases reply with
          | ok u =>
              rw [(removeFiles_granted file more w w' hs).1] at ho
              exact ih w' o ho hok
          | error why =>
              rw [(removeFiles_refused file more w w' why hs).1] at ho
              by_cases hr : why.isRefusal = true
              · rw [if_pos hr] at ho
                rw [← Except.ok.inj ho] at hok
                exact absurd hok Bool.false_ne_true
              · rw [if_neg hr] at ho
                exact absurd ho (by simp only [reduceCtorEq, not_false_eq_true])

section

open Keyed

/-- After a removal that ends well, the file of a path is gone if its name leads back to it, and
    otherwise it is what it was. -/
theorem removeMask_gone {w : Keyed} (hlisted : w.FilesListed fun f => Path.normalize f = f)
    (hspelled : w.Spelled fun _ => True) (m : Matcher) (p : Path) (hstar : '*' ∉ p) (o : Outcome)
    (ho : ((removeMask m p).ran w).result = .ok o) (hok : o.ok = true) :
    ((removeMask m p).ran w).world.hasFile (Path.normalize p) =
      (w.hasFile (Path.normalize p) && !leadsBack (Path.normalize p)) := by
  have hno : '*' ∉ Path.normalize p := fun hc =>
    (Path.mem_of_mem_normalize p _ hc).elim hstar (by decide)
  have hdone : ((removeMask m p).ran w).result = .ok .done ∧
      w.matched (m.selection (Path.normalize p) true m.dirRule (some .never))
        (parent (Path.normalize p)) = .ok (m.candidates p w) := by
    rw [← start_of_no_star _ hno, ← (m.candidates_reads p w).result]
    rcases removeMask_cases m p w with ⟨calls, hmatch, hresult, _⟩ | ⟨fault, _, _, hreads⟩
    · rw [hresult] at ho
      rw [hresult, ho, removeFiles_ok _ _ o ho hok]
      exact ⟨rfl, hmatch⟩
    · rw [hreads.result] at ho
      exact absurd ho (by simp only [reduceCtorEq, not_false_eq_true])
  rcases removeMask_lost m p w with ⟨_, taken, _, htaken, hcontent⟩
  rw [htaken hdone.1] at hcontent
  generalize hk : Path.normalize p = k at hno hdone hcontent ⊢
  have hnormal : Path.normalize k = k := by rw [← hk, Path.normalize_normalize]
  change (((removeMask m p).ran w).world.content? k).isSome = _
  rw [hcontent]
  by_cases hback : leadsBack k = true
  · rw [hback, Bool.not_true, Bool.and_false]
    cases hfile : w.hasFile k with
    | true =>
        have hmem := mem_found_of_leadsBack hlisted m k hnormal hno _ hdone.2 hfile hback
        rw [if_pos (List.mem_map.mpr ⟨k, hmem, hnormal⟩)]
        rfl
    | false =>
        split
        · rfl
        · exact hfile
  · rw [Bool.not_eq_true] at hback
    rw [hback, Bool.not_false, Bool.and_true, if_neg]
    · rfl
    · intro hc
      rcases List.mem_map.mp hc with ⟨c, hc, hck⟩
      rw [leadsBack_of_mem_found hlisted m k hnormal hno _ hdone.2 hspelled c hc hck] at hback
      exact Bool.false_ne_true hback.symm

/-- In a world planted with files at paths in normal form, whatever may be done there: after the
    removal of a path without a star that was answered as ended well, the path is a file just if it
    was one and its name does not lead from its directory back to it. So the file is gone unless its
    name looks absolute below a directory, stands directly on a share or is a marker. -/
theorem Session.removeAll_gone (s : Session Keyed) (tree : List (Path × Text)) (marked : List Path)
    (htree : ∀ entry ∈ tree, Path.normalize entry.1 = entry.1 ∨ entry.1.getLast? = some '/')
    (hdirs : s.world.dirs = (planted tree marked).dirs)
    (hfiles : s.world.files = (planted tree marked).files)
    (p : Path) (hstar : '*' ∉ p) (strict : Bool) (o : Outcome)
    (ho : (s.perform (.removeAll (.mask p) strict)).1.result = .ok (.outcome o))
    (hok : o.ok = true) :
    ((s.perform (.removeAll (.mask p) strict)).2.perform (.isFile p)).1.result =
      .ok (.flag (s.world.hasFile (Path.normalize p) && !leadsBack (Path.normalize p))) := by
  have hlisted : s.world.FilesListed fun f => Path.normalize f = f := by
    have hplanted : (planted tree marked).FilesListed fun f => Path.normalize f = f :=
      filesListed_planted tree marked fun entry he hs => (htree entry he).resolve_right hs
    unfold FilesListed hasFile names? at hplanted ⊢
    rwa [hdirs, hfiles]
  have hspelled : s.world.Spelled fun _ => True := by
    have hplanted : (planted tree marked).Spelled fun _ => True :=
      spelled_planted tree marked fun _ _ _ _ => trivial
    unfold Spelled names? at hplanted ⊢
    rwa [hdirs]
  have hchange : (Step.removeAll (.mask p) strict).attempt? s.engine =
      some (removeMask s.engine.matcher p >>= settle strict) := by
    change some (Maskwalk.removeAll s.engine.matcher (.mask p) >>= settle strict) = _
    rw [removeAll]
  rcases s.perform_of_change _ _ strict hchange with ⟨hworld, hresult⟩
  rw [isFile_answer, hworld,
    removeMask_gone hlisted hspelled s.engine.matcher p hstar o (hresult o ho) hok]

/-- A session on a world of two files, one of them with a name that looks absolute. -/
def onPlanks : Session Keyed :=
  { Session.onGrove with world := planted [("a/f".toList, []), ("a/C:x".toList, [])] [] }

set_option maxRecDepth 4000 in
theorem removeAll_gone_planks :
    (onPlanks.perform (.removeAll (.mask "a/f".toList) true)).1.result = .ok (.outcome .done) ∧
    ((onPlanks.perform (.removeAll (.mask "a/f".toList) true)).2.perform
      (.isFile "a/f".toList)).1.result = .ok (.flag false) ∧
    (onPlanks.perform (.removeAll (.mask "a/C:x".toList) true)).1.result = .ok (.outcome .done) ∧
    ((onPlanks.perform (.removeAll (.mask "a/C:x".toList) true)).2.perform
      (.isFile "a/C:x".toList)).1.result = .ok (.flag true) := by
  have htree : ∀ entry ∈ [("a/f".toList, ([] : Text)), ("a/C:x".toList, [])],
      Path.normalize entry.1 = entry.1 ∨ entry.1.getLast? = some '/' := by decide
  have hf : (onPlanks.perform (.removeAll (.mask "a/f".toList) true)).1.result =
      .ok (.outcome .done) := by rfl
  have hx : (onPlanks.perform (.removeAll (.mask "a/C:x".toList) true)).1.result =
      .ok (.outcome .done) := by rfl
  exact ⟨hf, Session.removeAll_gone onPlanks _ [] htree rfl rfl _ (by decide) true _ hf rfl, hx,
    Session.removeAll_gone onPlanks _ [] htree rfl rfl _ (by decide) true _ hx rfl⟩

end

end Maskwalk
