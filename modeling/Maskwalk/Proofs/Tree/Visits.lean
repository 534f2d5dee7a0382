import Maskwalk.Proofs.Tree.Contents
import Maskwalk.Proofs.Tree.Keeping
import Maskwalk.Proofs.World.Marked

/-!
# The visits of a removal

The removal of a directory calls itself: for each directory that is found in the one at hand and is
not taken for a marker it removes that one first. A *visit* is one such call with what it is given,
which is a bound on the depth, a path, and the world as it is by then. It calls its next visit when
those before it are through.

In a marked world everything else that a visit does comes to an answer or to a fault that says why,
so a removal is given up in one way only: there is a chain of visits, each called by the one before,
that uses up all depth. Whether a removal ends can thus be told from what its visits call, and for
this `endless_iff` is all that is needed.

## Main definitions

* `Visit`: a removal of one directory, with all that it is given.
* `Visit.Calls`: the visits that a visit calls.
* `Visit.Endless`: a visit that is given up.

## Theorems

* `doEach_error_iff`: Steps in a row end in the fault of the first step that is one.
* `Visit.Calls.inv`: What is called.
* `Visit.endless_iff`: A visit is given up just if it has no depth, or calls one that is given up.
-/

namespace Maskwalk

open Attempt

section

variable {σ : Type} [World σ]

/-- A list is cut at its first item or behind it. -/
theorem exists_cut_cons (post : List Path → Path → Prop) (first : Path) (more : List Path) :
    (∃ before path after, first :: more = before ++ path :: after ∧ post before path) ↔
      post [] first ∨
        ∃ before path after, more = before ++ path :: after ∧ post (first :: before) path := by
  constructor
  · rintro ⟨before, path, after, hcut, hpost⟩
    rcases List.cons_eq_append_iff.mp hcut with ⟨hnil, hcons⟩ | ⟨rest, hrest, hmore⟩
    · rw [hnil, (List.cons.inj hcons).1] at hpost
      exact Or.inl hpost
    · rw [hrest] at hpost
      exact Or.inr ⟨rest, path, after, hmore, hpost⟩
  · rintro (hpost | ⟨before, path, after, hmore, hpost⟩)
    · exact ⟨[], first, more, rfl, hpost⟩
    · exact ⟨first :: before, path, after, by rw [hmore, List.cons_append], hpost⟩

section

variable {step : Path → Attempt Unit} {first : Path} {w : σ} (more : List Path)

/-- Steps in a row go on behind a first step that is done, in the world that it leaves, -/
theorem doEach_cons_of_ok {u : Unit} (hfirst : ((step first).ran w).result = .ok u) :
    ((doEach step (first :: more)).ran w).result =
      ((doEach step more).ran ((step first).ran w).world).result ∧
    ((doEach step (first :: more)).ran w).world =
      ((doEach step more).ran ((step first).ran w).world).world := by
  rw [doEach, result_bind, world_bind, hfirst]
  exact ⟨rfl, rfl⟩

/-- and end with one that is a fault. -/
theorem doEach_cons_of_error {fault : Fault} (hfirst : ((step first).ran w).result = .error fault) :
    ((doEach step (first :: more)).ran w).result = .error fault := by
  rw [doEach, result_bind, hfirst]
  rfl

end

/-- Steps in a row end in a fault just if one of them does, behind others that do not. -/
theorem doEach_error_iff (step : Path → Attempt Unit) (fault : Fault) (paths : List Path) :
    ∀ w : σ, ((doEach step paths).ran w).result = .error fault ↔
      ∃ before path after, paths = before ++ path :: after ∧
        ((doEach step before).ran w).result = .ok () ∧
        ((step path).ran ((doEach step before).ran w).world).result = .error fault := by
  induction paths with
  | nil =>
      intro w
      refine ⟨fun h => (by cases h), ?_⟩
      rintro ⟨before, path, after, hsplit, _⟩
      exact absurd hsplit.symm (List.append_ne_nil_of_right_ne_nil _ (List.cons_ne_nil _ _))
  | cons first more ih =>
      intro w
      rw [exists_cut_cons fun before path => ((doEach step before).ran w).result = .ok () ∧
        ((step path).ran ((doEach step before).ran w).world).result = .error fault]
      cases hfirst : ((step first).ran w).result with
      | error other =>
          rw [doEach_cons_of_error more hfirst]
          constructor
          · exact fun h => Or.inl ⟨rfl, hfirst.trans h⟩
          · rintro (⟨_, h⟩ | ⟨before, _, _, _, hbefore, _⟩)
            · exact hfirst.symm.trans h
            -- Steps that begin with a fault do not come to an end.
            · rw [doEach_cons_of_error before hfirst] at hbefore
              cases hbefore
      | ok u =>
          rw [(doEach_cons_of_ok more hfirst).1, ih]
          simp only [(doEach_cons_of_ok _ hfirst).1, (doEach_cons_of_ok _ hfirst).2]
          refine (or_iff_right ?_).symm
          rintro ⟨_, h⟩
          exact absurd (hfirst.symm.trans h) (by simp only [reduceCtorEq, not_false_eq_true])

/-- What the system refuses ends no removal without a cause, and nor does any other failure. -/
theorem refused_ends (path : Path) (why : Failure) (w : σ) :
    ((refused path why).ran w).result ≠ .error .endless := by
  unfold refused
  split
  · exact fun h => by cases h
  · exact fun h => by cases h

theorem removeOrReport_ends (file : Path) (w : σ) :
    ((removeOrReport file).ran w).result ≠ .error .endless := by
  rw [removeOrReport, result_bind, ran_request, further_ok]
  split
  · exact fun h => by cases h
  split
  · exact fun h => by cases h
  · exact fun h => by cases h

end

/-- What a visit does with a directory that it finds. -/
def removeFound (m : Matcher) (depth : Nat) (dir : Path) : Attempt Unit := do
  let _ ← removeTreeWithin m depth dir

/-- A removal of one directory, at most so many directories deep, in the world that it finds. -/
structure Visit where
  depth : Nat
  path : Path
  world : Keyed

namespace Visit

/-- What a visit calls: one for each directory that is found in its own, but for those that are taken
    for markers, when the visits before it are through. -/
inductive Calls (m : Matcher) : Visit → Visit → Prop
  | call {depth : Nat} {path dir : Path} {w w' : Keyed} {dirs before after : List Path}
      (found : ((contents m (Path.normalize path) false).ran w).result = .ok dirs)
      (leaves : ((contents m (Path.normalize path) false).ran w).world = w')
      (next : dirs.filter (!endsInMarker ·) = before ++ dir :: after)
      (done : ((doEach (removeFound m depth) before).ran w').result = .ok ()) :
      Calls m ⟨depth + 1, path, w⟩
        ⟨depth, dir, ((doEach (removeFound m depth) before).ran w').world⟩

/-- A visit that is given up. -/
def Endless (m : Matcher) (t : Visit) : Prop :=
  ((removeTreeWithin m t.depth t.path).ran t.world).result = .error .endless

end Visit

namespace Keyed

/-- Whatever a removal comes to, it only loses something. -/
theorem thinned_removeFound (m : Matcher) (depth : Nat) (paths : List Path) (w : Keyed) :
    w.Thinned ((doEach (removeFound m depth) paths).ran w).world := by
  have hkeeps : (doEach (removeFound m depth) paths).Keeps Terms.thinning fun _ => True := by
    refine doEach_keeps _ _ fun path _ => ?_
    refine Keeps.bind ?_ fun _ (_ : True) => Keeps.pure trivial
    exact removeTreeWithin_keeps m
      (fun mask files dirRule fileRule => ((m.matching_quiet mask files dirRule fileRule).keeps
        thinning_allowsQueries).weaken fun _ _ _ _ => trivial) thinning_allowsQueries
      (fun _ _ => ⟨fun _ h => by simp only [reduceCtorEq] at h,
        fun _ h => by simp only [reduceCtorEq] at h⟩) (fun _ h => h) depth path trivial
  exact (Inquiry.Keeps.run (thinned_upheld w) hkeeps w (Thinned.of_calls w w.calls)).2.1

namespace Marked

variable {w : Keyed} (h : w.Marked)

include h

theorem contents_reads (m : Matcher) (dir : Path) (files : Bool) :
    Reads (contents m dir files) w (.ok (w.holds m dir files)) :=
  contents_reads_of_descends m dir files w (h.descends _)

/-- What is done about a directory when those in it are gone is not given up. -/
theorem removeEmptied_ends (m : Matcher) (path : Path) :
    ((removeEmptied m path).ran w).result ≠ .error .endless := by
  have hread := h.contents_reads m path true
  rcases hread.world with ⟨calls, hw⟩
  rw [removeEmptied, result_bind, hread.result, further_ok, hw, result_bind]
  cases hfiles : ((doEach removeOrReport (w.holds m path true)).ran { w with calls }).result with
  | error fault =>
      rcases (doEach_error_iff _ _ _ _).mp hfiles with ⟨_, file, _, _, _, hfile⟩
      rw [further_error, result_throw, ne_eq, Except.error.injEq]
      intro hend
      rw [hend] at hfile
      exact removeOrReport_ends file _ hfile
  | ok u =>
      rw [further_ok, result_bind, ran_request, further_ok]
      split
      · exact fun hend => by cases hend
      · split
        · rw [result_bind]
          exact refused_ends path _ _
        · exact refused_ends path _ _

end Marked

end Keyed

namespace Visit

variable {m : Matcher}

/-- What is called is a visit for a directory that is found and is not taken for a marker, in a
    world that has only lost something. -/
theorem Calls.inv {t t' : Visit} (hc : t.Calls m t') (h : t.world.Marked) :
    t'.depth + 1 = t.depth ∧ t'.path ∈ t.world.holds m (Path.normalize t.path) false ∧
      endsInMarker t'.path = false ∧ t.world.Thinned t'.world := by
  cases hc with
  | @call depth path dir w w' dirs before after found leaves next done =>
      have hread := h.contents_reads m (Path.normalize path) false
      rw [hread.result, Except.ok.injEq] at found
      rcases hread.world with ⟨calls, hw⟩
      rw [leaves] at hw
      have hdir : dir ∈ dirs.filter (!endsInMarker ·) := by
        rw [next]
        exact List.mem_append_right _ List.mem_cons_self
      rw [List.mem_filter, Bool.not_eq_true', ← found] at hdir
      refine ⟨rfl, hdir.1, hdir.2, ?_⟩
      have hthin : w.Thinned w' := by
        rw [hw]
        exact Keyed.Thinned.of_calls w calls
      exact hthin.trans (w'.thinned_removeFound m depth before)

theorem endless_zero (path : Path) (w : Keyed) : Endless m ⟨0, path, w⟩ := rfl

/-- A visit is given up just if it has no depth, or calls a visit that is given up. -/
theorem endless_iff (t : Visit) (h : t.world.Marked) :
    t.Endless m ↔ t.depth = 0 ∨ ∃ t', t.Calls m t' ∧ t'.Endless m := by
  rcases t with ⟨depth, path, w⟩
  cases depth with
  | zero => exact iff_of_true (endless_zero path w) (Or.inl rfl)
  | succ depth =>
      change w.Marked at h
      have hread := h.contents_reads m (Path.normalize path) false
      generalize hdirs : w.holds m (Path.normalize path) false = dirs at hread
      rcases hread.world with ⟨calls, hw⟩
      -- A step for a directory is given up if the visit for it is.
      have hstep : ∀ dir (v : Keyed), ((removeFound m depth dir).ran v).result = .error .endless ↔
          Endless m ⟨depth, dir, v⟩ := by
        intro dir v
        unfold Endless removeFound
        rw [result_bind]
        cases ((removeTreeWithin m depth dir).ran v).result with
        | ok outcome =>
            exact iff_of_false (fun h => by cases h) (fun h => by cases h)
        | error fault =>
            rw [further_error, result_throw, Except.error.injEq, Except.error.injEq]
      have hrun : Endless m ⟨depth + 1, path, w⟩ ↔
          ((doEach (removeFound m depth) (dirs.filter (!endsInMarker ·))).ran
            { w with calls }).result = .error .endless := by
        change ((removeTreeWithin m (depth + 1) path).ran w).result = _ ↔ _
        rw [removeTreeWithin, result_bind, hread.result, further_ok, hw, result_bind]
        change ((further _ ((doEach (removeFound m depth) _).ran _).result).ran
          ((doEach (removeFound m depth) _).ran _).world).result = _ ↔ _
        have hthin := Keyed.thinned_removeFound m depth (dirs.filter (!endsInMarker ·))
          { w with calls }
        have hmarked := ((Keyed.Thinned.of_calls w calls).trans hthin).marked h
        cases ((doEach (removeFound m depth) (dirs.filter (!endsInMarker ·))).ran
            { w with calls }).result with
        | ok u =>
            rw [further_ok]
            exact iff_of_false (hmarked.removeEmptied_ends m _) (fun h => by cases h)
        | error fault =>
            rw [further_error, result_throw, Except.error.injEq, Except.error.injEq]
      rw [hrun, doEach_error_iff]
      constructor
      · rintro ⟨before, dir, after, hsplit, hbefore, hdir⟩
        exact Or.inr ⟨_, .call hread.result hw hsplit hbefore, (hstep dir _).mp hdir⟩
      · rintro (h0 | ⟨t', hc, ht'⟩)
        · exact absurd h0 (Nat.succ_ne_zero depth)
        · cases hc with
          | @call _ _ dir _ w' dirs' before after found leaves next done =>
              rw [hread.result, Except.ok.injEq] at found
              rw [hw] at leaves
              rw [← leaves] at done ht'
              rw [← found] at next
              exact ⟨before, dir, after, next, done, (hstep dir _).mpr ht'⟩

end Visit

end Maskwalk
