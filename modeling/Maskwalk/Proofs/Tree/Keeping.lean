import Maskwalk.Proofs.Walk.Keeping
import Maskwalk.Tree

/-!
# What changes of trees ask

The operations on whole trees put many requests for changes to a world. At what paths they do so
follows from where they get these paths: making directories goes down the segments of the path that
is to be made, and removing takes what a match finds, or the path that is given. So if that path has
an inner normal form and listings are fair, every change is at an inner path. What a removal is told
by masks needs no condition, since a mask has no say in what is listed.

## Theorems

* `makeDirs_keeps`: Making directories keeps careful terms.
* `removeAll_keeps`: So does removing what targets stand for.
* `removeTreeWithin_keeps`: Removing a tree asks for changes where matches lead.
* `removeTree_keeps`: And so it keeps careful terms.
-/

namespace Maskwalk

open Attempt

open Maskwalk.Path (IsInner IsName IsRegular)

theorem refused_quiet (path : Path) (why : Failure) : (refused path why).Quiet := by
  unfold refused
  split
  · exact Quiet.pure _
  · exact Quiet.throw _

/-- What comes of a failed change, when a refusal is noticed. -/
theorem noticed_quiet (path : Path) (why : Failure) (n : Notice) :
    (do
      if why.isRefusal then Attempt.notice n
      refused path why).Quiet := by
  simp only
  split
  · exact (Quiet.notice n).bind fun _ => refused_quiet path why
  · exact refused_quiet path why

/-- Below a regular directory, names lead to inner paths. -/
theorem makeBelow_keeps (segments : List Text) : ∀ d, IsRegular d →
    (∀ s ∈ segments, s ≠ [] → IsName s ∧ '\\' ∉ s) →
      (makeBelow (Path.into d) segments).Keeps Terms.careful fun _ => True := by
  induction segments with
  | nil => exact fun d _ _ => Keeps.pure trivial
  | cons segment more ih =>
      intro d hd hnames
      have hmore : ∀ s ∈ more, s ≠ [] → IsName s ∧ '\\' ∉ s :=
        fun s hs => hnames s (List.mem_cons_of_mem _ hs)
      rw [makeBelow]
      split
      · exact ih d hd hmore
      rename_i hne
      rcases hnames segment List.mem_cons_self hne with ⟨hn, hb⟩
      have hinner : IsInner (Path.child d segment) := hd.child d segment hn hb
      -- Whatever is done about this segment, what is made after it is made below it.
      have hbelow : (makeBelow (Path.into d ++ segment ++ ['/']) more).Keeps Terms.careful
          fun _ => True := by
        have h := ih (Path.child d segment) hinner.toIsRegular hmore
        rw [Path.into_child d segment hn.ne_nil hn.no_slash] at h
        exact h
      simp only
      split
      · exact hbelow
      refine Keeps.bind ((Quiet.request rfl).keeps careful_allowsQueries) fun isThere _ => ?_
      split
      · exact hbelow
      refine Keeps.bind (Keeps.request hinner.of_normalize fun _ hr => hr) fun reply _ => ?_
      split
      · exact Keeps.bind ((Quiet.notice _).keeps careful_allowsQueries) fun _ _ => hbelow
      · exact (noticed_quiet _ _ _).keeps careful_allowsQueries

/-- Making a directory at a safe path keeps careful terms. -/
theorem makeDirs_keeps (path : Path) (h : IsInner (Path.normalize path)) :
    (makeDirs path).Keeps Terms.careful fun _ => True := by
  have hnames : ∀ s ∈ Path.segments (Path.normalize path), s ≠ [] → IsName s ∧ '\\' ∉ s :=
    h.name_of_segment _
  unfold makeDirs
  simp only
  split
  · exact makeBelow_keeps _ ['/'] Path.isRegular_root hnames
  · exact makeBelow_keeps _ [] Path.isRegular_here hnames

/-- Removing files at inner paths keeps careful terms. -/
theorem removeFiles_keeps (files : List Path) (h : ∀ f ∈ files, IsInner f) :
    (removeFiles files).Keeps Terms.careful fun _ => True := by
  induction files with
  | nil => exact Keeps.pure trivial
  | cons file more ih =>
      refine Keeps.bind (Keeps.request (h file List.mem_cons_self).of_normalize fun _ hr => hr)
        fun reply _ => ?_
      split
      · refine Keeps.bind ((Quiet.notice _).keeps careful_allowsQueries) fun _ _ => ?_
        exact ih fun f hf => h f (List.mem_cons_of_mem _ hf)
      · exact (noticed_quiet _ _ _).keeps careful_allowsQueries

mutual

/-- Removing what a target stands for keeps careful terms. -/
theorem removeAll_keeps (m : Matcher) (target : Target) :
    (removeAll m target).Keeps Terms.careful fun _ => True := by
  cases target with
  | mask text => exact Keeps.bind (m.matching_inner text true none _) removeFiles_keeps
  | many targets => exact removeEach_keeps m targets
  | other kind => exact Keeps.throw _

theorem removeEach_keeps (m : Matcher) (targets : List Target) :
    (removeEach m targets).Keeps Terms.careful fun _ => True := by
  cases targets with
  | nil => exact Keeps.pure trivial
  | cons target more =>
      refine Keeps.bind (removeAll_keeps m target) fun outcome _ => ?_
      split
      · exact removeEach_keeps m more
      · exact Keeps.pure trivial

end

theorem doEach_keeps {t : Terms} (step : Path → Attempt Unit) (paths : List Path)
    (h : ∀ p ∈ paths, (step p).Keeps t fun _ => True) :
    (doEach step paths).Keeps t fun _ => True := by
  induction paths with
  | nil => exact Keeps.pure trivial
  | cons path more ih =>
      refine Keeps.bind (h path List.mem_cons_self) fun _ _ => ?_
      exact ih fun p hp => h p (List.mem_cons_of_mem _ hp)

section

variable {t : Terms} {good : Path → Prop} (m : Matcher)
  (hmatch : ∀ mask files dirRule fileRule,
    (m.matching mask files dirRule fileRule).Keeps t fun found => ∀ p ∈ found, good p)

include hmatch

/-- What a directory holds is good if all matches are. -/
theorem contents_keeps (dir : Path) (files : Bool) :
    (contents m dir files).Keeps t fun found => ∀ p ∈ found, good p := by
  have hattempt : (if files then m.matching (Path.join dir ['*']) true none (some .nothing)
      else m.matching (Path.join dir ['*']) false (some .nothing) none).Keeps t
        fun found => ∀ p ∈ found, good p := by
    cases files with
    | true => exact hmatch _ true none (some .nothing)
    | false => exact hmatch _ false (some .nothing) none
  refine Keeps.bind hattempt.caught fun result hresult => ?_
  split
  · exact Keeps.pure (hresult _ rfl)
  · refine Keeps.bind (Keeps.notice trivial) fun _ (_ : True) => ?_
    exact Keeps.pure fun p hp => absurd hp List.not_mem_nil
  · exact Keeps.throw _

variable (ht : t.AllowsQueries) (hmay : ∀ p, good p → t.may (.remove p) ∧ t.may (.rmdir p))

include ht hmay

omit hmatch in
theorem removeOrReport_keeps (file : Path) (h : good file) :
    (removeOrReport file).Keeps t fun _ => True := by
  refine Keeps.bind (Keeps.request (hmay file h).1 fun _ hr => hr) fun reply _ => ?_
  split
  · exact Keeps.pure trivial
  split
  · exact (Quiet.notice _).keeps ht
  · exact Keeps.throw _

theorem removeEmptied_keeps (path : Path) (h : good path) :
    (removeEmptied m path).Keeps t fun _ => True := by
  refine Keeps.bind (contents_keeps m hmatch path true) fun files hfiles => ?_
  refine Keeps.bind (doEach_keeps removeOrReport files fun f hf =>
    removeOrReport_keeps ht hmay f (hfiles f hf)) fun _ _ => ?_
  refine Keeps.bind (Keeps.request (hmay path h).2 fun _ hr => hr) fun reply _ => ?_
  split
  · exact (Quiet.keeps ((Quiet.notice _).returned _) ht)
  · exact (noticed_quiet _ _ _).keeps ht

/-- Removing a tree asks for changes at good paths, if the path is good that it is removed from. -/
theorem removeTreeWithin_keeps (hnormal : ∀ p, good p → good (Path.normalize p)) (depth : Nat) :
    ∀ path, good path → (removeTreeWithin m depth path).Keeps t fun _ => True := by
  induction depth with
  | zero => exact fun _ _ => Keeps.throw _
  | succ depth ih =>
      intro path h
      refine Keeps.bind (contents_keeps m hmatch _ false) fun dirs hdirs => ?_
      refine Keeps.bind (doEach_keeps _ _ fun d hd => ?_) fun _ _ =>
        removeEmptied_keeps m hmatch ht hmay _ (hnormal path h)
      exact Keeps.bind (ih d (hdirs d (List.mem_filter.mp hd).1)) fun _ _ => Keeps.pure trivial

end

/-- Removing a tree from a safe path keeps careful terms. -/
theorem removeTree_keeps (m : Matcher) (path : Path) (h : IsInner (Path.normalize path)) :
    (removeTree m path).Keeps Terms.careful fun _ => True := by
  have hmatch : ∀ mask files dirRule fileRule,
      (m.matching mask files dirRule fileRule).Keeps Terms.careful
        fun found => ∀ p ∈ found, IsInner (Path.normalize p) :=
    fun mask files dirRule fileRule => (m.matching_inner mask files dirRule fileRule).weaken
      fun _ hfound p hp => (hfound p hp).of_normalize
  refine Keeps.bind ((Quiet.request rfl).keeps careful_allowsQueries) fun depth _ => ?_
  exact removeTreeWithin_keeps m hmatch careful_allowsQueries (fun _ hp => ⟨hp, hp⟩)
    (fun p hp => by rwa [Path.normalize_normalize]) (depth + 2) path h

end Maskwalk
