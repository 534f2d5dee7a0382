import Maskwalk.Proofs.Walk.Descent
import Maskwalk.Proofs.World.Pruned
import Maskwalk.Tree

/-!
# Removing files in turn

The files that a mask matches are removed one after the other, up to the first that is refused.
Here this is followed in a world of keys of any kind, whether or not its tables hold a tree. Such a
world loses a file at a time and no directory; what a removal loses is known by the part of the list
that it has come through, its *taken* files.

A request puts the normal form in the place of a path, so what is lost are the normal forms of the
paths that were found. The last taken path may have been lost and reported as a failure all the
same, where its directory does not list it.

## Main definitions

* `Keyed.Lost`: a world without some files.
* `Matcher.candidates`: the paths that a removal takes up.

## Theorems

* `removeFiles_granted`, `removeFiles_refused`: One step of a removal.
* `removeFiles_lost`: What is lost when files are removed in turn.
* `removeMask_cases`: The removal of the files of a mask is that of its candidates.
* `removeMask_lost`: What is lost when these are removed.
-/

namespace Maskwalk

open Attempt

/-- The second world is the first without some files, and perhaps without names in its listings. -/
structure Keyed.Lost (w : Keyed) (gone : List Path) (w' : Keyed) : Prop where
  dirs : ∀ d, w'.hasDir d = w.hasDir d
  content : ∀ f, w'.content? f = if f ∈ gone then none else w.content? f
  rest : w' = { w with dirs := w'.dirs, files := w'.files, calls := w'.calls }

namespace Keyed

theorem Lost.refl (w : Keyed) : w.Lost [] w :=
  ⟨fun _ => rfl, fun _ => by rw [if_neg List.not_mem_nil], rfl⟩

theorem Lost.of_calls (w : Keyed) (calls : List Request) : w.Lost [] { w with calls } :=
  ⟨fun _ => rfl, fun _ => by rw [if_neg List.not_mem_nil]; rfl, rfl⟩

/-- What is lost adds up. -/
theorem Lost.trans {w w' w'' : Keyed} {gone gone' : List Path} (h : w.Lost gone w')
    (h' : w'.Lost gone' w'') : w.Lost (gone ++ gone') w'' := by
  refine ⟨fun d => (h'.dirs d).trans (h.dirs d), fun f => ?_, ?_⟩
  · rw [h'.content, h.content]
    by_cases hf' : f ∈ gone'
    · rw [if_pos hf', if_pos (List.mem_append_right _ hf')]
    · rw [if_neg hf']
      by_cases hf : f ∈ gone
      · rw [if_pos hf, if_pos (List.mem_append_left _ hf)]
      · rw [if_neg hf, if_neg (fun hc => (List.mem_append.mp hc).elim hf hf')]
  · rw [h'.rest, h.rest]

/-- Taking a key off a list loses nothing. -/
theorem lost_unlink (w : Keyed) (k : Path) : w.Lost [] (w.unlink k).2 := by
  unfold unlink
  cases valueOf? (parent k) w.dirs with
  | none => exact Lost.refl w
  | some names =>
      simp only
      by_cases hn : names.elem (name k) = true
      · rw [if_pos hn]
        refine ⟨fun d => ?_, fun f => by rw [if_neg List.not_mem_nil]; rfl, rfl⟩
        -- The listing of one directory is another, and no key of the table changes.
        change (valueOf? d (unlisted w.dirs (parent k) (name k))).isSome = _
        rw [unlisted, valueOf?_changed w.dirs (parent k) d (List.erase · (name k)),
          Option.isSome_map]
        rfl
      · rw [if_neg hn]
        exact Lost.refl w

/-- A request to remove a file loses that file or nothing, and if nothing, it is refused. -/
theorem lost_remove (w : Keyed) (p : Path) :
    w.Lost [Path.normalize p] ((Request.remove p).settled w).2 ∨
    (w.Lost [] ((Request.remove p).settled w).2 ∧
      ∃ why, ((Request.remove p).settled w).1 = .error why) := by
  change w.Lost _ (w.unlessFaulty (.remove (Path.normalize p)) (Path.normalize p)
    (·.remove (Path.normalize p))).2 ∨ (w.Lost [] (w.unlessFaulty (.remove (Path.normalize p))
      (Path.normalize p) (·.remove (Path.normalize p))).2 ∧ ∃ why,
        (w.unlessFaulty (.remove (Path.normalize p)) (Path.normalize p)
          (·.remove (Path.normalize p))).1 = .error why)
  generalize Path.normalize p = k
  unfold unlessFaulty
  cases valueOf? k w.faults with
  | some reason => exact Or.inr ⟨Lost.refl w, .other reason, rfl⟩
  | none =>
      have hcalls := Lost.of_calls w (.remove k :: w.calls)
      simp only
      unfold remove
      by_cases hfile : (!(w.record (.remove k)).hasFile k) = true
      · rw [if_pos hfile]
        exact Or.inr ⟨hcalls, .system .noEntry k, rfl⟩
      · rw [if_neg hfile]
        by_cases hro : (w.record (.remove k)).readonly.elem (parent k) = true
        · rw [if_pos hro]
          exact Or.inr ⟨hcalls, .system .denied k, rfl⟩
        · rw [if_neg hro]
          left
          -- The file goes from its table first, and then its name from the list.
          have hdrop : w.Lost [k] { w.record (.remove k) with
              files := dropKey k (w.record (.remove k)).files } := by
            refine ⟨fun _ => rfl, fun f => ?_, rfl⟩
            change valueOf? f (dropKey k w.files) = _
            rw [valueOf?_dropKey]
            simp only [List.mem_singleton]
            rfl
          exact hdrop.trans (lost_unlink _ k)

end Keyed

section

variable (file : Path) (more : List Path) (w w' : Keyed)

/-- Where a file is removed, the removal goes on with the others. -/
theorem removeFiles_granted (h : (Request.remove file).settled w = (.ok (), w')) :
    ((removeFiles (file :: more)).ran w).result = ((removeFiles more).ran w').result ∧
    ((removeFiles (file :: more)).ran w).world = ((removeFiles more).ran w').world := by
  rw [removeFiles, result_bind, world_bind, ran_request, h]
  exact ⟨rfl, rfl⟩

/-- Where a file is not removed, that is the end. -/
theorem removeFiles_refused (why : Failure)
    (h : (Request.remove file).settled w = (.error why, w')) :
    ((removeFiles (file :: more)).ran w).result =
      (if why.isRefusal then .ok (.failedAt file why) else .error (.failed why)) ∧
    ((removeFiles (file :: more)).ran w).world = w' := by
  rw [removeFiles, result_bind, world_bind, ran_request, h]
  simp only [further_ok, refused]
  by_cases hr : why.isRefusal = true
  · simp only [if_pos hr]
    exact ⟨rfl, rfl⟩
  · simp only [if_neg hr]
    exact ⟨rfl, rfl⟩

end

/-- Files removed in turn are lost up to some place in the list, which is its end if the removal
    says that it is done. -/
theorem removeFiles_lost (files : List Path) : ∀ w : Keyed, ∃ taken, taken <+: files ∧
    w.Lost (taken.map Path.normalize) ((removeFiles files).ran w).world ∧
    (((removeFiles files).ran w).result = .ok .done → taken = files) := by
  induction files with
  | nil => exact fun w => ⟨[], List.prefix_rfl, Keyed.Lost.refl w, fun _ => rfl⟩
  | cons file more ih =>
      intro w
      have hstep := w.lost_remove file
      cases hs : (Request.remove file).settled w with
      | mk reply w₁ =>
          rw [hs] at hstep
          cases reply with
          | ok u =>
              rcases removeFiles_granted file more w w₁ hs with ⟨hresult, hworld⟩
              rcases ih w₁ with ⟨taken, hpre, hlost, hdone⟩
              -- What is not refused is lost.
              have hfirst : w.Lost [Path.normalize file] w₁ := by
                rcases hstep with hstep | ⟨_, why, hwhy⟩
                · exact hstep
                · exact absurd hwhy (by simp only [reduceCtorEq, not_false_eq_true])
              refine ⟨file :: taken, List.cons_prefix_cons.mpr ⟨rfl, hpre⟩, ?_, fun h => ?_⟩
              · rw [hworld]
                exact hfirst.trans hlost
              · rw [hdone (by rw [← hresult, h])]
          | error why =>
              rcases removeFiles_refused file more w w₁ why hs with ⟨hresult, hworld⟩
              rw [hworld]
              -- The end is a failure or a fault, and in neither case is anything done.
              have hnot : ((removeFiles (file :: more)).ran w).result ≠ .ok .done := by
                rw [hresult]
                by_cases hr : why.isRefusal = true
                · rw [if_pos hr]
                  simp only [Outcome.failedAt, Outcome.done, ne_eq, Except.ok.injEq,
                    Outcome.mk.injEq, Bool.false_eq_true, false_and, not_false_eq_true]
                · rw [if_neg hr]
                  simp only [ne_eq, reduceCtorEq, not_false_eq_true]
              rcases hstep with hstep | ⟨hstep, _⟩
              · exact ⟨[file], List.cons_prefix_cons.mpr ⟨rfl, List.nil_prefix⟩, hstep,
                  fun h => absurd h hnot⟩
              · exact ⟨[], List.nil_prefix, hstep, fun h => absurd h hnot⟩

/-- The paths that a removal takes up for a mask: the files that the mask matches when no file is
    left out, and none if the match is a fault. -/
def Matcher.candidates (m : Matcher) (mask : Path) (w : Keyed) : List Path :=
  match ((m.matching mask true none (some .nothing)).ran w).result with
  | .ok found => found
  | .error _ => []

section

variable (m : Matcher) (mask : Path) (w : Keyed)

/-- What a removal takes up is found by a selection from the start of its mask on. -/
theorem Matcher.candidates_reads : Reads (m.matching mask true none (some .nothing)) w
    (w.matched (m.selection (Path.normalize mask) true m.dirRule (some .never))
      (Mask.start (Path.normalize mask))) :=
  m.matching_reads mask true none (some .nothing) m.dirRule (some .never) w rfl rfl

/-- The removal of the files of a mask removes its candidates in turn. If the match is a fault, so
    is the removal, and nothing happens. -/
theorem removeMask_cases :
    (∃ calls, ((m.matching mask true none (some .nothing)).ran w).result
        = .ok (m.candidates mask w) ∧
      ((removeMask m mask).ran w).result
        = ((removeFiles (m.candidates mask w)).ran { w with calls }).result ∧
      ((removeMask m mask).ran w).world
        = ((removeFiles (m.candidates mask w)).ran { w with calls }).world) ∨
    ∃ fault, ((m.matching mask true none (some .nothing)).ran w).result = .error fault ∧
      m.candidates mask w = [] ∧ Reads (removeMask m mask) w (.error fault) := by
  have hreads := m.candidates_reads mask w
  rcases hreads.world with ⟨calls, hw⟩
  unfold Matcher.candidates
  cases hr : ((m.matching mask true none (some .nothing)).ran w).result with
  | ok found =>
      refine Or.inl ⟨calls, rfl, ?_, ?_⟩
      · unfold removeMask
        rw [result_bind, hr, hw]
        rfl
      · unfold removeMask
        rw [world_bind, hr, hw]
        rfl
  | error fault =>
      rw [← hreads.result, hr] at hreads
      exact Or.inr ⟨fault, rfl, rfl, hreads.bind_error⟩

/-- The removal of the files of a mask loses no directory, and its candidates up to some place. -/
theorem removeMask_lost :
    (∀ d, ((removeMask m mask).ran w).world.hasDir d = w.hasDir d) ∧
    ∃ taken, taken <+: m.candidates mask w ∧
      (((removeMask m mask).ran w).result = .ok .done → taken = m.candidates mask w) ∧
      ∀ f, ((removeMask m mask).ran w).world.content? f =
        if f ∈ taken.map Path.normalize then none else w.content? f := by
  rcases removeMask_cases m mask w with ⟨calls, _, hresult, hworld⟩ | ⟨fault, _, hno, hreads⟩
  · rcases removeFiles_lost (m.candidates mask w) { w with calls } with
      ⟨taken, hpre, hlost, hdone⟩
    rw [hresult, hworld]
    exact ⟨hlost.dirs, taken, hpre, hdone, hlost.content⟩
  · rcases hreads with ⟨hresult, calls, hworld⟩
    rw [hresult, hworld, hno]
    exact ⟨fun _ => rfl, [], List.prefix_rfl, fun _ => rfl, fun _ => rfl⟩

end

end Maskwalk
