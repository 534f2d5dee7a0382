import Maskwalk.Proofs.Walk.Descent
import Mathlib.Data.List.Pairwise
import Mathlib.Logic.Relation

/-!
# Where walks lead

A walk goes on by names. It joins a name to the path that it came by and asks for that, so that it
may come to a directory from elsewhere, come back, or come to one directory in two ways.

`Unfolds` says that from a given start none of this happens: all that a walk goes on into are
directories below the start, and no two ways lead to the same one. It does not ask that a walk goes
down at each step, only that it never meets itself. So a way cannot close, since the last step of a
loop and the step by which the loop was first entered would lead to the same directory from two
sides. It follows that tours visit nothing twice and come to an end, for a way that never meets
itself is no longer than the table of directories. The other way round, a tour of everything is its
start with all that is entered, so if it visits nothing twice, no two ways meet.

## Main definitions

* `Keyed.onward`: the paths into which a walk can go on.
* `Keyed.Reached`: the paths to which a walk can come.
* `Keyed.Unfolds`: walks from a start unfold a tree.
* `Keyed.Treelike`: a world in which all walks do.

## Theorems

* `tour_reached`, `mem_tour_of_reached`: Tours visit what is reached, and all of it if no rule
  forbids it.
* `unfolds_of_tour`: A tour of everything that stays below and visits nothing twice unfolds a tree.
* `Unfolds.not_back`, `Unfolds.same_branch`: Ways neither close nor meet.
* `Unfolds.tour_nodup`, `Unfolds.tour_complete`: Tours visit nothing twice and come to an end.
-/

namespace Maskwalk

open Relation (ReflTransGen TransGen)

namespace Keyed

/-- The paths into which a walk can go on, for each name that a directory shows and that stands for
    a directory where it is joined. -/
def onward (w : Keyed) (d : Path) : List Path :=
  ((w.shown (Path.normalize d)).filter fun n =>
    w.hasDir (Path.join (Path.normalize d) n) && !isMark n).map (Path.join d)

/-- The paths to which a walk can come. -/
abbrev Reached (w : Keyed) : Path → Path → Prop := ReflTransGen fun d c => c ∈ w.onward d

/-- Walks from a start unfold a tree: whatever they go on into is a directory below the start, and
    no two ways lead to the same one. -/
structure Unfolds (w : Keyed) (start : Path) : Prop where
  down : ∀ d, w.Reached start d → ∀ c ∈ w.onward d,
    w.hasDir (Path.normalize c) = true ∧ Path.Below (Path.normalize start) (Path.normalize c)
  once : ∀ d, w.Reached start d → ((w.onward d).map Path.normalize).Nodup
  apart : ∀ d₁ d₂, w.Reached start d₁ → w.Reached start d₂ → ∀ c₁ ∈ w.onward d₁,
    ∀ c₂ ∈ w.onward d₂, Path.normalize c₁ = Path.normalize c₂ → d₁ = d₂

/-- A world in which walks unfold trees, from wherever a mask can start. -/
def Treelike (w : Keyed) : Prop :=
  ∀ start, Path.normalize start = start → '*' ∉ start → w.Unfolds start

theorem mem_onward (w : Keyed) (d c : Path) : c ∈ w.onward d ↔
    ∃ n ∈ w.shown (Path.normalize d), isMark n = false ∧
      w.hasDir (Path.join (Path.normalize d) n) = true ∧ c = Path.join d n := by
  rw [onward, List.mem_map]
  simp only [List.mem_filter, Bool.and_eq_true, Bool.not_eq_true', eq_comm (b := c)]
  constructor
  · rintro ⟨n, ⟨hn, hdir, hmark⟩, hc⟩
    exact ⟨n, hn, hmark, hdir, hc⟩
  · rintro ⟨n, hn, hmark, hdir, hc⟩
    exact ⟨n, ⟨hn, hdir, hmark⟩, hc⟩

/-- Whether a walk enters a name is up to the world and to the rule on directories. -/
theorem enters_entryOf (w : Keyed) (s : Selection) (d : Path) (n : Text) :
    s.enters (w.entryOf d n) =
      ((w.hasDir (Path.join d n) && !isMark n) && !leftOut s.dirRule n) := by
  rw [Selection.enters, w.entryOf_name]
  cases hm : isMark n with
  | true =>
      have hmark : isMarker n = true := hm
      rw [hmark, Bool.not_true, Bool.and_false, Bool.and_false]
  | false =>
      have hmark : isMarker n = false := hm
      rw [w.entryOf_of_not_mark d n hm, hmark]

/-- A walk goes on only where it can, and skips what its rule leaves out. -/
theorem entered_sublist (w : Keyed) (s : Selection) (d : Path) :
    (w.entered s d).Sublist (w.onward d) := by
  rw [entered_eq_map, onward]
  refine List.Sublist.map _ (List.monotone_filter_right _ (fun n h => ?_))
  rw [Function.comp_apply, w.enters_entryOf, Bool.and_eq_true] at h
  exact h.1

/-- A walk that leaves nothing out goes on wherever it can. -/
theorem entered_eq_onward (w : Keyed) (s : Selection) (hs : s.dirRule = some Regex.never)
    (d : Path) : w.entered s d = w.onward d := by
  rw [entered_eq_map, onward]
  refine congrArg _ (List.filter_congr (fun n _ => ?_))
  rw [Function.comp_apply, w.enters_entryOf, hs, leftOut_never, Bool.not_false, Bool.and_true]

section

variable (w : Keyed) (s : Selection) (depth : Nat) (dir : Path) (dirs : List Path)
  (ht : s.tour w.entriesAt depth dir = some dirs)

include ht

theorem tour_reached : ∀ d ∈ dirs, w.Reached dir d := by
  refine Selection.tour_induction s w.entriesAt (fun dir dirs => ∀ d ∈ dirs, w.Reached dir d)
    (fun _ dir d hd => ?_) (fun _ dir round ih d hd => ?_) depth dir dirs ht
  · rw [List.mem_singleton.mp hd]
  · rcases List.mem_cons.mp hd with hd | hd
    · rw [hd]
    · rcases List.mem_flatMap.mp hd with ⟨c, hc, hdc⟩
      exact ReflTransGen.head ((w.entered_sublist s dir).subset hc) (ih c hc d hdc)

/-- A deep tour that leaves nothing out visits all that a walk can come to. -/
theorem mem_tour_of_reached (hdeep : s.deep = true) (hs : s.dirRule = some Regex.never) (d : Path)
    (hd : w.Reached dir d) : d ∈ dirs := by
  rcases w.tour_closed s depth dir dirs ht hdeep with ⟨hstart, hclosed⟩
  induction hd with
  | refl => exact hstart
  | tail _ hc ih => exact hclosed _ ih _ (by rw [w.entered_eq_onward s hs]; exact hc)

/-- A deep tour that leaves nothing out, visits nothing twice and stays at or below its start is one
    of a tree. -/
theorem unfolds_of_tour (hdeep : s.deep = true) (hs : s.dirRule = some Regex.never)
    (hnodup : (dirs.map Path.normalize).Nodup)
    (hdown : ∀ d ∈ dirs, Path.normalize d = Path.normalize dir ∨
      (w.hasDir (Path.normalize d) = true ∧ Path.Below (Path.normalize dir) (Path.normalize d))) :
    w.Unfolds dir := by
  have hall := w.mem_tour_of_reached s depth dir dirs ht hdeep hs
  have honward : dirs.flatMap (w.entered s) = dirs.flatMap w.onward :=
    congrArg dirs.flatMap (funext (fun d => w.entered_eq_onward s hs d))
  -- The tour is its start with all that is entered, so no two of these are the same either.
  have hperm := (w.tour_perm s depth dir dirs ht hdeep).map Path.normalize
  rw [honward] at hperm
  rw [hperm.nodup_iff, List.map_cons, List.nodup_cons, List.map_flatMap, List.nodup_flatMap]
    at hnodup
  rcases hnodup with ⟨hfresh, hone, hdiff⟩
  refine ⟨fun d hd c hc => ?_, fun d hd => hone d (hall d hd),
    fun d₁ d₂ h₁ h₂ c₁ hc₁ c₂ hc₂ heq => ?_⟩
  · refine (hdown c (hall c (hd.tail hc))).resolve_left (fun heq => hfresh ?_)
    rw [← heq]
    exact List.mem_flatMap.mpr ⟨d, hall d hd, List.mem_map_of_mem hc⟩
  -- Two directories that lead to the same one would put it into the tour twice.
  · by_contra hne
    have hsymm : Std.Symm (Function.onFun List.Disjoint
        fun d => (w.onward d).map Path.normalize) := ⟨fun _ _ hd c hc hc' => hd hc' hc⟩
    have hdisjoint := hdiff.forall (hall d₁ h₁) (hall d₂ h₂) hne
    exact hdisjoint (List.mem_map_of_mem hc₁) (by rw [heq]; exact List.mem_map_of_mem hc₂)

end

namespace Unfolds

variable {w : Keyed} {start : Path} (h : w.Unfolds start)

include h

/-- A walk never comes back to a directory from which it went on. -/
theorem not_back (d x : Path) (hd : w.Reached start d)
    (hx : TransGen (fun d c => c ∈ w.onward d) d x) : Path.normalize x ≠ Path.normalize d := by
  -- By induction along the way to the directory: a way back to it leads on from the one before.
  intro heq
  induction hd generalizing x with
  | refl =>
      rcases TransGen.tail'_iff.mp hx with ⟨p, hp, hxp⟩
      -- Whatever is gone on into is below the start, so nothing leads back there.
      have hbelow := (h.down p hp x hxp).2
      rw [heq] at hbelow
      exact Path.below_irrefl _ hbelow
  | @tail p d hp hd ih =>
      rcases TransGen.tail'_iff.mp hx with ⟨q, hq, hxq⟩
      have hqp := h.apart q p ((hp.tail hd).trans hq) hp x hxq d hd heq
      rw [hqp] at hq
      exact ih p (TransGen.head' hd hq) rfl

/-- Ways that lead on from a directory and meet began with the same step. -/
theorem same_branch (d c₁ c₂ q₁ q₂ : Path) (hd : w.Reached start d) (h₁ : c₁ ∈ w.onward d)
    (h₂ : c₂ ∈ w.onward d) (hq₁ : w.Reached c₁ q₁) (hq₂ : w.Reached c₂ q₂)
    (heq : Path.normalize q₁ = Path.normalize q₂) : Path.normalize c₁ = Path.normalize c₂ := by
  -- Neither way can end with its first step where the other comes only later.
  have hno : ∀ c c' p x, c ∈ w.onward d → c' ∈ w.onward d → w.Reached c' p → x ∈ w.onward p →
      Path.normalize c ≠ Path.normalize x := by
    intro c c' p x hc hc' hp hx hsame
    have hpd := h.apart d p hd ((hd.tail hc').trans hp) c hc x hx hsame
    rw [← hpd] at hp
    exact h.not_back d d hd (TransGen.head' hc' hp) rfl
  induction hq₁ generalizing q₂ with
  | refl =>
      rcases ReflTransGen.cases_tail hq₂ with hq | ⟨p, hp, hq⟩
      · rw [heq, hq]
      · exact absurd heq (hno c₁ c₂ p q₂ h₁ h₂ hp hq)
  | @tail p₁ q₁ hp₁ hq₁ ih =>
      rcases ReflTransGen.cases_tail hq₂ with hq | ⟨p₂, hp₂, hq⟩
      · rw [hq] at heq
        exact absurd heq.symm (hno c₂ c₁ p₁ q₁ h₂ h₁ hp₁ hq₁)
      · have hpp := h.apart p₁ p₂ ((hd.tail h₁).trans hp₁) ((hd.tail h₂).trans hp₂) q₁ hq₁ q₂ hq
          heq
        exact ih p₂ hp₂ (by rw [hpp])

/-- Tours visit nothing twice, by whatever paths they come there. -/
theorem tour_nodup (s : Selection) (depth : Nat) (dir : Path) (dirs : List Path)
    (hdir : w.Reached start dir) (ht : s.tour w.entriesAt depth dir = some dirs) :
    (dirs.map Path.normalize).Nodup := by
  refine (Selection.tour_induction s w.entriesAt (fun dir dirs => w.Reached start dir →
    (∀ d ∈ dirs, w.Reached dir d) ∧ (dirs.map Path.normalize).Nodup)
    (fun _ dir _ => ⟨fun d hd => ?_, List.nodup_singleton _⟩) (fun _ dir round ih hdir => ?_)
    depth dir dirs ht hdir).2
  · rw [List.mem_singleton.mp hd]
  · have hon : ∀ c ∈ w.entered s dir, c ∈ w.onward dir := fun c hc =>
      (w.entered_sublist s dir).subset hc
    -- A round stays with what is reached from its start, and that keeps two rounds apart.
    have hround : ∀ c ∈ w.entered s dir, (∀ d ∈ round c, w.Reached c d) ∧
        ((round c).map Path.normalize).Nodup := fun c hc => ih c hc (hdir.tail (hon c hc))
    constructor
    · intro d hd
      rcases List.mem_cons.mp hd with hd | hd
      · rw [hd]
      · rcases List.mem_flatMap.mp hd with ⟨c, hc, hdc⟩
        exact ReflTransGen.head (hon c hc) ((hround c hc).1 d hdc)
    · rw [List.map_cons, List.nodup_cons, List.map_flatMap, List.nodup_flatMap]
      refine ⟨fun hmem => ?_, fun c hc => (hround c hc).2, ?_⟩
      · rcases List.mem_flatMap.mp hmem with ⟨c, hc, hdc⟩
        rcases List.mem_map.mp hdc with ⟨d, hd, heq⟩
        exact h.not_back dir d hdir (TransGen.head' (hon c hc) ((hround c hc).1 d hd)) heq
      · have hdiff := ((w.entered_sublist s dir).map Path.normalize).nodup (h.once dir hdir)
        refine (List.pairwise_map.mp hdiff).imp_of_mem
          (fun {c₁ c₂} hc₁ hc₂ hne q hq₁ hq₂ => hne ?_)
        rcases List.mem_map.mp hq₁ with ⟨d₁, hd₁, heq₁⟩
        rcases List.mem_map.mp hq₂ with ⟨d₂, hd₂, heq₂⟩
        exact h.same_branch dir c₁ c₂ d₁ d₂ hdir (hon c₁ hc₁) (hon c₂ hc₂)
          ((hround c₁ hc₁).1 d₁ hd₁) ((hround c₂ hc₂).1 d₂ hd₂) (by rw [heq₁, heq₂])

/-- A tour comes to an end if its fuel and the way that led to it are more than all directories,
    for on its way it meets a new one at each step. -/
theorem tour_complete_from (s : Selection) (fuel : Nat) : ∀ (dir : Path) (way : List Path),
    w.Reached start dir → (∀ v ∈ way, ∃ a, Path.normalize a = v ∧ w.Reached start a ∧
      w.Reached a dir) → (∀ v ∈ way, w.hasDir v = true) → way.Nodup →
        w.dirs.length < fuel + way.length → ∃ dirs, s.tour w.entriesAt fuel dir = some dirs := by
  induction fuel with
  | zero =>
      intro dir way _ _ hdirs hnodup hroom
      -- The way holds different directories, and there are not so many.
      have hsub : way ⊆ w.dirs.map (·.1) := by
        intro v hv
        rcases (w.hasDir_iff v).mp (hdirs v hv) with ⟨names, hnames⟩
        exact List.mem_map_of_mem (mem_of_valueOf? v names w.dirs hnames)
      have hlen := List.Nodup.length_le_of_subset hnodup hsub
      rw [List.length_map] at hlen
      omega
  | succ fuel ih =>
      intro dir way hdir hway hdirs hnodup hroom
      refine (s.tour_succ_iff _ fuel dir).mpr (fun _ c hc => ?_)
      have hon : c ∈ w.onward dir := (w.entered_sublist s dir).subset hc
      have hc' := hdir.tail hon
      refine ih c (Path.normalize c :: way) hc' (fun v hv => ?_) (fun v hv => ?_)
        (List.nodup_cons.mpr ⟨fun hmem => ?_, hnodup⟩) (by rw [List.length_cons]; omega)
      · rcases List.mem_cons.mp hv with hv | hv
        · exact ⟨c, hv.symm, hc', ReflTransGen.refl⟩
        · rcases hway v hv with ⟨a, hav, ha, hadir⟩
          exact ⟨a, hav, ha, hadir.tail hon⟩
      · rcases List.mem_cons.mp hv with hv | hv
        · rw [hv]
          exact (h.down dir hdir c hon).1
        · exact hdirs v hv
      · rcases hway _ hmem with ⟨a, hav, ha, hadir⟩
        exact h.not_back a c ha (TransGen.tail' hadir hon) hav.symm

/-- The depth of a world leaves room for every way that never meets itself. -/
theorem tour_complete (s : Selection) :
    ∃ dirs, s.tour w.entriesAt (w.depth + 1) start = some dirs := by
  refine h.tour_complete_from s (w.depth + 1) start [] ReflTransGen.refl
    (fun v hv => absurd hv List.not_mem_nil) (fun v hv => absurd hv List.not_mem_nil)
    List.nodup_nil ?_
  exact Nat.lt_succ_of_le w.length_dirs_le_depth

end Unfolds

end Keyed

end Maskwalk
