import Maskwalk.Proofs.Mask.Inside
import Maskwalk.Proofs.Walk.Reach
import Maskwalk.Proofs.World.Planted

/-!
# How far a match goes

A match should be bounded by the tree: it comes to an end, lists directories at or below the one at
which its mask starts, and none more than twice, or more than once if it is not deep.

It is, just as long as names lead down. A walk joins the name of an entry to the path of its
directory and asks for that. So a name that looks absolute leads away from the directory, a
backslash in a name is a slash to whoever asks, and a name that is listed for a directory and for a
file is entered twice. `Treelike` rules out what may come of this, and nothing else.

What is asked is read off the tour, so in such a world matches are bounded because tours are. The
other way round, a match of everything below a directory visits all that can be reached from there.
If no directory is listed more often than it should be, its tour visits nothing twice.

## Main definitions

* `Keyed.Bounded`: A match that is bounded by the tree.
* `Keyed.plot`: The paths of a small world, with a directory that holds a file and an empty one.

## Theorems

* `bounded_of_unfolds`: Where a walk unfolds a tree, the match is bounded.
* `unfolds_of_bounded`: Where matches of everything are bounded, walks unfold trees.
* `treelike_of_bounded`: Where this holds from every start, the world is treelike.
* `matching_bounded_iff`: Both, for planted worlds.
-/

namespace Maskwalk

open Maskwalk.Path (Below Within child IsName)
open Relation (ReflTransGen)

namespace Keyed

/-- A match that is bounded by the tree: it does not go on without end, it lists the directory at
    which its mask starts and directories below, and none more often than its passes. -/
structure Bounded (w : Keyed) (m : Matcher) (mask : Path) (files : Bool)
    (dirRule fileRule : Option Rule) : Prop where
  ends : ((m.matching mask files dirRule fileRule).ran w).result ≠ .error .endless
  lists : ∀ q, .listDir q ∈ (m.matching mask files dirRule fileRule).asked w →
    q = Mask.start (Path.normalize mask) ∨
      (w.hasDir q = true ∧ Below (Mask.start (Path.normalize mask)) q)
  often : ∀ q, ((m.matching mask files dirRule fileRule).asked w).count (.listDir q) ≤
    if Mask.isDeep (Path.normalize mask) then 2 else 1

/-- How often a tour lists a directory. -/
theorem count_lists (s : Selection) (dirs : List Path) (q : Path) :
    (dirs.flatMap s.lists).count (.listDir q) =
      (if s.deep then 2 else 1) * (dirs.map Path.normalize).count q := by
  induction dirs with
  | nil => rfl
  | cons d more ih =>
      rw [List.flatMap_cons, List.count_append, ih, List.map_cons, List.count_cons]
      -- A directory counts as often as it is listed, if it is the one in question.
      have hone : (s.lists d).count (.listDir q) =
          (if s.deep then 2 else 1) * if (Path.normalize d == q) = true then 1 else 0 := by
        rw [Selection.lists]
        by_cases hq : Path.normalize d = q
        · rw [hq, beq_self_eq_true, if_pos rfl]
          cases s.deep with
          | true => simp only [if_true, List.count_cons_self, List.count_nil]
          | false => simp only [Bool.false_eq_true, if_false, List.count_cons_self, List.count_nil]
        · have hne : Request.listDir (Path.normalize d) ≠ Request.listDir q := fun h => hq (by
            injection h)
          rw [beq_eq_false_iff_ne.mpr hq, if_neg Bool.false_ne_true, Nat.mul_zero]
          cases s.deep with
          | true => simp only [if_true, List.count_cons_of_ne hne, List.count_nil]
          | false =>
              simp only [Bool.false_eq_true, if_false, List.count_cons_of_ne hne, List.count_nil]
      rw [hone, Nat.mul_add, Nat.add_comm]

section

variable (w : Keyed) (m : Matcher) (mask : Path) (files : Bool) (dirRule fileRule : Option Rule)

section

variable (rd rf : Option Regex) (hd : Rule.inForce m.dirRule dirRule = .ok rd)
  (hf : Rule.inForce m.fileRule fileRule = .ok rf) (dirs : List Path)
  (ht : (m.selection (Path.normalize mask) files rd rf).tour w.entriesAt (w.depth + 1)
    (Mask.start (Path.normalize mask)) = some dirs)

include hd hf ht

/-- A match lists what its tour visits. -/
theorem count_asked
    (ho : w.opened true (Mask.start (Path.normalize mask)) =
      .ok (w.entriesAt (Mask.start (Path.normalize mask)))) (q : Path) :
    ((m.matching mask files dirRule fileRule).asked w).count (.listDir q) =
      (if Mask.isDeep (Path.normalize mask) then 2 else 1) * (dirs.map Path.normalize).count q := by
  rw [m.asked_matching mask files dirRule fileRule rd rf w hd hf _
    (fun calls => asked_walk _ w _ true _ dirs calls ho ht),
    List.count_cons_of_ne (fun h => by injection h), count_lists]
  rfl

/-- A match whose start cannot be listed stops there, so that none lists more than its tour. -/
theorem count_asked_le (q : Path) :
    ((m.matching mask files dirRule fileRule).asked w).count (.listDir q) ≤
      (if Mask.isDeep (Path.normalize mask) then 2 else 1) * (dirs.map Path.normalize).count q := by
  cases ho : w.opened true (Mask.start (Path.normalize mask)) with
  | ok entries =>
      rw [w.entries_of_opened true _ entries ho] at ho
      exact Nat.le_of_eq (w.count_asked m mask files dirRule fileRule rd rf hd hf dirs ht ho q)
  | error fault =>
      rw [m.asked_matching mask files dirRule fileRule rd rf w hd hf _
        (fun calls => asked_walk_refused _ w w.depth _ fault ho calls),
        List.count_cons_of_ne (fun h => by injection h)]
      by_cases hq : q = Path.normalize (Mask.start (Path.normalize mask))
      -- The one listing is that of the start, which the tour visits.
      · have hmem := List.mem_map_of_mem (f := Path.normalize) (w.tour_origin _ _ _ dirs ht).1
        have hpos := List.count_pos_iff.mpr hmem
        rw [hq, List.count_singleton_self]
        exact Nat.mul_pos (by split <;> omega) hpos
      · rw [List.count_eq_zero_of_not_mem (fun hmem => hq (by
          injection List.mem_singleton.mp hmem))]
        exact Nat.zero_le _

end

/-- Where a walk unfolds a tree, the match is bounded. -/
theorem bounded_of_unfolds (h : w.Unfolds (Mask.start (Path.normalize mask))) :
    w.Bounded m mask files dirRule fileRule := by
  rcases m.matching_cases mask files dirRule fileRule w with
    ⟨rd, rf, hd, hf⟩ | ⟨problem, hr, hasked⟩
  · have hn := Mask.normalize_start mask
    rcases h.tour_complete (m.selection (Path.normalize mask) files rd rf) with ⟨dirs, ht⟩
    have hcount := w.count_asked_le m mask files dirRule fileRule rd rf hd hf dirs ht
    refine ⟨?_, fun q hq => ?_, fun q => Nat.le_trans (hcount q) ?_⟩
    · rw [(m.matching_reads mask files dirRule fileRule rd rf w hd hf).result]
      rcases w.matched_of_tour _ _ dirs ht with hm | ⟨_, dir, cause, hm⟩
      · rw [hm]
        simp only [ne_eq, reduceCtorEq, not_false_eq_true]
      · rw [hm]
        simp only [ne_eq, Except.error.injEq, reduceCtorEq, not_false_eq_true]
    · have hpos := Nat.lt_of_lt_of_le (List.count_pos_iff.mpr hq) (hcount q)
      have hmem := List.count_pos_iff.mp (Nat.pos_of_mul_pos_left hpos)
      rcases List.mem_map.mp hmem with ⟨d, hd, hdq⟩
      rw [← hdq]
      -- What is listed is visited, and so it is the start or what a walk went on into.
      rcases (w.tour_origin _ _ _ dirs ht).2 d hd with hstart | ⟨_, e, he, hde⟩
      · rw [hstart, hn]
        exact Or.inl rfl
      · have hdown := h.down e (w.tour_reached _ _ _ dirs ht e he) d
          ((w.entered_sublist _ e).subset hde)
        rw [hn] at hdown
        exact Or.inr hdown
    · have hone := List.nodup_iff_count_le_one.mp
        (h.tour_nodup _ _ _ dirs ReflTransGen.refl ht) q
      exact Nat.le_trans (Nat.mul_le_mul_left _ hone) (Nat.le_of_eq (Nat.mul_one _))
  -- A rule that cannot be read ends the match before anything is listed.
  · refine ⟨?_, fun q hq => ?_, fun q => ?_⟩
    · rw [hr]
      simp only [ne_eq, Except.error.injEq, reduceCtorEq, not_false_eq_true]
    · rw [hasked] at hq
      exact absurd hq List.not_mem_nil
    · rw [hasked]
      exact Nat.zero_le _

end

/-- A match of everything below a directory, by a mask that starts there. -/
theorem everything_below (d : Path) (hn : Path.normalize d = d) (ht : Path.InTree d)
    (hs : '*' ∉ d) : Path.normalize (child d ['*', '*']) = child d ['*', '*'] ∧
      Mask.start (child d ['*', '*']) = d ∧ Mask.isDeep (child d ['*', '*']) = true := by
  have hleads : Path.Leads d ['*', '*'] :=
    ⟨⟨by decide, by decide, by decide, by decide⟩, by decide, fun _ => by decide⟩
  refine ⟨Path.normalize_child d _ hn ht hleads,
    Mask.start_child d ['*'] hs (Path.InTree.ne_here d ht), ?_⟩
  · rcases Mask.child_cases d with h | h | ⟨_, hchild⟩
    · rw [h]
      decide
    · rw [h]
      decide
    · rw [hchild, Mask.isDeep_append_slash, Bool.or_eq_true]
      exact Or.inr (by decide)

/-- Where a match of everything below a directory is bounded, walks from there unfold a tree. -/
theorem unfolds_of_bounded (w : Keyed) (start : Path) (hn : Path.normalize start = start)
    (htree : Path.InTree start) (hs : '*' ∉ start) (hmay : w.mayList start = true) (m : Matcher)
    (h : w.Bounded m (child start ['*', '*']) true (some .nothing) (some .nothing)) :
    w.Unfolds start := by
  rcases everything_below start hn htree hs with ⟨hmask, hstart, hdeep⟩
  rcases h with ⟨hends, hlists, hoften⟩
  have hopen := w.opened_of_mayList true start (by rw [hn]; exact hmay)
  have hresult := (m.matching_reads (child start ['*', '*']) true (some .nothing) (some .nothing)
    (some .never) (some .never) w rfl rfl).result
  have hasked := w.count_asked m (child start ['*', '*']) true (some .nothing) (some .nothing)
    (some .never) (some .never) rfl rfl
  rw [hmask, hstart] at hlists hresult hasked
  rw [hmask, if_pos hdeep] at hoften
  rw [if_pos hdeep] at hasked
  cases ht : (m.selection (child start ['*', '*']) true (some .never) (some .never)).tour
      w.entriesAt (w.depth + 1) start with
  -- A tour that does not end is a match that does not.
  | none =>
      refine absurd ?_ hends
      rw [hresult, matched, hopen, ht]
      rfl
  | some dirs =>
      have hcount := hasked dirs ht hopen
      refine w.unfolds_of_tour _ _ start dirs ht hdeep rfl ?_ (fun d hd => ?_)
      -- Each directory of the tour is listed twice, so there is no other of the same normal form.
      · rw [List.nodup_iff_count_le_one]
        intro q
        have htwice := hoften q
        rw [hcount q] at htwice
        omega
      -- And being listed, it is at or below the start.
      · rw [hn]
        refine hlists (Path.normalize d) ?_
        rw [← List.count_pos_iff, hcount]
        have hmem := List.mem_map_of_mem (f := Path.normalize) hd
        exact Nat.mul_pos Nat.two_pos (List.count_pos_iff.mpr hmem)

/-- Where all matches of everything are bounded, walks unfold trees from wherever a mask can
    start. -/
theorem treelike_of_bounded {marks : Prop} (w : Keyed) (hg : w.Grown marks) (m : Matcher)
    (h : ∀ mask, w.Bounded m mask true (some .nothing) (some .nothing)) : w.Treelike := by
  intro start hn hs
  by_cases hon : w.onward start = []
  · -- From where no name leads on, only the start is reached.
    have hstay : ∀ d, w.Reached start d → d = start := by
      intro d hd
      induction hd with
      | refl => rfl
      | tail _ hc ih =>
          rw [ih, hon] at hc
          exact absurd hc List.not_mem_nil
    refine ⟨fun d hd c hc => ?_, fun d hd => ?_, fun d₁ d₂ h₁ h₂ _ _ _ _ _ => ?_⟩
    · rw [hstay d hd, hon] at hc
      exact absurd hc List.not_mem_nil
    · rw [hstay d hd, hon]
      exact List.nodup_nil
    · rw [hstay d₁ h₁, hstay d₂ h₂]
  · rcases List.exists_mem_of_ne_nil _ hon with ⟨c, hc⟩
    rcases (w.mem_onward start c).mp hc with ⟨n, hshown, _⟩
    rw [hn] at hshown
    rcases w.names_of_shown start n hshown with ⟨names, hnames, _⟩
    have hdir := (w.hasDir_iff start).mpr ⟨names, hnames⟩
    have hmay : w.mayList start = true := by
      by_contra hno
      rw [shown, if_neg hno] at hshown
      exact List.not_mem_nil hshown
    exact w.unfolds_of_bounded start hn (hg.key start (w.has_of_hasDir start hdir)) hs hmay m (h _)

end Keyed

/-- In a planted world all matches are bounded by the tree just if walks unfold trees there,
    whatever may be listed and whatever markers there are. -/
theorem matching_bounded_iff (tree : List (Path × Text)) (marked : List Path)
    (htree : ∀ entry ∈ tree, Keyed.IsPlantable entry.1) (w : Keyed)
    (hdirs : w.dirs = (Keyed.planted tree marked).dirs)
    (hfiles : w.files = (Keyed.planted tree marked).files) :
    (∀ (m : Matcher) (mask : Path) (files : Bool) (dirRule fileRule : Option Rule),
      w.Bounded m mask files dirRule fileRule) ↔ w.Treelike := by
  have hgrown : w.Grown True := by
    refine (Keyed.planted_grown tree marked htree).congr w (fun d => ?_) (fun f => ?_)
    · rw [Keyed.names?, hdirs]
      rfl
    · rw [Keyed.hasFile, hfiles]
      rfl
  constructor
  · intro h
    exact w.treelike_of_bounded hgrown ⟨true, none, none⟩ (fun mask => h _ mask true _ _)
  · intro h m mask files dirRule fileRule
    exact w.bounded_of_unfolds m mask files dirRule fileRule
      (h _ (Mask.normalize_start mask) (Mask.no_star_start _))

namespace Keyed

/-- A file in a directory, and a directory with nothing in it. -/
def plot : List (Path × Text) := [(['a', '/', 'f'], []), (['b', '/'], [])]

theorem plantable_plot : ∀ entry ∈ plot, IsPlantable entry.1 := by
  have hname : ∀ c, c ≠ '/' → c ≠ '.' → IsName [c] := fun c hs hd =>
    ⟨List.cons_ne_nil _ _, fun h => hs (List.mem_singleton.mp h).symm,
      fun h => hd (List.cons.inj h).1, fun h => hd (List.cons.inj h).1⟩
  refine List.forall_mem_cons.mpr ⟨?_, List.forall_mem_singleton.mpr ?_⟩
  · rw [IsPlantable, if_neg (by decide)]
    exact ⟨Path.InTree.child (Path.InTree.child Path.InTree.here (hname 'a' (by decide)
      (by decide))) (hname 'f' (by decide) (by decide)), by decide⟩
  · rw [IsPlantable, if_pos (by decide)]
    exact Path.InTree.child Path.InTree.here (hname 'b' (by decide) (by decide))

end Keyed

theorem matching_bounded_iff_plot : (∀ entry ∈ Keyed.plot, Keyed.IsPlantable entry.1) ∧
    ((∀ (m : Matcher) (mask : Path) (files : Bool) (dirRule fileRule : Option Rule),
      ({ Keyed.planted Keyed.plot [['a']] with denied := [['b']] } : Keyed).Bounded m mask files
        dirRule fileRule) ↔
      ({ Keyed.planted Keyed.plot [['a']] with denied := [['b']] } : Keyed).Treelike) :=
  ⟨Keyed.plantable_plot, matching_bounded_iff Keyed.plot [['a']] Keyed.plantable_plot
    { Keyed.planted Keyed.plot [['a']] with denied := [['b']] } rfl rfl⟩

end Maskwalk
