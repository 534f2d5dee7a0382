import Maskwalk.Proofs.Tree.FirstFailure
import Maskwalk.Proofs.Tree.Nesting

/-!
# Removals as a union

In an ordinary world where nothing is denied, read-only or faulty, the masks of a target are
matched one after the other, each in the world that those before it have left. A mask finds there
what it would have found at the start, without the files that are gone. So what is removed in the
end is what the masks match at the start, all together, and a file that several of them match is
removed by the first.

That the order makes no difference needs more than this, since a world is its tables, and tables are
lists. Removing a file takes its key from one table and its name from a list in the other, and two
such steps can be exchanged. So the world that is left is known by the files that are gone, in
whatever order they went, and for two targets with the same masks these are the same files.

The record of calls is another matter: it tells the order.

## Main definitions

* `Keyed.taken`: a world without a file.

## Theorems

* `Ordinary.settled_remove`, `Ordinary.removeFiles_taken`: Removing files takes them from the
  tables.
* `taken_comm`, `foldl_taken_perm`: The order of taking makes no difference.
* `Without.mem_candidates`: What a mask finds when some files are gone.
* `removeInTurn_taken`: A round through masks removes what they match at its start.
* `removeAll_sameMasks`: Targets with the same masks leave the same world.
-/

namespace Maskwalk

open Maskwalk.Path (child)

namespace Keyed

/-- A world without a file, and without its name in the directory that holds it. -/
def taken (w : Keyed) (f : Path) : Keyed :=
  { w with dirs := unlisted w.dirs (parent f) (name f), files := dropKey f w.files }

/-- Names are taken off the lists of directories in any order. -/
theorem unlisted_comm (dirs : List (Path × List Text)) (d₁ d₂ : Path) (n₁ n₂ : Text) :
    unlisted (unlisted dirs d₁ n₁) d₂ n₂ = unlisted (unlisted dirs d₂ n₂) d₁ n₁ := by
  unfold unlisted
  rw [List.map_map, List.map_map]
  refine List.map_congr_left (fun entry _ => ?_)
  simp only [Function.comp_apply]
  by_cases h₁ : entry.1 = d₁
  · by_cases h₂ : entry.1 = d₂
    · simp only [if_pos h₁, if_pos h₂, List.erase_comm]
    · simp only [if_pos h₁, if_neg h₂]
  · by_cases h₂ : entry.1 = d₂
    · simp only [if_neg h₁, if_pos h₂]
    · simp only [if_neg h₁, if_neg h₂]

theorem dropKey_comm {ν : Type} (k₁ k₂ : Path) (table : List (Path × ν)) :
    dropKey k₂ (dropKey k₁ table) = dropKey k₁ (dropKey k₂ table) := by
  unfold dropKey
  rw [List.filter_filter, List.filter_filter]
  exact List.filter_congr (fun entry _ => Bool.and_comm _ _)

/-- Files are taken in any order. -/
theorem taken_comm (w : Keyed) (f g : Path) : (w.taken f).taken g = (w.taken g).taken f := by
  unfold taken
  rw [unlisted_comm, dropKey_comm]

/-- What is left when files are taken depends on the files, and not on their order. -/
theorem foldl_taken_perm (w : Keyed) (files files' : List Path) (h : files.Perm files') :
    files.foldl taken w = files'.foldl taken w :=
  h.foldl_eq' (fun f _ g _ w => w.taken_comm f g) w

/-- Taking files has nothing to do with the record of calls. -/
theorem foldl_taken_calls (files : List Path) : ∀ (w : Keyed) (calls : List Request),
    files.foldl taken { w with calls } = { files.foldl taken w with calls } := by
  induction files with
  | nil => exact fun w calls => rfl
  | cons file more ih => exact fun w calls => ih (w.taken file) calls

namespace Ordinary

/-- A file with nothing in the way is taken from the tables. -/
theorem settled_remove {w : Keyed} (h : w.Ordinary) (f : Path) (hf : w.IsEntry f)
    (hfree : w.obstacle? f = none) : (Request.remove f).settled w
      = (.ok (), { w.taken f with calls := .remove f :: w.calls }) := by
  have hn := h.normal f (w.has_of_hasFile f hf.file)
  rcases h.entry_of_key f (w.has_of_hasFile f hf.file) hf.ne_here hf.ne_root with
    ⟨names, _, _, _, hnames, hcount⟩
  rcases (w.obstacle_eq_none_iff f).mp hfree with ⟨hfault, hopen⟩
  rw [w.settled_remove_file f hn hfault hopen hf.file]
  -- The directory of the file lists its name, so the name can be taken off.
  exact unlink_listed { w with files := dropKey f w.files, calls := .remove f :: w.calls } f names
    hnames (List.count_pos_iff.mp (by omega))

/-- Files with nothing in the way are taken from the tables one after the other. -/
theorem removeFiles_taken (files : List Path) : ∀ {w : Keyed}, w.Ordinary →
    (∀ f ∈ files, w.IsEntry f ∧ w.obstacle? f = none) → files.Nodup →
    ∃ calls, ((removeFiles files).ran w).world = { files.foldl taken w with calls } := by
  induction files with
  | nil => exact fun {w} _ _ _ => ⟨w.calls, rfl⟩
  | cons file more ih =>
      intro w h hfiles hnodup
      rw [List.nodup_cons] at hnodup
      rcases hfiles file List.mem_cons_self with ⟨hfile, hfree⟩
      have hs := h.settled_remove file hfile hfree
      have hwithout := (h.remove_free file hfile hfree).2
      rw [hs] at hwithout
      have hone : ∀ f ∈ [file], w.hasFile f = true := by
        intro f hf
        rw [List.mem_singleton.mp hf]
        exact hfile.file
      rcases ih (hwithout.ordinary h hone) (fun f hf => by
        rcases hfiles f (List.mem_cons_of_mem _ hf) with ⟨hold, hfree⟩
        refine ⟨⟨(hwithout.hasFile_iff f).mpr ⟨hold.file, fun hmem => hnodup.1 ?_⟩,
          hold.ne_here, hold.ne_root⟩, by rw [hwithout.obstacle_eq, hfree]⟩
        rw [← List.mem_singleton.mp hmem]
        exact hf) hnodup.2 with ⟨calls, hworld⟩
      refine ⟨calls, ?_⟩
      rw [(removeFiles_granted file more w _ hs).2, hworld, foldl_taken_calls]
      rfl

end Ordinary

/-- Nothing stands in the way where nothing is read-only or faulty. -/
theorem obstacle_of_nil (w : Keyed) (hreadonly : w.readonly = []) (hfaults : w.faults = [])
    (f : Path) : w.obstacle? f = none := by
  rw [obstacle_eq_none_iff, hreadonly, hfaults]
  exact ⟨rfl, List.not_mem_nil⟩

/-- A world in which nothing is in the way of a removal: it is ordinary, and nothing in it is
    denied, read-only or faulty. -/
structure Open (w : Keyed) : Prop where
  ordinary : w.Ordinary
  denied : w.denied = []
  readonly : w.readonly = []
  faults : w.faults = []

namespace Open

variable {w w' : Keyed} (h : w.Open)

include h

theorem mayList (d : Path) : w.mayList d = true := w.mayList_of_nil h.denied h.faults d

theorem obstacle_eq (f : Path) : w.obstacle? f = none := w.obstacle_of_nil h.readonly h.faults f

theorem without {gone : List Path} (hgone : w.Without gone w')
    (hfiles : ∀ f ∈ gone, w.hasFile f = true) : w'.Open :=
  ⟨hgone.ordinary h.ordinary hfiles, hgone.denied.trans h.denied,
    hgone.readonly.trans h.readonly, hgone.faults.trans h.faults⟩

variable (m : Matcher) (mask : Path)

/-- A removal takes up what its mask selects, in full. -/
theorem matched_candidates :
    w.matched (m.selection (Path.normalize mask) true m.dirRule (some .never))
      (Mask.start (Path.normalize mask)) = .ok (m.candidates mask w) ∧
    ∀ f, f ∈ m.candidates mask w ↔
      w.IsMatch (m.selection (Path.normalize mask) true m.dirRule (some .never))
        (Mask.start (Path.normalize mask)) f := by
  rcases h.ordinary.matched_exact h.mayList
    (m.selection (Path.normalize mask) true m.dirRule (some .never)) _
    (Mask.normalize_start mask) with ⟨found, hm, hfound, _⟩
  have hcandidates : m.candidates mask w = found := by
    rw [Matcher.candidates, (m.candidates_reads mask w).result, hm]
  rw [hcandidates]
  exact ⟨hm, hfound⟩

theorem candidates_entries :
    (∀ f ∈ m.candidates mask w, w.IsEntry f) ∧ (m.candidates mask w).Nodup :=
  h.ordinary.entries_of_found _ rfl _ (Mask.normalize_start mask) _
    (h.matched_candidates m mask).1

end Open

/-- When some files are gone, a match for files should find what it should have found before,
    without those. -/
theorem Without.isMatch_iff {w w' : Keyed} {gone : List Path} (h : w.Without gone w')
    (s : Selection) (hfiles : s.files = true) (start p : Path) :
    w'.IsMatch s start p ↔ w.IsMatch s start p ∧ p ∉ gone := by
  have hkind : ∀ w : Keyed, (if s.files then w.hasFile p else w.hasDir p) = w.hasFile p :=
    fun w => by rw [if_pos hfiles]
  constructor
  · intro hp
    have hfile := hp.kind
    rw [hkind, h.hasFile_iff] at hfile
    exact ⟨⟨(hkind w).trans hfile.1, hp.below, hp.direct, hp.onTheWay, hp.own, hp.fits⟩, hfile.2⟩
  · rintro ⟨hp, hleft⟩
    have hfile := hp.kind
    rw [hkind] at hfile
    exact ⟨(hkind w').trans ((h.hasFile_iff p).mpr ⟨hfile, hleft⟩), hp.below, hp.direct,
      hp.onTheWay, hp.own, hp.fits⟩

/-- When some files are gone, a removal takes up what it would have taken up before, without
    those. -/
theorem Without.mem_candidates {w w' : Keyed} {gone : List Path} (h : w.Without gone w')
    (hw : w.Open) (hw' : w'.Open) (m : Matcher) (mask f : Path) :
    f ∈ m.candidates mask w' ↔ f ∈ m.candidates mask w ∧ f ∉ gone := by
  rw [(hw'.matched_candidates m mask).2, (hw.matched_candidates m mask).2]
  exact h.isMatch_iff _ rfl _ f

/-- The removal of a mask takes what it matches from the tables, and is done. -/
theorem Open.removeMask_taken {w : Keyed} (h : w.Open) (m : Matcher) (mask : Path) :
    ((removeMask m mask).ran w).result = .ok .done ∧
    w.Without (m.candidates mask w) ((removeMask m mask).ran w).world ∧
    ∃ calls, ((removeMask m mask).ran w).world
      = { (m.candidates mask w).foldl taken w with calls } := by
  rcases removeMask_cases m mask w with
    ⟨calls, _, hresult, hworld⟩ | ⟨fault, hfault, _⟩
  · -- The match has left the world as it was, but for the record of calls.
    have hstart := Without.of_calls w calls
    rcases h.candidates_entries m mask with ⟨hentries, hnodup⟩
    have hfree : ∀ f ∈ m.candidates mask w, Keyed.IsEntry { w with calls } f ∧
        Keyed.obstacle? { w with calls } f = none := fun f hf =>
      ⟨⟨(hentries f hf).file, (hentries f hf).ne_here, (hentries f hf).ne_root⟩,
        (hstart.obstacle_eq f).trans (h.obstacle_eq f)⟩
    have hw := h.ordinary.with_calls calls
    rcases hw.removeFiles_done _ hfree hnodup with ⟨hdone, hgone⟩
    rcases hw.removeFiles_taken _ hfree hnodup with ⟨calls', hleft⟩
    rw [hresult, hworld]
    exact ⟨hdone, hstart.trans hgone, calls', by rw [hleft, foldl_taken_calls]⟩
  · rw [(m.candidates_reads mask w).result, (h.matched_candidates m mask).1] at hfault
    exact absurd hfault (by simp only [reduceCtorEq, not_false_eq_true])

/-- A round through masks is done, and takes from the tables what these match at its start, each
    file once. -/
theorem Open.removeInTurn_taken (m : Matcher) (masks : List Path) : ∀ {w : Keyed}, w.Open →
    ((removeInTurn m (masks.map Leaf.mask)).ran w).result = .ok .done ∧
    ∃ gone, gone.Nodup ∧ (∀ f, f ∈ gone ↔ ∃ mask ∈ masks, f ∈ m.candidates mask w) ∧
      w.Without gone ((removeInTurn m (masks.map Leaf.mask)).ran w).world ∧
      ∃ calls, ((removeInTurn m (masks.map Leaf.mask)).ran w).world
        = { gone.foldl taken w with calls } := by
  induction masks with
  | nil =>
      intro w _
      refine ⟨rfl, [], List.nodup_nil, fun f => ?_, Without.of_calls w w.calls, w.calls, rfl⟩
      simp only [List.not_mem_nil, false_and, exists_false]
  | cons mask more ih =>
      intro w h
      rcases h.removeMask_taken m mask with ⟨hdone, hgone, calls, hworld⟩
      rcases h.candidates_entries m mask with ⟨hentries, hnodup⟩
      have hopen := h.without hgone (fun f hf => (hentries f hf).file)
      have hrun := (removeInTurn_goes m (.mask mask) (more.map Leaf.mask) w .done hdone rfl).1
      rw [List.map_cons, hrun]
      rcases ih hopen with ⟨hresult, rest, hrest, hmem, hwithout, calls', hleft⟩
      -- What the later masks still find is what they match at the start, without what the first one
      -- has found.
      have hmem' : ∀ f, f ∈ rest ↔
          (∃ mask ∈ more, f ∈ m.candidates mask w) ∧ f ∉ m.candidates mask w := by
        intro f
        rw [hmem]
        constructor
        · rintro ⟨other, hother, hf⟩
          have hf := (hgone.mem_candidates h hopen m other f).mp hf
          exact ⟨⟨other, hother, hf.1⟩, hf.2⟩
        · rintro ⟨⟨other, hother, hf⟩, hleft⟩
          exact ⟨other, hother, (hgone.mem_candidates h hopen m other f).mpr ⟨hf, hleft⟩⟩
      refine ⟨hresult, m.candidates mask w ++ rest, ?_, fun f => ?_, hgone.trans hwithout, calls',
        ?_⟩
      · rw [List.nodup_append]
        refine ⟨hnodup, hrest, fun f hf g hg heq => ?_⟩
        rw [← heq] at hg
        exact ((hmem' f).mp hg).2 hf
      · rw [List.mem_append, hmem']
        simp only [List.mem_cons, exists_eq_or_imp]
        by_cases hf : f ∈ m.candidates mask w
        · simp only [hf, true_or]
        · simp only [hf, false_or, not_false_eq_true, and_true]
      · change ((removeInTurn m (more.map Leaf.mask)).ran
          ((removeMask m mask).ran w).world).world = _
        rw [hleft, hworld, foldl_taken_calls, List.foldl_append]

end Keyed

/-- The masks among leaves. -/
def masksOf (leaves : List Leaf) : List Path :=
  leaves.filterMap fun
    | .mask text => some text
    | .other _ => none

theorem mem_masksOf (leaves : List Leaf) (mask : Path) :
    mask ∈ masksOf leaves ↔ Leaf.mask mask ∈ leaves := by
  unfold masksOf
  rw [List.mem_filterMap]
  constructor
  · rintro ⟨leaf, hleaf, hmask⟩
    cases leaf with
    | mask text =>
        rw [← Option.some.inj hmask]
        exact hleaf
    | other kind => exact absurd hmask (by simp only [reduceCtorEq, not_false_eq_true])
  · exact fun h => ⟨.mask mask, h, rfl⟩

/-- Leaves without strangers are masks. -/
theorem map_masksOf (leaves : List Leaf) (h : ∀ leaf ∈ leaves, ∃ mask, leaf = .mask mask) :
    (masksOf leaves).map Leaf.mask = leaves := by
  induction leaves with
  | nil => rfl
  | cons leaf more ih =>
      rcases h leaf List.mem_cons_self with ⟨mask, hmask⟩
      rw [hmask]
      exact congrArg (List.cons _) (ih fun leaf hleaf => h leaf (List.mem_cons_of_mem _ hleaf))

/-- The removals of two targets that consist of the same masks, in whatever order and nesting and
    however often each stands there, in an ordinary world where nothing is denied, read-only or
    faulty. Both are done, and leave the same world, but for the record of calls. Each of the masks
    has a match at the start, and the files that are gone are those that one of them matches there;
    the directories list what they did without these, and nothing else has changed. -/
theorem removeAll_sameMasks (m : Matcher) (target target' : Target) (w : Keyed) (h : w.Ordinary)
    (hdenied : w.denied = []) (hreadonly : w.readonly = []) (hfaults : w.faults = [])
    (hmasks : ∀ leaf ∈ target.leaves, ∃ mask, leaf = .mask mask)
    (hsame : ∀ leaf, leaf ∈ target.leaves ↔ leaf ∈ target'.leaves) :
    let ran := (removeAll m target).ran w
    let ran' := (removeAll m target').ran w
    ran.result = .ok .done ∧ ran'.result = .ok .done ∧
    { ran.world with calls := [] } = { ran'.world with calls := [] } ∧
    ∃ found : Path → List Path,
      (∀ mask, .mask mask ∈ target.leaves →
        ((m.matching mask true none (some .nothing)).ran w).result = .ok (found mask)) ∧
      ∃ gone, (∀ f, f ∈ gone ↔ ∃ mask, .mask mask ∈ target.leaves ∧ f ∈ found mask) ∧
        w.Without gone ran.world := by
  intro ran ran'
  have hopen : w.Open := ⟨h, hdenied, hreadonly, hfaults⟩
  have hmasks' : ∀ leaf ∈ target'.leaves, ∃ mask, leaf = .mask mask :=
    fun leaf hleaf => hmasks leaf ((hsame leaf).mpr hleaf)
  -- Both removals are rounds through masks.
  rcases hopen.removeInTurn_taken m (masksOf target.leaves) with
    ⟨hdone, gone, hnodup, hmem, hgone, calls, hworld⟩
  rcases hopen.removeInTurn_taken m (masksOf target'.leaves) with
    ⟨hdone', gone', hnodup', hmem', _, calls', hworld'⟩
  rw [map_masksOf _ hmasks, ← removeAll_flat] at hdone hgone hworld
  rw [map_masksOf _ hmasks', ← removeAll_flat] at hdone' hworld'
  have hperm : gone.Perm gone' := by
    rw [List.perm_ext_iff_of_nodup hnodup hnodup']
    intro f
    rw [hmem, hmem']
    simp only [mem_masksOf, hsame]
  refine ⟨hdone, hdone', ?_, (m.candidates · w), fun mask _ => ?_, gone, fun f => ?_, hgone⟩
  · change { ((removeAll m target).ran w).world with calls := [] }
      = { ((removeAll m target').ran w).world with calls := [] }
    rw [hworld, hworld', w.foldl_taken_perm gone gone' hperm]
  · rw [(m.candidates_reads mask w).result]
    exact (hopen.matched_candidates m mask).1
  · rw [hmem]
    simp only [mem_masksOf]

theorem removeAll_sameMasks_grove :
    let target : Target := .many [.mask "a/**".toList, .many [.mask "/r".toList]]
    let target' : Target :=
      .many [.many [], .many [.mask "/r".toList, .mask "a/**".toList], .mask "/r".toList]
    let ran := (removeAll ⟨true, none, none⟩ target).ran Keyed.grove
    let ran' := (removeAll ⟨true, none, none⟩ target').ran Keyed.grove
    ran.result = .ok .done ∧ ran'.result = .ok .done ∧
    { ran.world with calls := [] } = { ran'.world with calls := [] } ∧
    ran.world.files = [] ∧ ran.world.calls ≠ ran'.world.calls := by
  intro target target' ran ran'
  have hmasks : ∀ leaf ∈ target.leaves, ∃ mask, leaf = .mask mask := by
    intro leaf hleaf
    change leaf ∈ [Leaf.mask "a/**".toList, Leaf.mask "/r".toList] at hleaf
    simp only [List.mem_cons, List.not_mem_nil, or_false] at hleaf
    rcases hleaf with hleaf | hleaf
    · exact ⟨_, hleaf⟩
    · exact ⟨_, hleaf⟩
  have hsame : ∀ leaf, leaf ∈ target.leaves ↔ leaf ∈ target'.leaves := by
    intro leaf
    change leaf ∈ [Leaf.mask "a/**".toList, Leaf.mask "/r".toList] ↔
      leaf ∈ [Leaf.mask "/r".toList, Leaf.mask "a/**".toList, Leaf.mask "/r".toList]
    simp only [List.mem_cons, List.not_mem_nil, or_false]
    constructor
    · exact fun h => h.elim (fun h => Or.inr (Or.inl h)) Or.inl
    · exact fun h => h.elim Or.inr (fun h => h)
  rcases removeAll_sameMasks ⟨true, none, none⟩ target target' Keyed.grove Keyed.ordinary_grove rfl
    rfl rfl hmasks hsame with ⟨hdone, hdone', heq, _⟩
  exact ⟨hdone, hdone', heq, by decide, by decide⟩

end Maskwalk
