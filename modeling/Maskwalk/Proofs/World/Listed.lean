import Maskwalk.Proofs.World.Planted

/-!
# Worlds that list their files

In a planted world every file is listed by the directory of its key, whatever the keys are: they
need not be built from names, nor be in normal form. A directory is added with all that is above it,
and a file puts its name at the end of its directory, so names come and none goes. This is all there
is to it, and so it is kept by additions at any path.

## Main definitions

* `Keyed.FilesListed`: worlds in which all files are listed, at keys of some kind.
* `Keyed.ListsAll`: worlds in which no name of another is missing.

## Theorems

* `names_listed_subset`, `addDirWithin_listsAll`: Names are added and none is taken away.
* `FilesListed.addDir`, `FilesListed.addFile`, `FilesListed.addMarkers`: One more path.
* `filesListed_planted`: The files of planted worlds.
-/

namespace Maskwalk

namespace Keyed

/-- A world in which every file is at a key of some kind, and is listed by the directory of that. -/
def FilesListed (kind : Path → Prop) (w : Keyed) : Prop :=
  ∀ f, w.hasFile f = true → kind f ∧ ∃ names, w.names? (parent f) = some names ∧ name f ∈ names

/-- A world in which directories list all that they list in another one. -/
def ListsAll (w w' : Keyed) : Prop :=
  ∀ d names, w.names? d = some names → ∃ names', w'.names? d = some names' ∧ names ⊆ names'

theorem ListsAll.refl (w : Keyed) : w.ListsAll w :=
  fun _ names hd => ⟨names, hd, List.Subset.refl names⟩

theorem ListsAll.trans {w w' w'' : Keyed} (h : w.ListsAll w') (h' : w'.ListsAll w'') :
    w.ListsAll w'' := by
  intro d names hd
  rcases h d names hd with ⟨names', hd', hsub⟩
  rcases h' d names' hd' with ⟨names'', hd'', hsub'⟩
  exact ⟨names'', hd'', fun n hn => hsub' (hsub hn)⟩

/-- One more name in a directory takes no other name away. -/
theorem names_listed_subset (dirs : List (Path × List Text)) (d q : Path) (n : Text)
    (names : List Text) (h : valueOf? q dirs = some names) :
    ∃ names', valueOf? q (listed dirs d n) = some names' ∧ names ⊆ names' := by
  rw [names_listed, h, Option.map_some]
  by_cases hq : q = d
  · exact ⟨_, rfl, fun m hm => by
      rw [if_pos hq]
      exact List.mem_append_left _ hm⟩
  · exact ⟨_, rfl, fun m hm => by
      rw [if_neg hq]
      exact hm⟩

theorem addDirWithin_listsAll (fuel : Nat) : ∀ (p : Path) (w : Keyed),
    w.ListsAll (addDirWithin fuel p w) := by
  induction fuel with
  | zero => exact fun p w => ListsAll.refl w
  | succ fuel ih =>
      intro p w
      rw [addDirWithin]
      by_cases hp : w.hasDir p = true
      · rw [if_pos hp]
        exact ListsAll.refl w
      · rw [if_neg hp]
        refine (ih (parent p) w).trans (fun d names hd => names_listed_subset _ _ d _ names ?_)
        change valueOf? d _ = some names at hd
        rw [valueOf?_append_singleton, hd, Option.some_or]

/-- A directory is there once it has been added, wherever it is. -/
theorem hasDir_addDir (p : Path) (w : Keyed) : (w.addDir p).hasDir p = true := by
  rw [addDir, addDirWithin]
  by_cases hp : w.hasDir p = true
  · rw [if_pos hp]
    exact hp
  · rw [if_neg hp]
    change (valueOf? p (listed _ _ _)).isSome = true
    rw [names_listed, Option.isSome_map, valueOf?_append_singleton, if_pos rfl, Option.isSome_or,
      Option.isSome_some, Bool.or_true]

section

variable {kind : Path → Prop} {w w' : Keyed}

/-- Files stay listed where no name is taken away and no file is added. -/
theorem FilesListed.of_listsAll (h : w.FilesListed kind) (hnames : w.ListsAll w')
    (hfiles : ∀ f, w'.hasFile f = true → w.hasFile f = true) : w'.FilesListed kind := by
  intro f hf
  rcases h f (hfiles f hf) with ⟨hkind, names, hn, hmem⟩
  rcases hnames (parent f) names hn with ⟨names', hn', hsub⟩
  exact ⟨hkind, names', hn', hsub hmem⟩

theorem FilesListed.addDir (h : w.FilesListed kind) (p : Path) :
    (w.addDir p).FilesListed kind := by
  refine h.of_listsAll (addDirWithin_listsAll _ p w) (fun f hf => ?_)
  rcases addDirWithin_frame (p.length + 1) p w with ⟨dirs, hdirs⟩
  rw [Keyed.addDir, hdirs] at hf
  exact hf

theorem FilesListed.addFile (h : w.FilesListed kind) (p : Path) (content : Text) (hp : kind p) :
    (w.addFile p content).FilesListed kind := by
  have hdir := h.addDir (parent p)
  have hfile : ∀ f, (valueOf? f (withValue p content (w.addDir (parent p)).files)).isSome = true →
      f = p ∨ (w.addDir (parent p)).hasFile f = true := by
    intro f hf
    rw [valueOf?_withValue] at hf
    by_cases hfp : f = p
    · exact Or.inl hfp
    · rw [if_neg hfp] at hf
      exact Or.inr hf
  rw [Keyed.addFile]
  by_cases hthere : (w.addDir (parent p)).hasFile p = true
  · simp only [hthere, if_true]
    refine hdir.of_listsAll (ListsAll.refl _) (fun f hf => ?_)
    rcases hfile f hf with heq | hold
    · rw [heq, hthere]
    · exact hold
  · simp only [hthere, Bool.false_eq_true, if_false]
    intro f hf
    rcases hfile f hf with heq | hold
    -- The directory above the new file is there, and the name comes at its end.
    · rcases (Keyed.hasDir_iff _ _).mp (hasDir_addDir (parent p) w) with ⟨names, hnames⟩
      rw [heq]
      refine ⟨hp, names ++ [name p], ?_, List.mem_append_right _ (List.mem_singleton_self _)⟩
      change valueOf? (parent p) (listed _ (parent p) (name p)) = _
      rw [names_listed, show valueOf? (parent p) (w.addDir (parent p)).dirs = _ from hnames,
        Option.map_some, if_pos rfl]
    · rcases hdir f hold with ⟨hkind, names, hnames, hmem⟩
      rcases names_listed_subset _ (parent p) _ (name p) names hnames with ⟨names', hn', hsub⟩
      exact ⟨hkind, names', hn', hsub hmem⟩

theorem FilesListed.addMarkers (h : w.FilesListed kind) (p : Path) :
    (w.addMarkers p).FilesListed kind := by
  refine h.of_listsAll (fun d names hd => ?_) (fun f hf => hf)
  change ∃ names', valueOf? d (w.addMarkers p).dirs = some names' ∧ _
  rw [Keyed.addMarkers, valueOf?_changed w.dirs p d (Path.dot :: Path.dotDot :: ·),
    show valueOf? d w.dirs = some names from hd, Option.map_some]
  by_cases hdp : d = p
  · exact ⟨_, rfl, fun n hn => by
      rw [if_pos hdp]
      exact List.mem_cons_of_mem _ (List.mem_cons_of_mem _ hn)⟩
  · exact ⟨_, rfl, fun n hn => by
      rw [if_neg hdp]
      exact hn⟩

end

/-- The files of a planted world are the paths that it was planted with as files, and all of them
    are listed. -/
theorem filesListed_planted {kind : Path → Prop} (tree : List (Path × Text)) (marked : List Path)
    (htree : ∀ entry ∈ tree, entry.1.getLast? ≠ some '/' → kind entry.1) :
    (planted tree marked).FilesListed kind := by
  have hplant : ∀ w : Keyed, w.FilesListed kind → (tree.foldl plant w).FilesListed kind := by
    induction tree with
    | nil => exact fun w hw => hw
    | cons entry more ih =>
        intro w hw
        refine ih (fun e he => htree e (List.mem_cons_of_mem _ he)) _ ?_
        rw [plant]
        by_cases hs : entry.1.getLast? = some '/'
        · rw [if_pos hs]
          exact hw.addDir _
        · rw [if_neg hs]
          exact hw.addFile _ _ (htree entry List.mem_cons_self hs)
  have hmark : ∀ w : Keyed, w.FilesListed kind →
      (marked.foldl (fun w p => w.addMarkers p) w).FilesListed kind := by
    induction marked with
    | nil => exact fun w hw => hw
    | cons p more ih => exact fun w hw => ih _ (hw.addMarkers p)
  exact hmark _ (hplant bare fun f hf => absurd hf Bool.false_ne_true)

end Keyed

end Maskwalk
