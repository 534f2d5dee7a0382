import Maskwalk.Proofs.Engine.Running
import Maskwalk.Proofs.Path.Joining
import Maskwalk.Search
import Maskwalk.World.Keyed

/-!
# How the directories of a search are spelled

The directories of a path list are searched as they are written: the name of the file is joined to
the text of the directory, and only the result is brought into its normal form. So a directory with
backslashes, dots or slashes to spare is searched where its normal form is, since joining a name to
a path comes to the same as joining it to the normal form of the path.

This fails for one spelling. A single backslash is the root, but no slash stands at its end, so a
name is joined to it by one, and what comes of it starts like a share. The names that show this are
those that are joined at all, which is to say those that are neither empty nor absolute.

## Main definitions

* `Path.LandsOnShare`: a directory that is the root, and a name that is searched on a share.

## Theorems

* `Path.normalize_join_iff`: When joining to a path and to its normal form come to the same.
* `searchIn_normalized`: A search in directories that are spelled otherwise.
* `searched_where_normal`: Both facts, the second for every world.
-/

namespace Maskwalk

namespace Path

/-- Whether a directory is a single backslash and a name is joined to it. -/
def LandsOnShare (dir name : Path) : Prop :=
  dir = ['\\'] ∧ name ≠ [] ∧ isAbsolute name = false

instance (dir name : Path) : Decidable (LandsOnShare dir name) :=
  inferInstanceAs (Decidable (_ ∧ _ ∧ _))

section

variable {dir name : Path}

/-- A name behind a single backslash is on a share, -/
theorem LandsOnShare.kind_join (h : LandsOnShare dir name) : kind (join dir name) = .share := by
  rcases h with ⟨rfl, hname, hrel⟩
  have hjoin : join ['\\'] name = ['\\', '/'] ++ name := by
    rw [join, if_neg hname, hrel, if_neg (by decide), if_neg (by decide)]
    rfl
  rw [hjoin, kind_append _ _ (by decide)]
  decide

/-- but behind the normal form of that it is at the root. -/
theorem LandsOnShare.kind_join_normalize (h : LandsOnShare dir name) :
    kind (join (normalize dir) name) = .rooted := by
  rcases h with ⟨rfl, hname, hrel⟩
  have hroot : normalize ['\\'] = ['/'] := by decide
  rw [hroot, Path.kind_join _ _ (by decide) (by decide) hname hrel (by decide)]
  decide

end

/-- Joining a name to a path comes to the same as joining it to the normal form of the path, unless
    the path is a single backslash and the name is put behind it. -/
theorem normalize_join_iff (dir name : Path) :
    normalize (join dir name) = normalize (join (normalize dir) name) ↔
      ¬ LandsOnShare dir name := by
  constructor
  · intro heq h
    -- A normal form starts where its path does, so the two cannot be the same.
    have hkind : kind (join dir name) = kind (join (normalize dir) name) := by
      rw [← kind_normalize, heq, kind_normalize]
    rw [h.kind_join, h.kind_join_normalize] at hkind
    exact absurd hkind (by decide)
  · intro h
    by_cases hdir : dir = ['\\']
    · by_cases hname : name = []
      · rw [hname]
        exact (normalize_normalize dir).symm
      · have habs : isAbsolute name = true := by
          rw [← Bool.not_eq_false]
          exact fun hrel => h ⟨hdir, hname, hrel⟩
        have hjoin : ∀ d, join d name = name := fun d => by
          rw [join, if_neg hname, if_pos (Or.inr (Or.inr habs))]
        rw [hjoin, hjoin]
    · exact (normalize_join_normalize dir name hdir).symm

end Path

open Maskwalk.Path (LandsOnShare normalize)

/-- A search in the normal forms of directories asks what a search in the directories asks, leaves
    the same world, and finds the normal form of what that finds. -/
theorem searchIn_normalized {σ : Type} [World σ] (name : Path) (dirs : List Path)
    (h : ∀ dir ∈ dirs, ¬ LandsOnShare dir name) (w : σ) :
    (searchIn name (dirs.map normalize)).asked w = (searchIn name dirs).asked w ∧
    ((searchIn name (dirs.map normalize)).ran w).world = ((searchIn name dirs).ran w).world ∧
    ((searchIn name (dirs.map normalize)).ran w).result =
      ((searchIn name dirs).ran w).result.map (Option.map normalize) := by
  induction dirs generalizing w with
  | nil => exact ⟨rfl, rfl, rfl⟩
  | cons dir more ih =>
      have hplace := (Path.normalize_join_iff dir name).mpr (h dir List.mem_cons_self)
      have hmore := ih fun d hd => h d (List.mem_cons_of_mem _ hd)
      -- The world is asked for the file at the same place, so the reply is the same.
      have hsettled : (Request.isFile (Path.join (normalize dir) name)).settled w =
          (Request.isFile (Path.join dir name)).settled w := by
        dsimp only [Request.settled]
        rw [hplace]
      have hnormal : (Request.isFile (Path.join (normalize dir) name)).normal =
          (Request.isFile (Path.join dir name)).normal := congrArg Request.isFile hplace.symm
      rw [List.map_cons, searchIn, searchIn, Attempt.asked_request_bind,
        Attempt.asked_request_bind, Attempt.ran_request_bind, Attempt.ran_request_bind, hsettled,
        hnormal]
      rcases (Request.isFile (Path.join dir name)).settled w with ⟨isThere, w'⟩
      cases isThere with
      | true => exact ⟨rfl, rfl, rfl⟩
      | false => exact ⟨congrArg _ (hmore w').1, (hmore w').2⟩

/-- Joining a name to a path comes to the same as joining it to the normal form of the path for all
    but one spelling of a directory: a single backslash, with a relative name behind it. So in every
    world the directories of a search, none of which is spelled like that, are searched at the same
    places as their normal forms, with the same outcome. -/
theorem searched_where_normal {σ : Type} [World σ] (w : σ) (name : Path) (dirs : List Path) :
    (∀ dir, normalize (Path.join dir name) = normalize (Path.join (normalize dir) name) ↔
      ¬ LandsOnShare dir name) ∧
    ((∀ dir ∈ dirs, ¬ LandsOnShare dir name) →
      (searchIn name (dirs.map normalize)).asked w = (searchIn name dirs).asked w ∧
      ((searchIn name (dirs.map normalize)).ran w).world = ((searchIn name dirs).ran w).world ∧
      ((searchIn name (dirs.map normalize)).ran w).result =
        ((searchIn name dirs).ran w).result.map (Option.map normalize)) :=
  ⟨fun dir => Path.normalize_join_iff dir name, fun h => searchIn_normalized name dirs h w⟩

/-- A world with a file in a directory and one at the root. -/
def rootAndBranch : Keyed := (Keyed.bare.addFile "/d/f".toList []).addFile "/r".toList []

theorem searched_where_normal_branch :
    (∀ dir ∈ [".\\e".toList, "\\d\\".toList], ¬ LandsOnShare dir "f".toList) ∧
    (searchIn "f".toList [".\\e".toList, "\\d\\".toList]).asked rootAndBranch =
      (searchIn "f".toList ["e".toList, "/d".toList]).asked rootAndBranch ∧
    ((searchIn "f".toList ["e".toList, "/d".toList]).ran rootAndBranch).result =
      .ok (some "/d".toList) ∧
    ((searchIn "f".toList [".\\e".toList, "\\d\\".toList]).ran rootAndBranch).result =
      .ok (some "\\d\\".toList) := by
  have hdirs : ∀ dir ∈ [".\\e".toList, "\\d\\".toList], ¬ LandsOnShare dir "f".toList := by decide
  have hboth := (searched_where_normal rootAndBranch "f".toList _).2 hdirs
  exact ⟨hdirs, hboth.1.symm, by decide, by decide⟩

-- The file at the root is not found in the directory that a backslash is.
example : ((searchIn "r".toList ["\\".toList]).ran rootAndBranch).result = .ok none ∧
    ((searchIn "r".toList [normalize "\\".toList]).ran rootAndBranch).result =
      .ok (some "/".toList) := by decide

end Maskwalk
