import Maskwalk.Proofs.Search.Libraries

/-!
# The first script that is there

Scripts are looked for as they are named, and then in directories: those of the configured path
list, those of the list in a variable, and the one of the program that runs. Each name is tried
everywhere before the next one, so again there is one list of candidates, and the search goes
through it up to the first file that is there.

The directory of the program goes through the same splitting as the two lists. So it counts as one
directory only if none of its characters separates; otherwise the search goes through its pieces,
and misses a script that lies beside the program.

## Main definitions

* `scriptPaths`: the paths of scripts, as they are named and in several directories.
* `Session.listedDirs`, `Session.scriptDirs`: the directories of the two lists, and all that a
  search for scripts goes through.

## Theorems

* `Searcher.locate_looks`: A search goes through its candidates in order.
* `Session.scriptDirs_eq`: When the directory of the program counts as one.
* `Session.locate_first`: A search for scripts finds the first candidate that is there.
-/

namespace Maskwalk

open Attempt (Looks)

/-- The paths at which scripts are looked for: each as it is named and in all directories, before
    the next one. -/
def scriptPaths (dirs names : List Path) : List Path :=
  names.flatMap fun name => name :: dirs.map (Path.join · name)

theorem scriptPaths_append (dirs earlier later : List Path) :
    scriptPaths dirs (earlier ++ later) = scriptPaths dirs earlier ++ scriptPaths dirs later :=
  List.flatMap_append

/-- A text without separators is one piece, and no directory if it is empty. -/
theorem splitList_of_free (onWindows : Bool) (t : Text) (hne : t ≠ [])
    (h : ∀ c ∈ t, separates onWindows c = false) : splitList onWindows t = [t] := by
  rw [splitList, Text.pieces_of_free t h]
  exact List.filter_cons_of_pos (by simpa using hne)

/-- A path lies in some directory, if only in the current one. -/
theorem Path.directory_ne_nil (p : Path) : Path.directory p ≠ [] := by
  unfold Path.directory
  split
  · nofun
  · nofun
  · rename_i hnil hsingle
    intro h
    cases hup : Path.upToSlash p with
    | nil => exact hnil hup
    | cons c rest =>
        cases rest with
        | nil => exact hsingle c hup
        | cons d more => exact absurd (hup ▸ h) (List.cons_ne_nil _ _)

theorem executable_looks (w : Keyed) :
    Looks (Attempt.request .executable) w w.executable [] :=
  Looks.request fun calls => ⟨calls, rfl⟩

namespace Searcher

variable (s : Searcher) (w : Keyed)

/-- The lists that are searched for scripts, the directory of the program among them. -/
def scriptLists : List (Option Text) :=
  [s.scripts, valueOf? s.searchVariable w.environment, some (Path.directory w.executable)]

/-- A search for scripts goes through their candidates up to the first that is there. -/
theorem locate_looks (names : List Path) :
    let candidates := scriptPaths (splitLists s.onWindows (s.scriptLists w)) names
    Looks (s.locate names) w (candidates.find? w.sees)
      ((upToFirst w.sees candidates).map Path.normalize) := by
  simp only
  induction names with
  | nil => exact Looks.pure none
  | cons name more ih =>
      have hlook := isFile_looks w name
      rw [scriptPaths, List.flatMap_cons, List.cons_append, List.find?_cons, upToFirst]
      cases hs : w.sees name with
      | true =>
          rw [hs] at hlook
          exact hlook.bind (Looks.pure (some name))
      | false =>
          rw [hs] at hlook
          refine hlook.bind ((variable_looks w _).bind ((executable_looks w).bind ?_))
          exact searchIn_or_looks name _ ih

end Searcher

namespace Session

variable (s : Session Keyed)

/-- The directories of the configured path list and of the one in the variable. -/
def listedDirs : List Path :=
  splitLists s.engine.searcher.onWindows
    [s.engine.scripts, valueOf? s.engine.searchVariable s.world.environment]

/-- The directories that a search for scripts goes through. -/
def scriptDirs : List Path :=
  splitLists s.engine.searcher.onWindows (s.engine.searcher.scriptLists s.world)

/-- What separates the directories of a list splits the directory of the program as well. -/
theorem scriptDirs_split : s.scriptDirs = s.listedDirs ++
    splitList s.engine.searcher.onWindows (Path.directory s.world.executable) := by
  unfold scriptDirs listedDirs splitLists
  change List.flatMap _ ([s.engine.scripts, valueOf? s.engine.searchVariable s.world.environment] ++
    [some (Path.directory s.world.executable)]) = _
  rw [List.flatMap_append, List.flatMap_singleton]
  rfl

/-- So it counts as one directory if none of its characters separates. -/
theorem scriptDirs_eq (hfree : ∀ c ∈ Path.directory s.world.executable,
    separates s.engine.searcher.onWindows c = false) :
    s.scriptDirs = s.listedDirs ++ [Path.directory s.world.executable] := by
  rw [scriptDirs_split, splitList_of_free _ _ (Path.directory_ne_nil _) hfree]

/-- A search for scripts comes to the first candidate at which there is a file, and looks for files
    at the candidates up to that one and nowhere else. -/
theorem locate_answer (names : List Path) :
    (s.perform (.locate names)).1.result =
      .ok (.perhaps ((scriptPaths s.scriptDirs names).find? s.world.sees)) ∧
    (s.asked (.locate names)).filterMap Request.filePath? =
      (upToFirst s.world.sees (scriptPaths s.scriptDirs names)).map Path.normalize ∧
    ∃ calls, (s.perform (.locate names)).2.world = { s.world with calls } :=
  s.perform_of_looks _ _ _ _ (Act.Looks.attempt
    ((s.engine.searcher.locate_looks s.world names).returned Answer.perhaps))

/-- A search for scripts comes to the first candidate at which there is a file, each name being
    tried everywhere before the next one, or to nothing if there is none at any of them. It looks
    for files at the candidates up to that one, in their order, and nowhere else. What it comes to
    is a file afterwards, and a name that is found is found whatever other names come after it. The
    directories are those of the two lists and that of the program, as long as nothing in the path
    of that one separates. -/
theorem locate_first (names : List Path) :
    (s.perform (.locate names)).1.result =
      .ok (.perhaps ((scriptPaths s.scriptDirs names).find? s.world.sees)) ∧
    ((s.perform (.locate names)).1.result = .ok (.perhaps none) ↔
      ∀ p ∈ scriptPaths s.scriptDirs names, s.world.sees p = false) ∧
    (s.asked (.locate names)).filterMap Request.filePath? =
      (upToFirst s.world.sees (scriptPaths s.scriptDirs names)).map Path.normalize ∧
    (∀ file, (s.perform (.locate names)).1.result = .ok (.perhaps (some file)) →
      ((s.perform (.locate names)).2.perform (.isFile file)).1.result = .ok (.flag true)) ∧
    (∀ file, (s.perform (.locate names)).1.result = .ok (.perhaps (some file)) →
      ∀ later, (s.perform (.locate (names ++ later))).1.result = .ok (.perhaps (some file))) ∧
    ((∀ c ∈ Path.directory s.world.executable,
        separates s.engine.searcher.onWindows c = false) →
      s.scriptDirs = s.listedDirs ++ [Path.directory s.world.executable]) := by
  rcases s.locate_answer names with ⟨hresult, hasked, calls, hworld⟩
  have hfound : ∀ found, (s.perform (.locate names)).1.result = .ok (.perhaps found) →
      (scriptPaths s.scriptDirs names).find? s.world.sees = found := fun found h =>
    Answer.perhaps.inj (Except.ok.inj (hresult.symm.trans h))
  refine ⟨hresult, ?_, hasked, fun file hfile => ?_, fun file hfile later => ?_, s.scriptDirs_eq⟩
  · simp only [← Bool.not_eq_true]
    rw [← List.find?_eq_none]
    exact ⟨hfound none, fun hnone => by rw [hresult, hnone]⟩
  -- Nothing has changed but the record of calls, so what was seen is still there.
  · have hsees : s.world.sees file = true := List.find?_some (hfound _ hfile)
    rw [isFile_answer, hworld]
    exact congrArg (fun seen => Except.ok (Answer.flag seen)) hsees
  · rw [(s.locate_answer (names ++ later)).1, scriptPaths_append, List.find?_append,
      hfound _ hfile, Option.some_or]

/-- A session in a world that keeps a script beside the program that runs, in a directory with a
    colon in its name. -/
def onBench : Session Keyed := {
  onGrove with
  world := { Keyed.bare.addFile "/o:p/s".toList [] with executable := "/o:p/x".toList } }

-- The script is there, but it is looked for in the pieces of the path.
example : onBench.world.sees (Path.join (Path.directory onBench.world.executable) ['s']) = true ∧
    (onBench.perform (.locate [['s']])).1.result = .ok (.perhaps none) ∧
    (onBench.asked (.locate [['s']])).filterMap Request.filePath? =
      ["s".toList, "/o/s".toList, "p/s".toList] := by decide

end Session

end Maskwalk
