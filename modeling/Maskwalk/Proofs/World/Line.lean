import Maskwalk.Proofs.Walk.Descent
import Maskwalk.Proofs.World.Consistent

/-!
# Directories made one in another

A directory is made by one request and removed by another, and the second undoes the first: the
name that was put at the end of a listing is taken off it again, and the key goes from the table.
What is left holds the same tree (`SameTree`), and differs at most in the calls that it has
recorded. A request that made a directory also tells something about the world that it was put to:
the key has no fault, and the directory above may be changed. So nothing stands in the way of the
removal (`Makes.undone`).

Where several directories are missing on the way to a path, they are made one in another. The
first of them is the only new entry of a directory that was there, and each other one is all that
the directory above it holds. `GrowsLine` keeps the order in which they were made, which is the
order in which the proofs go through them.

## Main definitions

* `Keyed.SameTree`: worlds that hold the same tree.
* `Keyed.IsNew`, `Keyed.IsFirstNew`: the directories that one world has and another has not, and the
  shortest of them.
* `Keyed.Makes`: a world in which one directory has been made.
* `Keyed.GrowsLine`: a world in which directories have been made one in another.
* `Path.line`: the path that names lead to from a directory.

## Theorems

* `makes_of_settled`: What a request that makes a directory does.
* `Makes.undone`: It is undone by the removal of that directory.
* `GrowsLine.names_outside`, `GrowsLine.hasDir_cases`: What a line of directories leaves alone, and
  what it adds.
* `GrowsLine.isFirstNew`: The first directory of a line is the shortest that is new.
* `GrowsLine.names_first`: What the first directory of a line lists.
* `GrowsLine.ordinary`: A line of ordinary paths leaves an ordinary world.
-/

namespace Maskwalk

open Maskwalk.Path (child Below Within IsName)

/-- The path that names lead to from a directory. -/
def Path.line (d : Path) (names : List Text) : Path := names.foldl child d

namespace Path

/-- What names lead to is below the directory. -/
theorem below_line (names : List Text) : ∀ (d n : Text), (∀ m ∈ n :: names, IsName m) →
    Below d (line d (n :: names)) := by
  induction names with
  | nil =>
      intro d n h
      have hn := h n List.mem_cons_self
      exact below_self_child d n hn.ne_nil hn.no_slash
  | cons m more ih =>
      intro d n h
      have hn := h n List.mem_cons_self
      exact below_trans d _ _ (below_self_child d n hn.ne_nil hn.no_slash)
        (ih (child d n) m (fun k hk => h k (List.mem_cons_of_mem _ hk)))

theorem within_line (d : Path) (names : List Text) (h : ∀ n ∈ names, IsName n) :
    Within d (line d names) := by
  cases names with
  | nil => exact Or.inl rfl
  | cons n more => exact Or.inr (below_line more d n h)

/-- The text that names lead to is what they make when they are joined by slashes. -/
theorem line_eq (names : List Text) : ∀ (d n : Text), (∀ m ∈ n :: names, m ≠ [] ∧ '/' ∉ m) →
    line d (n :: names) = into d ++ Text.joined ['/'] (n :: names) := by
  induction names with
  | nil => exact fun _ _ _ => rfl
  | cons m more ih =>
      intro d n h
      have hn := h n List.mem_cons_self
      change line (child d n) (m :: more) = _
      rw [ih (child d n) m (fun k hk => h k (List.mem_cons_of_mem _ hk)),
        into_child d n hn.1 hn.2, Text.joined_cons _ n _ (List.cons_ne_nil _ _)]
      simp only [child, List.append_assoc]

/-- A line is as long as its names are many, if not longer. -/
theorem length_line (d : Path) (names : List Text) (h : ∀ n ∈ names, n ≠ []) :
    names.length ≤ (line d names).length := by
  have hlong : d.length + names.length ≤ (line d names).length := by
    induction names generalizing d with
    | nil => exact Nat.le_refl _
    | cons n more ih =>
        have hn := length_lt_child d n (h n List.mem_cons_self)
        have hrest := ih (child d n) (fun m hm => h m (List.mem_cons_of_mem _ hm))
        rw [List.length_cons]
        change _ ≤ (line (child d n) more).length
        omega
  omega

end Path

namespace Keyed

variable {w w₁ w' w'' : Keyed} {d : Path} {n : Text}

/-- The second world holds the tree of the first: the same directories, which list the same names
    in the same order, and the same files with the same contents. All else is the same as well, but
    for the record of calls. -/
def SameTree (w w' : Keyed) : Prop :=
  ∃ dirs calls, w' = { w with dirs, calls } ∧ ∀ d, valueOf? d dirs = w.names? d

/-- A directory of the second world that the first has not. -/
def IsNew (w w' : Keyed) (d : Path) : Prop := w'.hasDir d = true ∧ w.hasDir d = false

/-- The shortest of the new directories. -/
structure IsFirstNew (w w' : Keyed) (d : Path) : Prop where
  isNew : w.IsNew w' d
  shortest : ∀ q, w.IsNew w' q → q ≠ d → d.length < q.length

namespace SameTree

theorem of_calls (w : Keyed) (calls : List Request) : w.SameTree { w with calls } :=
  ⟨w.dirs, calls, rfl, fun _ => rfl⟩

theorem refl (w : Keyed) : w.SameTree w := of_calls w w.calls

theorem trans (h : w.SameTree w') (h' : w'.SameTree w'') : w.SameTree w'' := by
  rcases h with ⟨dirs, calls, rfl, hdirs⟩
  rcases h' with ⟨dirs', calls', rfl, hdirs'⟩
  exact ⟨dirs', calls', rfl, fun d => (hdirs' d).trans (hdirs d)⟩

theorem names? (h : w.SameTree w') (d : Path) : w'.names? d = w.names? d := by
  rcases h with ⟨dirs, calls, rfl, hdirs⟩
  exact hdirs d

theorem hasDir (h : w.SameTree w') (d : Path) : w'.hasDir d = w.hasDir d :=
  congrArg Option.isSome (h.names? d)

theorem isNew (h : w'.SameTree w'') (q : Path) (hq : w.IsNew w'' q) : w.IsNew w' q :=
  ⟨(h.hasDir q).symm.trans hq.1, hq.2⟩

theorem denied (h : w.SameTree w') : w'.denied = w.denied := by
  rcases h with ⟨dirs, calls, rfl, _⟩
  rfl

theorem readonly (h : w.SameTree w') : w'.readonly = w.readonly := by
  rcases h with ⟨dirs, calls, rfl, _⟩
  rfl

theorem faults (h : w.SameTree w') : w'.faults = w.faults := by
  rcases h with ⟨dirs, calls, rfl, _⟩
  rfl

theorem ordinary (h : w.SameTree w') (hw : w.Ordinary) : w'.Ordinary := by
  have hp : Pruned w (fun _ => False) w' := by
    rcases h with ⟨dirs, calls, rfl, hdirs⟩
    refine ⟨fun d hd => absurd hd not_false, fun d _ => ?_, fun f hf => absurd hf not_false,
      fun f _ => rfl, rfl, rfl, rfl⟩
    refine (hdirs d).trans ?_
    cases w.names? d with
    | none => rfl
    | some names => rw [Option.map_some, remaining_eq_self _ d names (fun _ _ => not_false)]
  exact hp.ordinary hw (fun _ _ hg => absurd hg not_false)

end SameTree

/-- The second world is the first with a directory that has been made in another one. Its key has no
    fault, and the other one may be changed. -/
structure Makes (w : Keyed) (d n : Text) (w' : Keyed) : Prop where
  faultless : valueOf? (child d n) w.faults = none
  free : d ∉ w.readonly
  fileless : w.hasFile (child d n) = false
  adds : w.AddsEntry d n true w'
  frame : ∃ dirs calls, w' = { w with dirs, calls }

theorem AddsEntry.of_calls {calls : List Request}
    (h : ({ w with calls } : Keyed).AddsEntry d n true w') : w.AddsEntry d n true w' :=
  ⟨h.above, h.name, h.fresh, h.names, h.file⟩

/-- What a request does that makes a directory. -/
theorem makes_of_settled (w : Keyed) (d n : Text) (hd : Path.InTree d) (hn : IsName n)
    (hnormal : Path.normalize (child d n) = child d n)
    (hok : ((Request.mkdir (child d n)).settled w).1 = .ok ()) :
    w.Makes d n ((Request.mkdir (child d n)).settled w).2 := by
  rcases w.settled_mkdir_ok _ hnormal hok with ⟨hmade, hfault, hnew, habove, hfree⟩
  rw [has, Bool.or_eq_false_iff] at hnew
  rw [Path.parent_child d n hn.no_slash (Path.InTree.ne_here d hd)] at habove hfree
  have hadds := addDir_adds (w.record (.mkdir (child d n))) d n hd hn hnew.1 habove
  rcases addDirWithin_frame ((child d n).length + 1) (child d n)
    (w.record (.mkdir (child d n))) with ⟨dirs, hdirs⟩
  rw [hmade]
  exact ⟨hfault, hfree, hnew.2, hadds.of_calls, dirs, _, hdirs⟩

namespace Makes

/-- Recorded calls do not matter to what is made. -/
theorem of_calls {calls : List Request} (h : ({ w with calls } : Keyed).Makes d n w') :
    w.Makes d n w' := by
  rcases h.frame with ⟨dirs, calls', hframe⟩
  exact ⟨h.faultless, h.free, h.fileless, h.adds.of_calls, dirs, calls', hframe⟩

theorem ordinary (h : w.Makes d n w') (hw : w.Ordinary) (hkey : Path.IsOrdinary (child d n)) :
    w'.Ordinary := by
  have hleft := h.adds.coherent hw.coherent h.fileless hkey.regular
  have hkeys : ∀ k, w'.has k = true → Path.IsOrdinary k := by
    intro k hk
    rcases (h.adds.has_iff k).mp hk with hk | hk
    · exact hw.ordinary_key k hk
    · rw [hk]
      exact hkey
  exact ⟨fun k hk => (hkeys k hk).normal, fun k hk => (hkeys k hk).no_share,
    fun k hk => (hkeys k hk).plain, hleft.above, hleft.entry, hleft.apart, hleft.no_marks⟩

theorem names_new (h : w.Makes d n w') : w'.names? (child d n) = some [] := by
  rw [h.adds.names, if_pos ⟨rfl, rfl⟩]

theorem names_other (h : w.Makes d n w') (q : Path) (hd : q ≠ d) (hnew : q ≠ child d n) :
    w'.names? q = w.names? q := by
  rw [h.adds.names, if_neg (fun hc => hnew hc.2), show (fun names : List Text =>
    if q = d then names ++ [n] else names) = id from funext fun _ => if_neg hd, Option.map_id]
  rfl

theorem denied (h : w.Makes d n w') : w'.denied = w.denied := by
  rcases h.frame with ⟨dirs, calls, hframe⟩
  rw [hframe]

theorem readonly (h : w.Makes d n w') : w'.readonly = w.readonly := by
  rcases h.frame with ⟨dirs, calls, hframe⟩
  rw [hframe]

theorem faults (h : w.Makes d n w') : w'.faults = w.faults := by
  rcases h.frame with ⟨dirs, calls, hframe⟩
  rw [hframe]

/-- There is nothing below a directory that has just been made. -/
theorem hasDir_below (h : w.Makes d n w') (hw : w'.Ordinary) (q : Path)
    (hq : Below (child d n) q) : w'.hasDir q = false := by
  refine Bool.eq_false_iff.mpr fun hdir => ?_
  rcases hw.entry_above _ q (w'.has_of_hasDir q hdir) hq with ⟨names, k, hlisted, hk, _⟩
  rw [h.names_new, Option.some.injEq] at hlisted
  rw [← hlisted] at hk
  exact List.not_mem_nil hk

/-- What is new after that is also new since before. -/
theorem isNew (h : w.Makes d n w₁) (q : Path) (hq : w₁.IsNew w' q) : w.IsNew w' q := by
  refine ⟨hq.1, Bool.eq_false_iff.mpr fun hold => ?_⟩
  exact Bool.false_ne_true (hq.2.symm.trans (h.adds.hasDir_of q hold))

/-- Without the key of the new directory and without its name, which is listed last, the table
    lists what it listed before. -/
theorem names_unlisted (h : w.Makes d n w') (hw : w.Coherent) (dirs : List (Path × List Text))
    (hdirs : ∀ q, valueOf? q dirs = w'.names? q) (q : Path) :
    valueOf? q (unlisted (dropKey (child d n) dirs) d n) = w.names? q := by
  rcases (w.hasDir_iff d).mp h.adds.above with ⟨old, hold⟩
  refine (valueOf?_changed _ d q (List.erase · n)).trans ?_
  rw [valueOf?_dropKey]
  by_cases hq : q = child d n
  · rw [if_pos hq, Option.map_none, hq]
    exact (Option.not_isSome_iff_eq_none.mp (Bool.eq_false_iff.mp h.adds.fresh)).symm
  · rw [if_neg hq, hdirs, h.adds.names, if_neg fun hc => hq hc.2, Option.map_map]
    by_cases hqd : q = d
    · rw [hqd, hold, Option.map_some, Function.comp_apply, if_pos rfl, if_pos rfl,
        List.erase_append_right _ (h.adds.not_listed hw h.fileless old hold),
        List.erase_cons_head, List.append_nil]
    · simp only [hqd, if_false]
      cases w.names? q with
      | none => rfl
      | some names => rfl

/-- A directory that has been made is removed again, as long as the tree is what it was then. After
    that the tree is what it was before. -/
theorem undone (h : w.Makes d n w') (hw : w.Coherent)
    (hnormal : Path.normalize (child d n) = child d n) (hsame : w'.SameTree w'') :
    ((Request.rmdir (child d n)).settled w'').1 = .ok () ∧
      w.SameTree ((Request.rmdir (child d n)).settled w'').2 := by
  have hname := h.adds.name
  rcases (w.hasDir_iff d).mp h.adds.above with ⟨old, hold⟩
  have htree := hw.inTree_of_names d old hold
  have hparent := Path.parent_child d n hname.no_slash (Path.InTree.ne_here d htree)
  have hlast := Path.name_child d n hname.no_slash
  have hne : d ≠ child d n := fun hc => Path.not_within_of_below d _
    (Path.below_self_child d n hname.ne_nil hname.no_slash) (Or.inl hc)
  have hempty := (hsame.names? _).trans h.names_new
  have habove := (hsame.names? d).trans (h.adds.names_kept d old hold)
  rw [if_pos rfl] at habove
  have hfault : valueOf? (child d n) w''.faults = none := by
    rw [hsame.faults, h.faults]
    exact h.faultless
  have hfree : parent (child d n) ∉ w''.readonly := by
    rw [hparent, hsame.readonly, h.readonly]
    exact h.free
  -- The key goes from the table, and its name from the directory above, which lists it last.
  have hlists : valueOf? (parent (child d n)) (dropKey (child d n) w''.dirs) =
      some (old ++ [n]) := by
    rw [hparent, valueOf?_dropKey, if_neg hne]
    exact habove
  have hlisted : name (child d n) ∈ old ++ [n] := by
    rw [hlast]
    exact List.mem_append_right _ (List.mem_singleton_self n)
  rw [w''.settled_rmdir_empty _ hnormal hfault hfree hempty,
    unlink_listed { w'' with
      dirs := dropKey (child d n) w''.dirs
      calls := .rmdir (child d n) :: w''.calls } _ _ hlists hlisted, hparent, hlast]
  refine ⟨rfl, unlisted (dropKey (child d n) w''.dirs) d n, .rmdir (child d n) :: w''.calls, ?_,
    h.names_unlisted hw w''.dirs hsame.names?⟩
  rcases h.frame with ⟨_, _, rfl⟩
  rcases hsame with ⟨_, _, rfl, _⟩
  rfl

end Makes

/-- The second world is the first with directories that have been made one in another, the first of
    them in a directory that was there. -/
inductive GrowsLine : Keyed → Path → List Text → Keyed → Prop where
  | done {w w' : Keyed} {d : Path} (same : w.SameTree w') : GrowsLine w d [] w'
  | step {w w₁ w' : Keyed} {d : Path} {n : Text} {more : List Text} (first : w.Makes d n w₁)
      (rest : GrowsLine w₁ (child d n) more w') : GrowsLine w d (n :: more) w'

namespace GrowsLine

variable {names more : List Text}

theorem same (h : GrowsLine w d names w') (hs : w'.SameTree w'') : GrowsLine w d names w'' := by
  induction h with
  | done hsame => exact .done (hsame.trans hs)
  | step first _ ih => exact .step first (ih hs)

theorem of_calls {calls : List Request} (h : GrowsLine { w with calls } d names w') :
    GrowsLine w d names w' := by
  cases h with
  | done hsame => exact .done ((SameTree.of_calls w calls).trans hsame)
  | step first rest => exact .step first.of_calls rest

theorem isName (h : GrowsLine w d names w') : ∀ n ∈ names, IsName n := by
  induction h with
  | done _ => exact fun n hn => absurd hn List.not_mem_nil
  | step first _ ih =>
      intro m hm
      rcases List.mem_cons.mp hm with hm | hm
      · rw [hm]
        exact first.adds.name
      · exact ih m hm

theorem denied (h : GrowsLine w d names w') : w'.denied = w.denied := by
  induction h with
  | done hsame => exact hsame.denied
  | step first _ ih => rw [ih, first.denied]

theorem faults (h : GrowsLine w d names w') : w'.faults = w.faults := by
  induction h with
  | done hsame => exact hsame.faults
  | step first _ ih => rw [ih, first.faults]

/-- A line changes nothing but the directory that it starts in and what is below. -/
theorem names_outside (h : GrowsLine w d names w') (q : Path) (hq : ¬ Within d q) :
    w'.names? q = w.names? q := by
  induction h with
  | done hsame => exact hsame.names? q
  | @step w w₁ w' d n more first rest ih =>
      have hbelow := Path.below_self_child d n first.adds.name.ne_nil first.adds.name.no_slash
      rw [ih (fun hc => hq (Or.inr ?_)), first.names_other q (fun hc => hq (Or.inl hc))
        (fun hc => hq (Or.inr (by rw [hc]; exact hbelow)))]
      rcases hc with hc | hc
      · rw [hc]
        exact hbelow
      · exact Path.below_trans d _ q hbelow hc

/-- The directory that a line starts in keeps its names, and lists the first directory of the line
    behind them. -/
theorem names_start (h : GrowsLine w d (n :: more) w') (old : List Text)
    (hold : w.names? d = some old) : w'.names? d = some (old ++ [n]) := by
  cases h with
  | step first rest =>
      have hbelow := Path.below_self_child d n first.adds.name.ne_nil first.adds.name.no_slash
      have houtside := Path.not_within_of_below d _ hbelow
      rw [rest.names_outside d houtside, first.adds.names,
        if_neg (fun hc => houtside (Or.inl hc.2)), hold, Option.map_some, if_pos rfl]

/-- The first directory of a line lists the second, and nothing if there is none. -/
theorem names_first (h : GrowsLine w d (n :: more) w') :
    w'.names? (child d n) = some (more.head?.toList) := by
  cases h with
  | step first rest =>
      cases more with
      | nil =>
          cases rest with
          | done hsame => rw [hsame.names?, first.names_new]; rfl
      | cons m others => exact rest.names_start [] first.names_new

/-- The first directory of a line can be listed, unless it is denied. -/
theorem mayList_first (h : GrowsLine w d (n :: more) w') (hopen : child d n ∉ w.denied) :
    w'.mayList (child d n) = true := by
  have hfault : valueOf? (child d n) w.faults = none := by
    cases h with
    | step first _ => exact first.faultless
  rw [mayList, h.faults, hfault, h.denied, Option.isNone_none, Bool.true_and, Bool.not_eq_true',
    ← Bool.not_eq_true, List.elem_iff]
  exact hopen

/-- A line starts in a directory that was there. -/
theorem above (h : GrowsLine w d (n :: more) w') : w.hasDir d = true := by
  cases h with
  | step first _ => exact first.adds.above

theorem hasDir_of (h : GrowsLine w d names w') (q : Path) (hq : w.hasDir q = true) :
    w'.hasDir q = true := by
  induction h with
  | done hsame => rw [hsame.hasDir, hq]
  | step first _ ih => exact ih (first.adds.hasDir_of q hq)

/-- The directories of a line are its first one and others below that. -/
theorem hasDir_cases (h : GrowsLine w d (n :: more) w') (q : Path) (hq : w'.hasDir q = true) :
    w.hasDir q = true ∨ Within (child d n) q := by
  cases h with
  | step first rest =>
      by_cases hwithin : Within (child d n) q
      · exact Or.inr hwithin
      · left
        have hnew := first.adds.hasDir_eq q
        rw [Bool.true_and, decide_eq_false (fun hc => hwithin (Or.inl hc)), Bool.or_false] at hnew
        rw [← hnew, ← hq]
        exact (congrArg Option.isSome (rest.names_outside q hwithin)).symm

theorem hasDir_line (h : GrowsLine w d names w') (hd : w.hasDir d = true) :
    w'.hasDir (Path.line d names) = true := by
  induction h with
  | done hsame => rw [Path.line, List.foldl_nil, hsame.hasDir, hd]
  | step first _ ih => exact ih (by rw [first.adds.hasDir_eq, decide_eq_true rfl, Bool.true_and,
      Bool.or_true])

/-- The first directory of a line is the shortest that is new. -/
theorem isFirstNew (h : GrowsLine w d (n :: more) w') : w.IsFirstNew w' (child d n) := by
  refine ⟨⟨(w'.hasDir_iff _).mpr ⟨_, h.names_first⟩, ?_⟩, fun q hq hne => ?_⟩
  · cases h with
    | step first _ => exact first.adds.fresh
  · rcases h.hasDir_cases q hq.1 with hold | hwithin
    · exact absurd (hold.symm.trans hq.2) (by decide)
    · exact Path.below_length _ _ (hwithin.resolve_left hne)

/-- A line that ends in an ordinary path leaves an ordinary world. -/
theorem ordinary (h : GrowsLine w d names w') (hw : w.Ordinary)
    (hkey : Path.IsOrdinary (Path.line d names)) : w'.Ordinary := by
  induction h with
  | done hsame => exact hsame.ordinary hw
  | @step w w₁ w' d n more first rest ih =>
      have hwithin : Within (child d n) (Path.line (child d n) more) :=
        Path.within_line _ more rest.isName
      exact ih (first.ordinary hw (Path.IsOrdinary.of_within _ _ hkey hwithin)) hkey

end GrowsLine

end Keyed

end Maskwalk
