import Maskwalk.Proofs.Asking
import Maskwalk.Proofs.Walk.Descent
import Maskwalk.Proofs.World.Consistent
import Maskwalk.Proofs.World.Pruned
import Mathlib.Data.List.TakeWhile

/-!
# Worlds with markers

A directory can list markers for itself and for the one above it in front of its entries. Walks do
not go on into markers, so in a world that is ordinary but for these they go down as in an ordinary
one.

Of such a world only what bears on its directories is kept here, in a form that no removal takes
away: `Marked` says that the directories are at proper keys, and that the names in each, but for
markers, lead to its entries. It says nothing of whether the entries are there.
So it holds still of a world in which directories, files and names are missing, in whatever way
these were lost. `Thinned` is the relation of a world to such a one, and all requests but those that
make directories lead from a world to one of these.

## Main definitions

* `Keyed.unmarked`: a world without the markers at the front of its listings.
* `Keyed.Marked`: a world in which walks go down, markers or not.
* `Keyed.Thinned`: a world without some directories and names.
* `Terms.thinning`: no making of directories.

## Theorems

* `Ordinary.marked`: A world that is ordinary but for its markers is marked.
* `Marked.descends`: In a marked world walks go down.
* `Thinned.marked`: A marked world stays so when something is lost.
* `thinned_upheld`: Without making of directories things are only lost.
-/

namespace Maskwalk

open Maskwalk.Path (child)

namespace Keyed

/-- A world without the markers at the front of its listings. -/
def unmarked (w : Keyed) : Keyed :=
  { w with dirs := w.dirs.map fun entry => (entry.1, entry.2.dropWhile isMark) }

/-- A world in which walks go down: its directories are at proper keys, and each lists names that
    lead to its entries, and besides nothing but markers. -/
structure Marked (w : Keyed) : Prop where
  proper : ∀ d names, w.names? d = some names → Path.Proper d
  leads : ∀ d names, w.names? d = some names → ∀ n ∈ names, isMark n = false → Path.Leads d n

theorem names?_unmarked (w : Keyed) (d : Path) :
    w.unmarked.names? d = (w.names? d).map (List.dropWhile isMark) :=
  valueOf?_mapped w.dirs d fun _ names => names.dropWhile isMark

/-- A name that is no marker is not dropped with the markers. -/
theorem mem_dropWhile_isMark (names : List Text) (n : Text) (hn : n ∈ names)
    (hmark : isMark n = false) : n ∈ names.dropWhile isMark := by
  rw [← List.takeWhile_append_dropWhile (p := isMark) (l := names), List.mem_append] at hn
  rcases hn with hn | hn
  · have hall := List.all_eq_true.mp List.all_takeWhile n hn
    rw [hmark] at hall
    exact absurd hall Bool.false_ne_true
  · exact hn

/-- A world that is ordinary but for its markers is marked. -/
theorem Ordinary.marked {w : Keyed} (h : w.unmarked.Ordinary) : w.Marked := by
  have hnames : ∀ d names, w.names? d = some names →
      w.unmarked.names? d = some (names.dropWhile isMark) := by
    intro d names hd
    rw [names?_unmarked, hd]
    rfl
  refine ⟨fun d names hd => ?_, fun d names hd n hn hmark => ?_⟩
  · exact h.proper d (w.unmarked.has_of_hasDir d
      ((w.unmarked.hasDir_iff d).mpr ⟨_, hnames d names hd⟩))
  · exact h.leads d _ n (hnames d names hd) (mem_dropWhile_isMark names n hn hmark)

/-- In front of a marker there are only markers. -/
theorem Ordinary.marks_before {w : Keyed} (h : w.unmarked.Ordinary) (d : Path)
    (names before after : List Text) (n : Text) (hd : w.names? d = some names)
    (hsplit : names = before ++ n :: after) (hn : isMark n = true) :
    ∀ x ∈ before, isMark x = true := by
  have hrest := h.no_marks d (names.dropWhile isMark) (by rw [names?_unmarked, hd]; rfl)
  rw [← List.dropWhile_eq_nil_iff]
  by_contra hne
  have hmem : n ∈ names.dropWhile isMark := by
    rw [hsplit, List.dropWhile_append, if_neg (by rwa [List.isEmpty_iff])]
    exact List.mem_append_right _ List.mem_cons_self
  rw [hrest n hmem] at hn
  exact Bool.false_ne_true hn

namespace Marked

variable {w : Keyed} (h : w.Marked)

include h

theorem proper_of_hasDir (d : Path) (hd : w.hasDir d = true) : Path.Proper d := by
  rcases (w.hasDir_iff d).mp hd with ⟨names, hnames⟩
  exact h.proper d names hnames

theorem proper_of_shown (d : Path) (n : Text) (hn : n ∈ w.shown d) : Path.Proper d := by
  rcases w.names_of_shown d n hn with ⟨names, hnames, _⟩
  exact h.proper d names hnames

/-- A name that is shown and is no marker leads to the entry of that name. -/
theorem shown_leads (d : Path) (n : Text) (hn : n ∈ w.shown d) (hmark : isMark n = false) :
    Path.Leads d n := by
  rcases w.names_of_shown d n hn with ⟨names, hnames, hmem⟩
  exact h.leads d names hnames n hmem hmark

/-- What is entered is a directory at the key of an entry. -/
theorem entered_cases (s : Selection) (d c : Path) (hd : Path.normalize d = d)
    (hc : c ∈ w.entered s d) : ∃ n, Path.Leads d n ∧ c = child d n ∧ w.hasDir c = true := by
  rcases (w.mem_entered s d c).mp hc with ⟨n, hn, henters, hcn⟩
  rw [hd] at hn henters
  have hmark : isMark n = false := by
    rw [Selection.enters, w.entryOf_name, Bool.and_eq_true, Bool.and_eq_true,
      Bool.not_eq_true'] at henters
    exact henters.1.2
  have hl := h.shown_leads d n hn hmark
  have hjoin := Path.join_child d n (h.proper_of_shown d n hn) hl
  rw [Selection.enters, w.entryOf_of_not_mark d n hmark, Bool.and_eq_true,
    Bool.and_eq_true] at henters
  rw [hcn]
  exact ⟨n, hl, hjoin, henters.1.1⟩

/-- In a marked world walks go down. -/
theorem descends (s : Selection) : w.Descends s := by
  refine ⟨fun d c hd hc => ?_, fun d c hd hc => ?_, fun d c hd hc => ?_⟩
  · rcases h.entered_cases s d c hd hc with ⟨n, hl, hcn, _⟩
    exact ⟨n, hl.toIsName, hcn⟩
  · rcases h.entered_cases s d c hd hc with ⟨_, _, _, hdir⟩
    exact Path.normalize_proper c (h.proper_of_hasDir c hdir)
  · rcases h.entered_cases s d c hd hc with ⟨_, _, _, hdir⟩
    exact hdir

end Marked

/-- The second world is the first, perhaps without some directories and without some names in the
    listings of the others. -/
def Thinned (w w' : Keyed) : Prop :=
  ∀ d names', w'.names? d = some names' → ∃ names, w.names? d = some names ∧ names'.Sublist names

namespace Thinned

variable {w w' w'' : Keyed}

theorem of_calls (w : Keyed) (calls : List Request) : w.Thinned { w with calls } :=
  fun _ names hd => ⟨names, hd, List.Sublist.refl names⟩

theorem trans (h : w.Thinned w') (h' : w'.Thinned w'') : w.Thinned w'' := by
  intro d names'' hd
  rcases h' d names'' hd with ⟨names', hd', hsub'⟩
  rcases h d names' hd' with ⟨names, hd'', hsub⟩
  exact ⟨names, hd'', hsub'.trans hsub⟩

theorem hasDir (h : w.Thinned w') (d : Path) (hd : w'.hasDir d = true) : w.hasDir d = true := by
  rcases (w'.hasDir_iff d).mp hd with ⟨names', hnames'⟩
  rcases h d names' hnames' with ⟨names, hnames, _⟩
  exact (w.hasDir_iff d).mpr ⟨names, hnames⟩

/-- A marked world stays so when something is lost. -/
theorem marked (h : w.Thinned w') (hw : w.Marked) : w'.Marked := by
  refine ⟨fun d names' hd => ?_, fun d names' hd n hn hmark => ?_⟩
  · rcases h d names' hd with ⟨names, hnames, _⟩
    exact hw.proper d names hnames
  · rcases h d names' hd with ⟨names, hnames, hsub⟩
    exact hw.leads d names hnames n (hsub.subset hn) hmark

end Thinned

/-- Taking a key off a list loses a name at most. -/
theorem thinned_unlink (w : Keyed) (k : Path) : w.Thinned (w.unlink k).2 := by
  unfold unlink
  split
  · exact Thinned.of_calls w w.calls
  split
  · intro d names' hd
    change valueOf? d (unlisted w.dirs (parent k) (name k)) = _ at hd
    rw [unlisted, valueOf?_changed w.dirs (parent k) d (List.erase · (name k)),
      Option.map_eq_some_iff] at hd
    rcases hd with ⟨names, hnames, heq⟩
    refine ⟨names, hnames, ?_⟩
    rw [← heq]
    split
    · exact List.erase_sublist
    · exact List.Sublist.refl names
  · exact Thinned.of_calls w w.calls

/-- A request that makes no directory leaves nothing but what was there. -/
theorem thinned_settled (w : Keyed) (q : Request) (hq : ∀ p, q ≠ .mkdir p) :
    w.Thinned (q.settled w).2 := by
  have hquiet : q.isChange = false → w.Thinned (q.settled w).2 := by
    intro hchange
    rcases w.settled_quiet q hchange with ⟨calls, hcalls⟩
    rw [hcalls]
    exact Thinned.of_calls w calls
  have hfaulty : ∀ (q : Request) (k : Path) (reply : Keyed → Except Failure Unit × Keyed),
      (∀ v : Keyed, v.Thinned (reply v).2) → w.Thinned (w.unlessFaulty q k reply).2 := by
    intro q k reply hreply
    unfold unlessFaulty
    split
    · exact Thinned.of_calls w w.calls
    · exact (Thinned.of_calls w (q :: w.calls)).trans (hreply (w.record q))
  cases q with
  | mkdir p => exact absurd rfl (hq p)
  | rmdir p =>
      refine hfaulty _ _ _ fun v => ?_
      unfold rmdir
      split
      · exact Thinned.of_calls v v.calls
      split
      · exact Thinned.of_calls v v.calls
      split
      · exact Thinned.of_calls v v.calls
      -- The directory goes from the table, and its name from the list of the one above.
      · refine Thinned.trans (fun d names hd => ?_) (thinned_unlink _ _)
        change valueOf? d (dropKey _ v.dirs) = some names at hd
        rw [valueOf?_dropKey] at hd
        split at hd
        · exact absurd hd (by simp only [reduceCtorEq, not_false_eq_true])
        · exact ⟨names, hd, List.Sublist.refl names⟩
  | remove p =>
      refine hfaulty _ _ _ fun v => ?_
      unfold remove
      split
      · exact Thinned.of_calls v v.calls
      split
      · exact Thinned.of_calls v v.calls
      · exact thinned_unlink _ _
  | _ => exact hquiet rfl

end Keyed

/-- All requests but those that make a directory, and any replies. -/
def Terms.thinning : Terms where
  may q := ∀ p, q ≠ .mkdir p
  fair _ _ := True

theorem thinning_allowsQueries : Terms.thinning.AllowsQueries := by
  intro q hq p hp
  rw [hp] at hq
  exact Bool.false_ne_true hq.symm

/-- Where no directory is made, a world only loses. -/
theorem thinned_upheld (w : Keyed) : Terms.thinning.Upheld w.Thinned :=
  ⟨fun q v hv hq => hv.trans (v.thinned_settled q hq), fun _ _ _ _ => trivial⟩

end Maskwalk
