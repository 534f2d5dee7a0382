import Maskwalk.Path.Basic
import Mathlib.Data.List.Nodup
import Mathlib.Logic.Relation

/-!
# Crawls

A crawl reads files that name other files, and gives out the lines of each. It keeps a list of what
is left to do, lines and files in the order in which they stand, and a list of the files it has come
to. A line is given out, a file that it knows is passed over, and a file that is new is put in the
place of its name, line by line. No file is read twice, so a crawl ends also where files name each
other.

A crawl is a relation between the work at its start, the files known then, what it gives out and the
files it reads. What holds of every crawl is shown by one induction on its steps: the files that it
reads are new and each is read once; all that is named in the work or in a file it reads is known in
the end; and every line it gives out is one of the work or of a file that it reads, in its place.
From a single file, with nothing known before, a crawl reads just the files that are reached.

What is in a file is a parameter here, and no world is looked at.

## Main definitions

* `Item`: a line to give out, or a file to read.
* `Crawl`: the steps of a crawl.
* `Crawl.Names`: one file names another.

## Theorems

* `Crawl.append`: Crawls follow each other.
* `Crawl.nodup`, `Crawl.reached`, `Crawl.closed`: The files that are read.
* `Crawl.lines_of_file`, `Crawl.perm`: The lines that are given out.
* `Crawl.mem_iff_reached`: A crawl from one file reads what is reached from there.
-/

namespace Maskwalk

open Relation (ReflTransGen)

/-- Something that is left to do in a crawl: a line to give out, with the file it stands in, or a
    file to read. -/
inductive Item where
  | line (owner : Path) (text : Text)
  | file (path : Path)
  deriving DecidableEq

/-- The line that an item is. -/
def Item.line? : Item → Option (Path × Text)
  | .line owner text => some (owner, text)
  | .file _ => none

/-- A crawl through some work, with certain files known before: the lines it gives out, each with
    its file, and the files it reads. What is in a file takes the place of its name. -/
inductive Crawl (load : Path → List Item) :
    List Item → List Path → List (Path × Text) → List Path → Prop where
  | nil {seen : List Path} : Crawl load [] seen [] []
  | line {owner : Path} {text : Text} {more : List Item} {seen : List Path}
      {out : List (Path × Text)} {files : List Path} (rest : Crawl load more seen out files) :
      Crawl load (.line owner text :: more) seen ((owner, text) :: out) files
  | known {f : Path} {more : List Item} {seen : List Path} {out : List (Path × Text)}
      {files : List Path} (old : f ∈ seen) (rest : Crawl load more seen out files) :
      Crawl load (.file f :: more) seen out files
  | fresh {f : Path} {more : List Item} {seen : List Path} {out : List (Path × Text)}
      {files : List Path} (new : f ∉ seen)
      (rest : Crawl load (load f ++ more) (f :: seen) out files) :
      Crawl load (.file f :: more) seen out (f :: files)

namespace Crawl

variable {load : Path → List Item} {work : List Item} {seen : List Path}
  {out : List (Path × Text)} {files : List Path}

/-- One file names another. -/
def Names (load : Path → List Item) (f g : Path) : Prop := .file g ∈ load f

/-- Work behind other work is crawled through with the files known that were read before. -/
theorem append (h : Crawl load work seen out files) {work' : List Item}
    {out' : List (Path × Text)} {files' : List Path}
    (h' : Crawl load work' (files.reverse ++ seen) out' files') :
    Crawl load (work ++ work') seen (out ++ out') (files ++ files') := by
  induction h with
  | nil => exact h'
  | line rest ih => exact (ih h').line
  | known old rest ih => exact (ih h').known old
  | fresh new rest ih =>
      refine Crawl.fresh new ?_
      change Crawl load (_ ++ (_ ++ work')) _ _ _
      rw [← List.append_assoc]
      refine ih ?_
      rw [List.reverse_cons, List.append_assoc] at h'
      exact h'

/-- A crawl reads files that it did not know, each of them once. -/
theorem nodup (h : Crawl load work seen out files) : files.Nodup ∧ ∀ f ∈ files, f ∉ seen := by
  induction h with
  | nil => exact ⟨List.nodup_nil, fun f hf => absurd hf List.not_mem_nil⟩
  | line rest ih => exact ih
  | known old rest ih => exact ih
  | @fresh f more seen out files new rest ih =>
      -- With a file known from now on, the files that are read later are others.
      have hother : ∀ g ∈ files, g ≠ f ∧ g ∉ seen := fun g hg =>
        not_or.mp (fun hc => ih.2 g hg (List.mem_cons.mpr hc))
      refine ⟨List.nodup_cons.mpr ⟨fun hf => (hother f hf).1 rfl, ih.1⟩, fun g hg => ?_⟩
      rcases List.mem_cons.mp hg with hg | hg
      · rw [hg]
        exact new
      · exact (hother g hg).2

/-- What a crawl reads is reached from a file in its work. -/
theorem reached (h : Crawl load work seen out files) :
    ∀ f ∈ files, ∃ g, .file g ∈ work ∧ ReflTransGen (Names load) g f := by
  induction h with
  | nil => exact fun f hf => absurd hf List.not_mem_nil
  | line rest ih =>
      intro f hf
      rcases ih f hf with ⟨g, hg, hway⟩
      exact ⟨g, List.mem_cons_of_mem _ hg, hway⟩
  | known old rest ih =>
      intro f hf
      rcases ih f hf with ⟨g, hg, hway⟩
      exact ⟨g, List.mem_cons_of_mem _ hg, hway⟩
  | @fresh top more seen out files new rest ih =>
      intro f hf
      rcases List.mem_cons.mp hf with hf | hf
      · rw [hf]
        exact ⟨top, List.mem_cons_self, ReflTransGen.refl⟩
      · rcases ih f hf with ⟨g, hg, hway⟩
        rcases List.mem_append.mp hg with hg | hg
        · exact ⟨top, List.mem_cons_self, ReflTransGen.head hg hway⟩
        · exact ⟨g, List.mem_cons_of_mem _ hg, hway⟩

/-- In the end all files in the work are known, and all that are named by what was read. -/
theorem closed (h : Crawl load work seen out files) :
    (∀ g, .file g ∈ work → g ∈ seen ∨ g ∈ files) ∧
      ∀ f ∈ files, ∀ g, Names load f g → g ∈ seen ∨ g ∈ files := by
  induction h with
  | nil => exact ⟨fun g hg => absurd hg List.not_mem_nil, fun f hf => absurd hf List.not_mem_nil⟩
  | line rest ih =>
      refine ⟨fun g hg => ih.1 g ?_, ih.2⟩
      exact (List.mem_cons.mp hg).resolve_left (by simp only [reduceCtorEq, not_false_eq_true])
  | known old rest ih =>
      refine ⟨fun g hg => ?_, ih.2⟩
      rcases List.mem_cons.mp hg with hg | hg
      · rw [Item.file.injEq] at hg
        rw [hg]
        exact Or.inl old
      · exact ih.1 g hg
  | @fresh top more seen out files new rest ih =>
      -- What was known with the new file counted in is known before or read now.
      have hmove : ∀ g, g ∈ top :: seen ∨ g ∈ files → g ∈ seen ∨ g ∈ top :: files := by
        intro g hg
        simp only [List.mem_cons] at hg ⊢
        tauto
      refine ⟨fun g hg => hmove g ?_, fun f hf g hg => hmove g ?_⟩
      · rcases List.mem_cons.mp hg with hg | hg
        · rw [Item.file.injEq] at hg
          rw [hg]
          exact Or.inl List.mem_cons_self
        · exact ih.1 g (List.mem_append_right _ hg)
      · rcases List.mem_cons.mp hf with hf | hf
        · rw [hf] at hg
          exact ih.1 g (List.mem_append_left _ hg)
        · exact ih.2 f hf g hg

/-- A crawl gives out the lines of its work and of the files that it reads, none lost and none
    twice. -/
theorem perm (h : Crawl load work seen out files) : out.Perm
    (work.filterMap Item.line? ++ files.flatMap fun f => (load f).filterMap Item.line?) := by
  induction h with
  | nil => exact List.Perm.nil
  | line rest ih => exact ih.cons _
  | known old rest ih => exact ih
  | @fresh f more seen out files new rest ih =>
      refine ih.trans ?_
      rw [List.filterMap_append, List.flatMap_cons]
      -- The lines of the file come first in the work, and behind that of the work in the sum.
      have hlines : ((load f).filterMap Item.line? ++ more.filterMap Item.line?).Perm
          (more.filterMap Item.line? ++ (load f).filterMap Item.line?) := List.perm_append_comm
      have hswap := hlines.append_right (files.flatMap fun f => (load f).filterMap Item.line?)
      rw [List.append_assoc (more.filterMap Item.line?)] at hswap
      exact hswap

section

variable (hload : ∀ f, ∀ line ∈ (load f).filterMap Item.line?, line.1 = f)

include hload

/-- The lines of a file are given out in their order: those that are in the work, and then, if the
    file is read, all that are in it. Lines in the work are of files that are known. -/
theorem lines_of_file (h : Crawl load work seen out files)
    (hwork : ∀ line ∈ work.filterMap Item.line?, line.1 ∈ seen) (f : Path) :
    out.filter (·.1 = f) = (work.filterMap Item.line?).filter (·.1 = f) ++
      if f ∈ files then (load f).filterMap Item.line? else [] := by
  induction h with
  | nil => rfl
  | @line owner text more seen out files rest ih =>
      have hmore := ih fun line hline => hwork line (List.mem_cons_of_mem _ hline)
      change List.filter _ _ = List.filter _ ((owner, text) :: more.filterMap Item.line?) ++ _
      rw [List.filter_cons, List.filter_cons, hmore]
      split
      · rfl
      · rfl
  | known old rest ih => exact ih hwork
  | @fresh top more seen out files new rest ih =>
      have hmore : ∀ line ∈ more.filterMap Item.line?, line.1 ∈ seen := hwork
      have hall := ih (fun line hline => by
        rw [List.filterMap_append] at hline
        rcases List.mem_append.mp hline with hline | hline
        · rw [hload top line hline]
          exact List.mem_cons_self
        · exact List.mem_cons_of_mem _ (hmore line hline))
      rw [hall, List.filterMap_append, List.filter_append]
      change _ = (more.filterMap Item.line?).filter _ ++ _
      by_cases hf : f = top
      -- The file itself: its lines are all in the place of its name, and nowhere else.
      · have hown : ((load top).filterMap Item.line?).filter (·.1 = f)
            = (load top).filterMap Item.line? := by
          rw [List.filter_eq_self]
          exact fun line hline => decide_eq_true ((hload top line hline).trans hf.symm)
        have hnone : (more.filterMap Item.line?).filter (·.1 = f) = [] := by
          rw [List.filter_eq_nil_iff]
          intro line hline heq
          exact new (by rw [← hf, ← of_decide_eq_true heq]; exact hmore line hline)
        have hlater : f ∉ files := fun hmem => rest.nodup.2 f hmem (by
          rw [hf]
          exact List.mem_cons_self)
        rw [hown, hnone, if_neg hlater, if_pos (by rw [hf]; exact List.mem_cons_self), hf,
          List.append_nil, List.append_nil, List.nil_append]
      · have hother : ((load top).filterMap Item.line?).filter (·.1 = f) = [] := by
          rw [List.filter_eq_nil_iff]
          intro line hline heq
          exact hf ((of_decide_eq_true heq).symm.trans (hload top line hline))
        have hmem : f ∈ top :: files ↔ f ∈ files := by
          rw [List.mem_cons, or_iff_right hf]
        rw [hother, List.nil_append]
        simp only [hmem]

end

/-- From one file, with nothing known before, a crawl reads just what is reached from there. -/
theorem mem_iff_reached {start : Path} (h : Crawl load [.file start] [] out files) (f : Path) :
    f ∈ files ↔ ReflTransGen (Names load) start f := by
  constructor
  · intro hf
    rcases h.reached f hf with ⟨g, hg, hway⟩
    rw [List.mem_singleton, Item.file.injEq] at hg
    rw [hg] at hway
    exact hway
  · intro hway
    -- The start is read, and with every file those that it names.
    induction hway with
    | refl => exact (h.closed.1 start List.mem_cons_self).resolve_left List.not_mem_nil
    | tail _ hstep ih => exact (h.closed.2 _ ih _ hstep).resolve_left List.not_mem_nil

end Crawl

end Maskwalk
