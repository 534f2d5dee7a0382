import Maskwalk.Proofs.Search.Crawl
import Maskwalk.Proofs.Walk.Matching
import Maskwalk.Search
import Mathlib.Data.List.Dedup
import Mathlib.Data.List.Perm.Subperm

/-!
# The files of the dynamic linker's configuration

A file of the linker's configuration includes others, so reading it is a crawl. Here the lines of a
file are read off its text without the program: which are plain directories, and which include the
files of a mask. In an ordinary world the program's search is a crawl through these, whatever the
files hold: it may include itself by any way round, files may be unreadable and masks may start in
directories that cannot be listed.

The search counts down how often files include each other. It never counts to the end, since every
file that it has yet to come to is a file of the world or the one it starts with, and there are
fewer of these than the world's depth, in which every listed name counts.

## Main definitions

* `Keyed.conf?`: the text of a configuration file that can be read.
* `plainLine?`, `includeMask?`: what a line of it says.
* `Keyed.Includes`: one file includes another.
* `Attempt.Finds`: an attempt that comes to a result and asks for certain texts.
* `Crawls`: a search that is a crawl.

## Theorems

* `collect_crawls`, `lineDirs_crawls`, `linkerDirsFrom_crawls`: The search is a crawl.
* `Ordinary.length_entryFiles`: There are fewer files than the depth of the world.
* `linkerDirs_exact`: What is read, and which directories are found.
-/

namespace Maskwalk

open Relation (ReflTransGen)

open Attempt

/-- The path of a text that is asked for. -/
def Request.textPath? : Request → Option Path
  | .readText p => some p
  | _ => none

/-- The directory that a line of the linker's configuration names: the line without its comment and
    the blanks around it, if there is something left and its first word is no directive. -/
def plainLine? (line : Text) : Option Text :=
  let line := Text.trim (Text.before (· = '#') line)
  let word := (Text.firstWord line).1
  if line ≠ [] ∧ word ≠ "include".toList ∧ word ≠ "hwcap".toList then some line else none

/-- The mask of the files that a line includes: what follows the word `include`, if there is
    something. -/
def includeMask? (line : Text) : Option Path :=
  let (word, rest) := Text.firstWord (Text.trim (Text.before (· = '#') line))
  if word = "include".toList ∧ rest ≠ [] then some rest else none

/-- A mask in a file, which is relative to the directory of the file. -/
def relativeTo (file mask : Path) : Path :=
  if Path.isAbsolute mask then mask else Path.join (Path.directory file) mask

/-- A line says what its words say. -/
theorem ofLine_cases (line : Text) :
    (∃ t, Directive.ofLine line = .dir t ∧ plainLine? line = some t ∧ includeMask? line = none) ∨
    (∃ mask, Directive.ofLine line = .includes mask ∧ plainLine? line = none ∧
      includeMask? line = some mask) ∨
    ((Directive.ofLine line = .blank ∨ ∃ t, Directive.ofLine line = .skipped t) ∧
      plainLine? line = none ∧ includeMask? line = none) := by
  unfold Directive.ofLine plainLine? includeMask?
  simp only
  generalize Text.trim (Text.before (· = '#') line) = t
  by_cases h0 : t = []
  · exact Or.inr (Or.inr ⟨Or.inl (if_pos h0), if_neg fun h => h.1 h0,
      if_neg fun h => absurd h.1 (by rw [h0]; decide)⟩)
  · by_cases hi : (Text.firstWord t).1 = "include".toList
    · by_cases hr : (Text.firstWord t).2 = []
      · exact Or.inr (Or.inr ⟨Or.inr ⟨t, (if_neg h0).trans ((if_pos hi).trans (if_pos hr))⟩,
          if_neg fun h => h.2.1 hi, if_neg fun h => h.2 hr⟩)
      · exact Or.inr (Or.inl ⟨_, (if_neg h0).trans ((if_pos hi).trans (if_neg hr)),
          if_neg fun h => h.2.1 hi, if_pos ⟨hi, hr⟩⟩)
    · by_cases hh : (Text.firstWord t).1 = "hwcap".toList
      · exact Or.inr (Or.inr ⟨Or.inr ⟨t, (if_neg h0).trans ((if_neg hi).trans (if_pos hh))⟩,
          if_neg fun h => h.2.2 hh, if_neg fun h => hi h.1⟩)
      · exact Or.inl ⟨t, (if_neg h0).trans ((if_neg hi).trans (if_neg hh)), if_pos ⟨h0, hi, hh⟩,
          if_neg fun h => hi h.1⟩

namespace Keyed

variable (w : Keyed) (m : Matcher)

/-- The reply when a text is asked for. -/
def textReply (f : Path) : Except Failure Text :=
  if w.undecodable.elem f then .error (.notText []) else w.readText f

/-- The text of a configuration file, if it can be read. -/
def conf? (f : Path) : Option Text := (w.textReply f).toOption

/-- The directories in a configuration file, in order. -/
def plainLines (f : Path) : List Text :=
  match w.conf? f with
  | none => []
  | some text => (Text.lines text).filterMap plainLine?

/-- One configuration file includes another: a line of it has a mask that the other matches. -/
def Includes (f g : Path) : Prop :=
  ∃ text, w.conf? f = some text ∧ ∃ line ∈ Text.lines text, ∃ mask, includeMask? line = some mask ∧
    ∃ found, ((m.files (relativeTo f mask)).ran w).result = .ok found ∧ g ∈ found

/-- The files that a mask in a file includes. -/
def includedBy (f mask : Path) : List Path :=
  match ((m.files (relativeTo f mask)).ran w).result with
  | .ok found => found
  | .error _ => []

/-- What a line of a file comes to in a crawl. -/
def lineItems (f : Path) (line : Text) : List Item :=
  match Directive.ofLine line with
  | .dir line => [.line f line]
  | .includes mask => (w.includedBy m f mask).map .file
  | .blank | .skipped _ => []

/-- What a file comes to in a crawl. -/
def confItems (f : Path) : List Item :=
  match w.conf? f with
  | none => []
  | some text => (Text.lines text).flatMap (w.lineItems m f)

theorem lineItems_cases (f : Path) (line : Text) :
    (∃ t, Directive.ofLine line = .dir t ∧ plainLine? line = some t ∧ includeMask? line = none ∧
      w.lineItems m f line = [.line f t]) ∨
    (∃ mask, Directive.ofLine line = .includes mask ∧ plainLine? line = none ∧
      includeMask? line = some mask ∧ w.lineItems m f line = (w.includedBy m f mask).map .file) ∨
    ((Directive.ofLine line = .blank ∨ ∃ t, Directive.ofLine line = .skipped t) ∧
      plainLine? line = none ∧ includeMask? line = none ∧ w.lineItems m f line = []) := by
  unfold lineItems
  rcases ofLine_cases line with ⟨t, h, hp, hi⟩ | ⟨mask, h, hp, hi⟩ | ⟨h, hp, hi⟩
  · rw [h]
    exact Or.inl ⟨t, rfl, hp, hi, rfl⟩
  · rw [h]
    exact Or.inr (Or.inl ⟨mask, rfl, hp, hi, rfl⟩)
  · refine Or.inr (Or.inr ⟨h, hp, hi, ?_⟩)
    rcases h with h | ⟨t, h⟩ <;> rw [h]

theorem lines_of_lineItems (f : Path) (line : Text) : (w.lineItems m f line).filterMap Item.line? =
    ((plainLine? line).map fun t => (f, t)).toList := by
  rcases w.lineItems_cases m f line with ⟨t, _, hp, _, h⟩ | ⟨mask, _, hp, _, h⟩ | ⟨_, hp, _, h⟩
  · rw [h, hp]
    rfl
  · rw [h, hp, List.filterMap_map]
    exact List.filterMap_eq_nil_iff.mpr (fun _ _ => rfl)
  · rw [h, hp]
    rfl

/-- The lines that a file gives out in a crawl are its directories. -/
theorem lines_of_confItems (f : Path) :
    (w.confItems m f).filterMap Item.line? = (w.plainLines f).map fun t => (f, t) := by
  unfold confItems plainLines
  cases w.conf? f with
  | none => rfl
  | some text =>
      simp only
      rw [List.filterMap_flatMap, List.map_filterMap, List.filterMap_eq_flatMap_toList]
      simp only [lines_of_lineItems]

/-- A file names another in a crawl just if it includes it. -/
theorem names_confItems_iff (f g : Path) :
    Crawl.Names (w.confItems m) f g ↔ w.Includes m f g := by
  have hline : ∀ line, .file g ∈ w.lineItems m f line ↔
      ∃ mask, includeMask? line = some mask ∧ g ∈ w.includedBy m f mask := by
    intro line
    rcases w.lineItems_cases m f line with ⟨t, _, _, hi, h⟩ | ⟨mask, _, _, hi, h⟩ | ⟨_, _, hi, h⟩
    · rw [h, hi]
      simp only [List.mem_singleton, reduceCtorEq, false_and, exists_false]
    · rw [h, hi, List.mem_map]
      simp only [Item.file.injEq, exists_eq_right, Option.some.injEq, exists_eq_left']
    · rw [h, hi]
      simp only [List.not_mem_nil, reduceCtorEq, false_and, exists_false]
  have hmask : ∀ mask, g ∈ w.includedBy m f mask ↔
      ∃ found, ((m.files (relativeTo f mask)).ran w).result = .ok found ∧ g ∈ found := by
    intro mask
    unfold includedBy
    cases ((m.files (relativeTo f mask)).ran w).result with
    | ok found => simp only [Except.ok.injEq, exists_eq_left']
    | error fault => simp only [List.not_mem_nil, reduceCtorEq, false_and, exists_false]
  unfold Crawl.Names confItems Includes
  cases w.conf? f with
  | none => simp only [List.not_mem_nil, reduceCtorEq, false_and, exists_false]
  | some text => simp only [List.mem_flatMap, hline, hmask, Option.some.injEq, exists_eq_left']

end Keyed

namespace Attempt

variable {α β : Type}

/-- An attempt that comes to a result, leaves a world as it is, and asks for certain texts. -/
structure Finds (a : Attempt α) (w : Keyed) (x : α) (texts : List Path) : Prop where
  reads : ∀ calls, Reads a { w with calls } (.ok x)
  texts : ∀ calls, (a.asked { w with calls }).filterMap Request.textPath? = texts

namespace Finds

theorem pure (x : α) (w : Keyed) : Finds (Pure.pure x) w x [] :=
  ⟨fun _ => Reads.pure x _, fun _ => rfl⟩

theorem notice (n : Notice) (w : Keyed) : Finds (Attempt.notice n) w () [] :=
  ⟨fun _ => Reads.notice n _, fun _ => rfl⟩

theorem bind {a : Attempt α} {f : α → Attempt β} {w : Keyed} {x : α} {y : β}
    {texts texts' : List Path} (ha : Finds a w x texts) (hf : Finds (f x) w y texts') :
    Finds (a >>= f) w y (texts ++ texts') := by
  refine ⟨fun calls => (ha.reads calls).bind_ok hf.reads, fun calls => ?_⟩
  rcases (ha.reads calls).world with ⟨calls', hw⟩
  rw [asked_bind, (ha.reads calls).result, hw, further_ok, List.filterMap_append, ha.texts]
  exact congrArg (texts ++ ·) (hf.texts calls')

/-- What asks for no text may come first. -/
theorem bind_quiet {a : Attempt α} {f : α → Attempt β} {w : Keyed} {x : α} {y : β}
    {texts : List Path} (ha : Finds a w x []) (hf : Finds (f x) w y texts) :
    Finds (a >>= f) w y texts := ha.bind hf

/-- What asks for no text may come last. -/
theorem bind_last {a : Attempt α} {f : α → Attempt β} {w : Keyed} {x : α} {y : β}
    {texts : List Path} (ha : Finds a w x texts) (hf : Finds (f x) w y []) :
    Finds (a >>= f) w y texts := by
  have hboth := ha.bind hf
  rw [List.append_nil] at hboth
  exact hboth

/-- A file whose path is in normal form is read. -/
theorem readText (w : Keyed) (f : Path) (hn : Path.normalize f = f) :
    Finds (Attempt.request (.readText f)) w (w.textReply f) [f] := by
  have hsettled : ∀ v : Keyed, ∃ calls,
      (Request.readText f).settled v = (v.textReply f, { v with calls }) := by
    intro v
    change ∃ calls, World.answer (.readText (Path.normalize f)) v = _
    rw [hn]
    change ∃ calls, (if v.undecodable.elem f then (.error (.notText []), v)
      else (v.readText f, v.record (.readText f)) : Except Failure Text × Keyed) = _
    unfold Keyed.textReply
    by_cases hu : v.undecodable.elem f = true
    · rw [if_pos hu, if_pos hu]
      exact ⟨v.calls, rfl⟩
    · rw [if_neg hu, if_neg hu]
      exact ⟨.readText f :: v.calls, rfl⟩
  refine ⟨fun calls => ?_, fun calls => ?_⟩
  · rcases hsettled { w with calls } with ⟨calls', hs⟩
    exact ⟨by rw [ran_request, hs]; rfl, calls', by rw [ran_request, hs]⟩
  · rw [asked_request, Request.normal, hn]
    rfl

end Finds

end Attempt

/-- Walks ask for no texts. -/
theorem Selection.no_texts (s : Selection) (dirs : List Path) :
    (dirs.flatMap s.lists).filterMap Request.textPath? = [] := by
  rw [List.filterMap_eq_nil_iff]
  intro q hq
  rcases List.mem_flatMap.mp hq with ⟨d, _, hq⟩
  have hone : q = .listDir (Path.normalize d) := by
    unfold Selection.lists at hq
    split at hq
    · rcases List.mem_cons.mp hq with hq | hq
      · exact hq
      · exact List.mem_singleton.mp hq
    · exact List.mem_singleton.mp hq
  rw [hone]
  rfl

section

variable (m : Matcher) {w : Keyed} (h : w.Ordinary)

include h

/-- A match in an ordinary world finds files, or it is a fault that its start cannot be listed. -/
theorem files_cases (mask : Path) : (∃ found, ((m.files mask).ran w).result = .ok found) ∨
    ∃ dir cause, ((m.files mask).ran w).result = .error (.unlistable dir cause) := by
  have hreads := m.matching_reads mask true none none m.dirRule m.fileRule w rfl rfl
  rcases (h.descends _).matched_cases _ (Mask.normalize_start mask) with
    ⟨dirs, _, hm⟩ | ⟨_, dir, cause, hm⟩
  · exact Or.inl ⟨_, hreads.result.trans hm⟩
  · exact Or.inr ⟨dir, cause, hreads.result.trans hm⟩

/-- A match that may be a fault asks for no text. -/
theorem caught_finds (mask : Path) :
    Finds (m.files mask).caught w ((m.files mask).ran w).result [] := by
  have hreads := m.matching_reads mask true none none m.dirRule m.fileRule
  refine ⟨fun calls => ?_, fun calls => ?_⟩
  · have hcaught := (hreads { w with calls } rfl rfl).caught
    rw [show ((m.files mask).ran w).result = _ from (hreads w rfl rfl).result]
    exact hcaught
  · rw [asked_caught, show m.files mask = m.matching mask true none none from rfl]
    rcases h.descends (m.selection (Path.normalize mask) true m.dirRule m.fileRule) |>.tour_complete
      (w.depth + 1) _ (Mask.normalize_start mask) (Nat.succ_pos _) (fun _ => by omega) with
      ⟨dirs, ht⟩
    have hasked := m.asked_matching mask true none none m.dirRule m.fileRule { w with calls }
      rfl rfl
    cases ho : w.opened true (Mask.start (Path.normalize mask)) with
    | ok entries =>
        rw [w.entries_of_opened true _ entries ho] at ho
        rw [hasked _ (fun calls => asked_walk _ w _ true _ dirs calls ho ht)]
        exact Selection.no_texts _ dirs
    | error fault =>
        rw [hasked _ (fun calls => asked_walk_refused _ w w.depth _ fault ho calls)]
        rfl

/-- The files that a mask includes are found. -/
theorem included_finds (f mask : Path) :
    Finds (included m f mask) w (w.includedBy m f mask) [] := by
  refine (caught_finds m h (relativeTo f mask)).bind_quiet ?_
  unfold Keyed.includedBy
  rcases files_cases m h (relativeTo f mask) with ⟨found, hr⟩ | ⟨dir, cause, hr⟩
  · rw [hr]
    exact Finds.pure found w
  · rw [hr]
    exact (Finds.notice _ w).bind_quiet (Finds.pure [] w)

/-- Whatever is included is a file of the world, and no root. -/
theorem included_entry (f mask g : Path) (hg : g ∈ w.includedBy m f mask) :
    w.hasFile g = true ∧ g ≠ [] ∧ g ≠ ['/'] := by
  have hreads := m.matching_reads (relativeTo f mask) true none none m.dirRule m.fileRule w rfl rfl
  unfold Keyed.includedBy at hg
  rw [show ((m.files (relativeTo f mask)).ran w).result = _ from hreads.result] at hg
  have hn := Mask.normalize_start (relativeTo f mask)
  rcases (h.descends _).matched_cases _ hn with ⟨dirs, ht, hm⟩ | ⟨_, dir, cause, hm⟩
  · rw [hm] at hg
    have hmatch := h.isMatch_of_found _ _ _ dirs hn ht g hg
    exact ⟨hmatch.kind, Path.ne_root_of_below _ g hmatch.below⟩
  · rw [hm] at hg
    exact absurd hg List.not_mem_nil

end

section

variable {load : Path → List Item} {w : Keyed}

/-- A search that is a crawl through certain work: it comes to the lines that the crawl gives out
    and to the files known after it, and asks for the texts of the files that the crawl reads. -/
def Crawls (load : Path → List Item) (w : Keyed) (work : List Item) (seen : List Path)
    (search : Attempt (List Text × List Path)) : Prop :=
  ∃ out files, Crawl load work seen out files ∧
    Finds search w (out.map (·.2), files.reverse ++ seen) files

/-- A search for several items in turn is a crawl through what each comes to. -/
theorem collect_crawls {α : Type} (step : α → List Path → Attempt (List Text × List Path))
    (work : α → List Item) (items : List α) : ∀ seen : List Path,
    (∀ item ∈ items, ∀ seen', seen ⊆ seen' → Crawls load w (work item) seen' (step item seen')) →
    Crawls load w (items.flatMap work) seen (collect step items seen) := by
  induction items with
  | nil => exact fun seen _ => ⟨[], [], Crawl.nil, Finds.pure _ w⟩
  | cons item more ih =>
      intro seen hstep
      rcases hstep item List.mem_cons_self seen (List.Subset.refl seen) with
        ⟨out, files, hcrawl, hfinds⟩
      rcases ih (files.reverse ++ seen) (fun item hitem seen' hseen' =>
        hstep item (List.mem_cons_of_mem _ hitem) seen'
          (List.Subset.trans (List.subset_append_right _ _) hseen')) with
        ⟨out', files', hcrawl', hfinds'⟩
      refine ⟨out ++ out', files ++ files', hcrawl.append hcrawl', ?_⟩
      rw [collect, List.map_append, List.reverse_append, List.append_assoc]
      refine hfinds.bind ?_
      refine hfinds'.bind_last ?_
      exact Finds.pure _ w

end

/-- How many of some files are not known yet. -/
def unseen (all seen : List Path) : Nat := all.countP fun f => !seen.elem f

theorem unseen_le (all seen seen' : List Path) (h : seen ⊆ seen') :
    unseen all seen' ≤ unseen all seen := by
  refine List.countP_mono_left (fun f _ hf => ?_)
  rw [Bool.not_eq_true', ← Bool.not_eq_true, List.elem_iff] at hf ⊢
  exact fun hmem => hf (h hmem)

theorem unseen_lt (all seen : List Path) (f : Path) (hf : f ∈ all) (hnew : f ∉ seen) :
    unseen all (f :: seen) < unseen all seen := by
  induction all with
  | nil => exact absurd hf List.not_mem_nil
  | cons g more ih =>
      have hmore := unseen_le more seen (f :: seen) (List.subset_cons_self f seen)
      unfold unseen at ih hmore ⊢
      rw [List.countP_cons, List.countP_cons]
      by_cases hgf : g = f
      · have hknown : (f :: seen).elem f = true := List.elem_iff.mpr List.mem_cons_self
        have hunknown : seen.elem f = false := by
          rw [← Bool.not_eq_true, List.elem_iff]
          exact hnew
        rw [hgf, hknown, hunknown, if_neg (by decide), if_pos (by decide)]
        omega
      · have hlt := ih ((List.mem_cons.mp hf).resolve_left (Ne.symm hgf))
        have hsame : (f :: seen).elem g = seen.elem g := by
          rw [Bool.eq_iff_iff, List.elem_iff, List.elem_iff, List.mem_cons, or_iff_right hgf]
        rw [hsame]
        omega

/-- What the search does with a line of a file. -/
def lineDirs (m : Matcher) (depth : Nat) (f : Path) (line : Text) (seen : List Path) :
    Attempt (List Text × List Path) := do
  match Directive.ofLine line with
  | .blank => return ([], seen)
  | .dir line => return ([line], seen)
  | .skipped line =>
    Attempt.notice (.directiveSkipped f line)
    return ([], seen)
  | .includes mask => do
    let files ← included m f mask
    collect (linkerDirsFrom m depth) files seen

/-- A text that is asked for in a world of keys may not be there, not be allowed, or be no text. -/
theorem Keyed.textReply_cases (w : Keyed) (f : Path) : (∃ text, w.textReply f = .ok text) ∨
    ∃ why, w.textReply f = .error why ∧ why ≠ .nulInPath := by
  unfold Keyed.textReply Keyed.readText
  by_cases hu : w.undecodable.elem f = true
  · rw [if_pos hu]
    exact Or.inr ⟨_, rfl, by decide⟩
  · rw [if_neg hu]
    cases valueOf? f w.files with
    | none => exact Or.inr ⟨_, rfl, by simp only [ne_eq, reduceCtorEq, not_false_eq_true]⟩
    | some text =>
        simp only
        by_cases hd : w.denied.elem f = true
        · rw [if_pos hd]
          exact Or.inr ⟨_, rfl, by simp only [ne_eq, reduceCtorEq, not_false_eq_true]⟩
        · rw [if_neg hd]
          exact Or.inl ⟨text, rfl⟩

section

variable (m : Matcher) {w : Keyed} (h : w.Ordinary)

include h

/-- The search in a line is a crawl through it, if so is the search in each file that it
    includes. -/
theorem lineDirs_crawls (depth : Nat) (f : Path) (line : Text) (seen : List Path)
    (hfiles : ∀ mask, ∀ g ∈ w.includedBy m f mask, ∀ seen', seen ⊆ seen' →
      Crawls (w.confItems m) w [.file g] seen' (linkerDirsFrom m depth g seen')) :
    Crawls (w.confItems m) w (w.lineItems m f line) seen (lineDirs m depth f line seen) := by
  unfold lineDirs
  rcases w.lineItems_cases m f line with ⟨t, h', _, _, hi⟩ | ⟨mask, h', _, _, hi⟩ | ⟨h', _, _, hi⟩
  · rw [h', hi]
    exact ⟨[(f, t)], [], Crawl.line Crawl.nil, Finds.pure _ w⟩
  · rw [h', hi]
    rcases collect_crawls (linkerDirsFrom m depth) (fun g => [.file g]) (w.includedBy m f mask) seen
      (hfiles mask) with ⟨out, files, hcrawl, hfinds⟩
    rw [← List.map_eq_flatMap] at hcrawl
    exact ⟨out, files, hcrawl, (included_finds m h f mask).bind_quiet hfinds⟩
  · rw [hi]
    refine ⟨[], [], Crawl.nil, ?_⟩
    rcases h' with h' | ⟨t, h'⟩
    · rw [h']
      exact Finds.pure _ w
    · rw [h']
      exact (Finds.notice _ w).bind_quiet (Finds.pure _ w)

/-- The search in a file is a crawl through it, when there are more files left to count than such
    as are not known: all that it can come to are among these. -/
theorem linkerDirsFrom_crawls (all : List Path)
    (hall : ∀ g, w.hasFile g = true → g ≠ [] → g ≠ ['/'] → g ∈ all) : ∀ depth file seen,
    Path.normalize file ∈ all → unseen all seen < depth →
      Crawls (w.confItems m) w [.file (Path.normalize file)] seen
        (linkerDirsFrom m depth file seen) := by
  intro depth
  induction depth with
  | zero => exact fun _ _ _ hfuel => absurd hfuel (Nat.not_lt_zero _)
  | succ depth ih =>
      intro file seen hfile hfuel
      unfold linkerDirsFrom
      simp only
      have hnormal := Path.normalize_normalize file
      generalize Path.normalize file = f at hfile hnormal ⊢
      by_cases hold : f ∈ seen
      · rw [if_pos (List.elem_iff.mpr hold)]
        exact ⟨[], [], Crawl.known hold Crawl.nil, Finds.pure _ w⟩
      · rw [if_neg (fun he => hold (List.elem_iff.mp he))]
        have hfewer := unseen_lt all seen f hfile hold
        have hread := Finds.readText w f hnormal
        rcases w.textReply_cases f with ⟨text, hr⟩ | ⟨why, hr, hwhy⟩
        -- What is in the file is work with one more file known, so that less is left to count.
        · have hitems : w.confItems m f = (Text.lines text).flatMap (w.lineItems m f) := by
            rw [Keyed.confItems, Keyed.conf?, hr]
            rfl
          rcases collect_crawls (lineDirs m depth f) (w.lineItems m f) (Text.lines text) (f :: seen)
            (fun line _ seen' hseen => lineDirs_crawls m h depth f line seen'
              (fun mask g hg seen'' hseen' => by
                rcases included_entry m h f mask g hg with ⟨hkind, h0, hroot⟩
                have hgn := h.normal g (w.has_of_hasFile g hkind)
                have hfewer' := unseen_le all _ _ (List.Subset.trans hseen hseen')
                have hcrawls := ih g seen'' (by rw [hgn]; exact hall g hkind h0 hroot) (by omega)
                rw [hgn] at hcrawls
                exact hcrawls)) with ⟨out, files, hcrawl, hfinds⟩
          refine ⟨out, f :: files, Crawl.fresh hold ?_, ?_⟩
          · rw [List.append_nil, hitems]
            exact hcrawl
          · rw [List.reverse_cons, List.append_assoc]
            refine hread.bind ?_
            rw [hr]
            exact hfinds
        · have hitems : w.confItems m f = [] := by
            rw [Keyed.confItems, Keyed.conf?, hr]
            rfl
          refine ⟨[], [f], Crawl.fresh hold ?_, ?_⟩
          · rw [List.append_nil, hitems]
            exact Crawl.nil
          · refine hread.bind_last ?_
            rw [hr]
            cases why with
            | nulInPath => exact absurd rfl hwhy
            | _ => exact (Finds.notice _ w).bind_quiet (Finds.pure _ w)

end

namespace Keyed

/-- The files of a world but for the roots, each of them once. -/
def entryFiles (w : Keyed) : List Path :=
  ((w.files.map (·.1)).filter fun f => w.hasFile f && f ≠ [] && f ≠ ['/']).dedup

theorem mem_entryFiles (w : Keyed) (f : Path) :
    f ∈ w.entryFiles ↔ w.hasFile f = true ∧ f ≠ [] ∧ f ≠ ['/'] := by
  rw [entryFiles, List.mem_dedup, List.mem_filter, Bool.and_eq_true, Bool.and_eq_true,
    decide_eq_true_eq, decide_eq_true_eq, and_assoc]
  refine and_iff_right_of_imp (fun hf => ?_)
  rcases (w.hasFile_iff f).mp hf.1 with ⟨text, htext⟩
  exact List.mem_map_of_mem (mem_of_valueOf? f text w.files htext)

/-- There are fewer files than the depth of the world, in which every listed name counts. -/
theorem Ordinary.length_entryFiles {w : Keyed} (h : w.Ordinary) :
    w.entryFiles.length ≤ w.depth := by
  -- A file is told by its directory and its name, and the name is listed there.
  have hpairs : (w.entryFiles.map fun f => (parent f, name f)).Subperm
      (w.dirs.flatMap fun entry => entry.2.map fun n => (entry.1, n)) := by
    refine List.Nodup.subperm ?_ (fun pair hpair => ?_)
    · refine List.Nodup.map_on (fun f hf g hg heq => ?_) (List.nodup_dedup _)
      rcases (w.mem_entryFiles f).mp hf with ⟨hf, hf0, hfr⟩
      rcases (w.mem_entryFiles g).mp hg with ⟨hg, hg0, hgr⟩
      rcases h.entry_of_key f (w.has_of_hasFile f hf) hf0 hfr with ⟨_, hfkey, _⟩
      rcases h.entry_of_key g (w.has_of_hasFile g hg) hg0 hgr with ⟨_, hgkey, _⟩
      rw [Prod.mk.injEq] at heq
      rw [hfkey, hgkey, heq.1, heq.2]
    · rcases List.mem_map.mp hpair with ⟨f, hf, heq⟩
      rcases (w.mem_entryFiles f).mp hf with ⟨hf, hf0, hfr⟩
      rcases h.entry_of_key f (w.has_of_hasFile f hf) hf0 hfr with ⟨names, _, _, _, hnames, hcount⟩
      have hlisted : name f ∈ names := List.count_pos_iff.mp (by omega)
      rw [← heq]
      exact List.mem_flatMap.mpr ⟨(parent f, names), mem_of_valueOf? _ _ _ hnames,
        List.mem_map_of_mem hlisted⟩
  have hdepth : (w.dirs.flatMap fun entry => entry.2.map fun n => (entry.1, n)).length ≤
      w.depth := by
    rw [w.depth_eq_sum, List.length_flatMap]
    refine List.sum_le_sum (fun entry _ => ?_)
    rw [List.length_map]
    omega
  have hlen := hpairs.length_le
  rw [List.length_map] at hlen
  exact hlen.trans hdepth

end Keyed

/-- The directories of the dynamic linker's configuration in an ordinary world, whatever its files
    hold and whatever may be read or listed there. The search comes to a result and changes nothing.
    It asks for the texts of just the files that are reached from the first one by what includes
    what, for each of them once; and its result are the plain lines of these files, none lost and
    none twice, those of one file in their order. -/
theorem linkerDirs_exact (m : Matcher) (w : Keyed) (h : w.Ordinary) (c : Path) :
    ∃ (files : List Path) (lines : List (Path × Text)),
      Reads (linkerDirs m c) w (.ok (lines.map (·.2))) ∧
      ((linkerDirs m c).asked w).filterMap Request.textPath? = files ∧
      files.Nodup ∧
      (∀ f, f ∈ files ↔ ReflTransGen (w.Includes m) (Path.normalize c) f) ∧
      (lines.map (·.2)).Perm (files.flatMap w.plainLines) ∧
      ∀ f, (lines.filter (·.1 = f)).map (·.2) = if f ∈ files then w.plainLines f else [] := by
  have hfuel : unseen (Path.normalize c :: w.entryFiles) [] < w.depth + 2 := by
    have hlen := h.length_entryFiles
    have hle := List.countP_le_length (p := fun f => !([] : List Path).elem f)
      (l := Path.normalize c :: w.entryFiles)
    rw [List.length_cons] at hle
    unfold unseen
    omega
  rcases linkerDirsFrom_crawls m h (Path.normalize c :: w.entryFiles)
    (fun g hg h0 hr => List.mem_cons_of_mem _ ((w.mem_entryFiles g).mpr ⟨hg, h0, hr⟩))
    (w.depth + 2) c [] List.mem_cons_self hfuel with ⟨lines, files, hcrawl, hfinds⟩
  have hrun : Finds (linkerDirs m c) w (lines.map (·.2)) files :=
    have hdepth : Finds (Attempt.request .depth) w w.depth [] :=
      ⟨fun _ => Reads.depth _, fun _ => rfl⟩
    hdepth.bind_quiet (hfinds.bind_last (Finds.pure _ w))
  have hlines : ∀ f, ((w.confItems m f).filterMap Item.line?).map (·.2) = w.plainLines f := by
    intro f
    rw [w.lines_of_confItems m, List.map_map]
    exact List.map_id _
  have howner : ∀ f, ∀ line ∈ (w.confItems m f).filterMap Item.line?, line.1 = f := by
    intro f line hline
    rw [w.lines_of_confItems m] at hline
    rcases List.mem_map.mp hline with ⟨t, _, ht⟩
    rw [← ht]
  refine ⟨files, lines, hrun.reads w.calls, hrun.texts w.calls, hcrawl.nodup.1, fun f => ?_, ?_,
    fun f => ?_⟩
  · have hnames : Crawl.Names (w.confItems m) = w.Includes m :=
      funext fun f => funext fun g => propext (w.names_confItems_iff m f g)
    rw [hcrawl.mem_iff_reached, hnames]
  · have hperm := hcrawl.perm.map (·.2)
    rw [List.map_append, List.map_flatMap] at hperm
    simp only [hlines] at hperm
    exact hperm
  · rw [hcrawl.lines_of_file howner (fun line hline => absurd hline List.not_mem_nil) f]
    change (if f ∈ files then _ else []).map _ = _
    by_cases hf : f ∈ files
    · rw [if_pos hf, if_pos hf, hlines]
    · rw [if_neg hf, if_neg hf]
      rfl

/-- Two files that include each other, with a directory each. -/
def Keyed.ring : Keyed :=
  (bare.addFile "c/a".toList "/x\ninclude b".toList).addFile "c/b".toList "include a\n/y".toList

theorem linkerDirs_exact_ring : Keyed.ring.Ordinary ∧
    ∃ (files : List Path) (lines : List (Path × Text)),
      Reads (linkerDirs ⟨true, none, none⟩ "c/a".toList) Keyed.ring (.ok (lines.map (·.2))) ∧
      ((linkerDirs ⟨true, none, none⟩ "c/a".toList).asked Keyed.ring).filterMap Request.textPath?
        = files ∧
      files.Nodup ∧
      (∀ f, f ∈ files ↔ ReflTransGen (Keyed.ring.Includes ⟨true, none, none⟩)
        (Path.normalize "c/a".toList) f) ∧
      (lines.map (·.2)).Perm (files.flatMap Keyed.ring.plainLines) ∧
      ∀ f, (lines.filter (·.1 = f)).map (·.2) = if f ∈ files then Keyed.ring.plainLines f else [] :=
  ⟨by decide, linkerDirs_exact ⟨true, none, none⟩ Keyed.ring (by decide) "c/a".toList⟩

example : ((linkerDirs ⟨true, none, none⟩ "c/a".toList).ran Keyed.ring).result =
    .ok ["/x".toList, "/y".toList] := by decide

end Maskwalk
