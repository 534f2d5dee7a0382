import Maskwalk.Proofs.Mask.Inside
import Maskwalk.Proofs.Tree.Files
import Maskwalk.Proofs.World.Planted

/-!
# What the removal of a mask takes away

The files that a mask names are found by their joined names, and removed by the normal forms of
these. Where the two are the same, a removal takes away what the mask names and nothing else. They
are the same for every path without a backslash, whatever else its names hold: a name has no slash,
markers stand for no file, and an absolute-looking name is joined to nothing. A backslash is an
ordinary character of a name to the match and a separator to the removal, and that is how a file can
be lost that no mask named.

`removeAll_mask_lost` says for any planted world what is lost, which paths it was lost for, and that
without backslashes it is only what the mask names.

## Main definitions

* `Keyed.Spelled`: a world whose names are spelled with certain characters.
* `Keyed.holding`: a world with the tables of a planted one.

## Theorems

* `spelled_planted`: What the names of a planted world are spelled with.
* `Spelled.normalize_of_found`, `Spelled.no_backslash_of_found`: The files that a walk finds.
* `candidates_planted`: What a removal takes up in a planted world.
* `removeAll_mask_lost`: What the removal of a mask takes away.
-/

namespace Maskwalk

open Maskwalk.Path (IsName)

open Attempt

namespace Keyed

/-- A world in which the names that directories list hold no slash and only certain characters,
    unless they are markers. -/
def Spelled (allowed : Char → Prop) (w : Keyed) : Prop :=
  ∀ d names, w.names? d = some names → ∀ n ∈ names,
    isMark n = true ∨ ('/' ∉ n ∧ ∀ c ∈ n, allowed c)

/-- A world with the tables of a planted one, whatever may be done in it. -/
def holding (w : Keyed) (tree : List (Path × Text)) (marked : List Path) : Keyed :=
  { w with dirs := (planted tree marked).dirs, files := (planted tree marked).files }

theorem mem_of_mem_name (p : Path) (c : Char) (h : c ∈ name p) : c ∈ p := by
  rw [← Path.upToSlash_append_baseName p]
  exact List.mem_append_right _ h

theorem mem_of_mem_parent (p : Path) (c : Char) (h : c ∈ parent p) : c ∈ p := by
  rcases Path.upToSlash_cases p with h0 | ⟨lead, hlead⟩
  · rw [parent, Path.directory, h0] at h
    exact absurd h List.not_mem_nil
  · refine (Path.upToSlash_starts p).subset ?_
    by_cases hhere : lead = Path.here
    · rw [parent, Path.directory, hlead, hhere] at h
      exact absurd h List.not_mem_nil
    · rw [Path.parent_of_upToSlash p lead hlead hhere] at h
      rw [hlead]
      by_cases hl : lead = []
      · rw [if_pos hl] at h
        exact List.mem_append_right _ h
      · rw [if_neg hl] at h
        exact List.mem_append_left _ h

section

variable {allowed : Char → Prop}

/-- A directory lists what it listed, or the one name that has been added. -/
theorem mem_listed (dirs : List (Path × List Text)) (d q : Path) (n m : Text) (names : List Text)
    (h : valueOf? q (listed dirs d n) = some names) (hm : m ∈ names) :
    (∃ old, valueOf? q dirs = some old ∧ m ∈ old) ∨ m = n := by
  rw [names_listed, Option.map_eq_some_iff] at h
  rcases h with ⟨old, hold, heq⟩
  rw [← heq] at hm
  by_cases hq : q = d
  · rw [if_pos hq] at hm
    rcases List.mem_append.mp hm with hm | hm
    · exact Or.inl ⟨old, hold, hm⟩
    · exact Or.inr (List.mem_singleton.mp hm)
  · rw [if_neg hq] at hm
    exact Or.inl ⟨old, hold, hm⟩

/-- The name of a path is spelled with its characters. -/
theorem spelled_name (p : Path) (hp : ∀ c ∈ p, allowed c) :
    '/' ∉ name p ∧ ∀ c ∈ name p, allowed c :=
  ⟨Path.no_slash_baseName p, fun c hc => hp c (mem_of_mem_name p c hc)⟩

theorem spelled_addDirWithin (fuel : Nat) : ∀ (p : Path) (w : Keyed), (∀ c ∈ p, allowed c) →
    w.Spelled allowed → (addDirWithin fuel p w).Spelled allowed := by
  induction fuel with
  | zero => exact fun p w _ hw => hw
  | succ fuel ih =>
      intro p w hp hw
      rw [addDirWithin]
      by_cases hdir : w.hasDir p = true
      · rw [if_pos hdir]
        exact hw
      · rw [if_neg hdir]
        have habove := ih (parent p) w (fun c hc => hp c (mem_of_mem_parent p c hc)) hw
        intro d names hd n hn
        rcases mem_listed _ _ d _ n names hd hn with ⟨old, hold, hmem⟩ | heq
        -- The new directory has no names yet.
        · rw [valueOf?_append_singleton, Option.or_eq_some_iff] at hold
          rcases hold with hold | ⟨_, hold⟩
          · exact habove d old hold n hmem
          · by_cases hq : p = d
            · rw [if_pos hq, Option.some.injEq] at hold
              rw [← hold] at hmem
              exact absurd hmem List.not_mem_nil
            · rw [if_neg hq] at hold
              exact absurd hold (by simp only [reduceCtorEq, not_false_eq_true])
        · rw [heq]
          exact Or.inr (spelled_name p hp)

theorem spelled_addFile (p : Path) (content : Text) (w : Keyed) (hp : ∀ c ∈ p, allowed c)
    (hw : w.Spelled allowed) : (w.addFile p content).Spelled allowed := by
  have hdir : (w.addDir (parent p)).Spelled allowed :=
    spelled_addDirWithin _ _ w (fun c hc => hp c (mem_of_mem_parent p c hc)) hw
  rw [addFile]
  by_cases hfile : (w.addDir (parent p)).hasFile p = true
  · simp only [hfile, if_true]
    exact hdir
  · simp only [hfile, Bool.false_eq_true, if_false]
    intro d names hd n hn
    rcases mem_listed _ _ d _ n names hd hn with ⟨old, hold, hmem⟩ | heq
    · exact hdir d old hold n hmem
    · rw [heq]
      exact Or.inr (spelled_name p hp)

theorem spelled_addMarkers (p : Path) (w : Keyed) (hw : w.Spelled allowed) :
    (w.addMarkers p).Spelled allowed := by
  intro d names hd n hn
  change valueOf? d (w.addMarkers p).dirs = _ at hd
  rw [addMarkers, valueOf?_changed w.dirs p d (Path.dot :: Path.dotDot :: ·),
    Option.map_eq_some_iff] at hd
  rcases hd with ⟨old, hold, heq⟩
  rw [← heq] at hn
  by_cases hdp : d = p
  · rw [if_pos hdp] at hn
    rcases List.mem_cons.mp hn with hn | hn
    · rw [hn]
      exact Or.inl rfl
    · rcases List.mem_cons.mp hn with hn | hn
      · rw [hn]
        exact Or.inl rfl
      · exact hw d old hold n hn
  · rw [if_neg hdp] at hn
    exact hw d old hold n hn

/-- The names of a planted world are spelled with the characters of the paths it was planted
    with. -/
theorem spelled_planted (tree : List (Path × Text)) (marked : List Path)
    (htree : ∀ entry ∈ tree, ∀ c ∈ entry.1, allowed c) : (planted tree marked).Spelled allowed := by
  have hplant : ∀ w : Keyed, w.Spelled allowed → (tree.foldl plant w).Spelled allowed := by
    induction tree with
    | nil => exact fun w hw => hw
    | cons entry more ih =>
        intro w hw
        have hentry := htree entry List.mem_cons_self
        refine ih (fun e he => htree e (List.mem_cons_of_mem _ he)) _ ?_
        rw [plant]
        by_cases hs : entry.1.getLast? = some '/'
        · rw [if_pos hs]
          exact spelled_addDirWithin _ _ w
            (fun c hc => hentry c (List.dropLast_subset _ hc)) hw
        · rw [if_neg hs]
          exact spelled_addFile _ _ w hentry hw
  have hmark : ∀ w : Keyed, w.Spelled allowed →
      (marked.foldl (fun w p => w.addMarkers p) w).Spelled allowed := by
    induction marked with
    | nil => exact fun w hw => hw
    | cons p more ih => exact fun w hw => ih _ (spelled_addMarkers p w hw)
  refine hmark _ (hplant bare (fun d names hd n hn => ?_))
  have hmem := mem_of_valueOf? d names _ hd
  simp only [bare, List.mem_cons, Prod.mk.injEq, List.not_mem_nil, or_false] at hmem
  rw [hmem.elim And.right And.right] at hn
  exact absurd hn List.not_mem_nil

variable {w : Keyed}

/-- What a walk joins to a directory is a name that the directory lists, and no marker. -/
theorem Spelled.entry_cases (h : w.Spelled allowed) (dir : Path) (n : Text)
    (hn : n ∈ w.shown dir) (hmark : isMark n = false) :
    n = [] ∨ (IsName n ∧ ∀ c ∈ n, allowed c) := by
  rcases w.names_of_shown dir n hn with ⟨names, hnames, hmem⟩
  rcases h dir names hnames n hmem with hm | ⟨hslash, hall⟩
  · rw [hmark] at hm
    exact absurd hm Bool.false_ne_true
  · by_cases h0 : n = []
    · exact Or.inl h0
    · rw [isMark, Bool.or_eq_false_iff, decide_eq_false_iff_not, decide_eq_false_iff_not] at hmark
      exact Or.inr ⟨⟨h0, hslash, hmark.1, hmark.2⟩, hall⟩

omit w in
theorem mem_of_mem_join (dir n : Path) (c : Char) (h : c ∈ Path.join dir n) :
    c ∈ dir ∨ c = '/' ∨ c ∈ n := by
  unfold Path.join at h
  split at h
  · exact Or.inl h
  · split at h
    · exact Or.inr (Or.inr h)
    · split at h
      · exact (List.mem_append.mp h).imp_right Or.inr
      · exact (List.mem_append.mp h).imp_right List.mem_cons.mp

omit w in
/-- Behind a directory that a name is joined to, the name stands as it is. -/
theorem no_backslash_of_join (dir n : Path) (hn : n ≠ []) (ha : Path.isAbsolute n = false)
    (hb : '\\' ∉ Path.join dir n) : '\\' ∉ dir ∧ '\\' ∉ n := by
  rw [Path.join, if_neg hn, ha] at hb
  by_cases hhere : dir = [] ∨ dir = Path.here
  · rw [if_pos (hhere.imp_right Or.inl)] at hb
    refine ⟨fun hc => ?_, hb⟩
    rcases hhere with hd | hd <;> rw [hd] at hc <;> exact absurd hc (by decide)
  · rw [if_neg (fun hc => hhere (hc.imp_right (Or.resolve_right · Bool.false_ne_true)))] at hb
    by_cases hs : Path.endsWithSlash dir = true
    · rw [if_pos hs, List.mem_append, not_or] at hb
      exact hb
    · rw [if_neg hs, List.mem_append, not_or, List.mem_cons, not_or] at hb
      exact ⟨hb.1, hb.2.2⟩

/-- Joined to a path in normal form, such a name leads to a path in normal form, unless there is a
    backslash in that. -/
theorem Spelled.normalize_join (h : w.Spelled allowed) (dir : Path) (n : Text)
    (hn : n ∈ w.shown (Path.normalize dir)) (hmark : isMark n = false)
    (hdir : '\\' ∉ dir → Path.normalize dir = dir) (hb : '\\' ∉ Path.join dir n) :
    Path.normalize (Path.join dir n) = Path.join dir n := by
  rcases h.entry_cases _ n hn hmark with h0 | ⟨hname, _⟩
  · rw [h0] at hb ⊢
    exact hdir hb
  · by_cases ha : Path.isAbsolute n = true
    · rw [Path.join_absolute dir n hname.ne_nil ha] at hb
      -- The directory is dropped, and the name alone is read.
      have halone := Path.normalize_join [] n rfl hname hb
      rw [Path.join_absolute [] n hname.ne_nil ha] at halone
      rw [Path.join_absolute dir n hname.ne_nil ha]
      exact halone
    · rcases no_backslash_of_join dir n hname.ne_nil (Bool.not_eq_true _ ▸ ha) hb with ⟨hd, hnb⟩
      exact Path.normalize_join dir n (hdir hd) hname hnb

/-- What a walk enters from a directory, or finds there as a file, is a name joined to it that is no
    marker. -/
theorem name_of_entered (s : Selection) (d c : Path) (hc : c ∈ w.entered s d) :
    ∃ n ∈ w.shown (Path.normalize d), isMark n = false ∧ c = Path.join d n := by
  rcases (w.mem_entered s d c).mp hc with ⟨n, hn, henters, hcn⟩
  rw [Selection.enters, Bool.and_eq_true, Bool.and_eq_true, Bool.not_eq_true', w.entryOf_name]
    at henters
  exact ⟨n, hn, henters.1.2, hcn⟩

theorem name_of_keptAt (s : Selection) (hfiles : s.files = true) (d c : Path)
    (hc : c ∈ w.keptAt s d) : ∃ n ∈ w.shown (Path.normalize d), isMark n = false ∧
      c = Path.join d n := by
  rcases (w.mem_keptAt s d c).mp hc with ⟨n, hn, hkeeps, hcn⟩
  refine ⟨n, hn, ?_, hcn⟩
  rw [Selection.keeps, Bool.and_eq_true, Selection.wants, if_pos hfiles, Bool.and_eq_true] at hkeeps
  by_contra hm
  -- A marker is no file.
  rw [entryOf, if_pos (Bool.not_eq_false _ ▸ hm)] at hkeeps
  exact Bool.false_ne_true hkeeps.1.1

variable (s : Selection) (hfiles : s.files = true) (start : Path) (found : List Path)
  (hfound : w.matched s start = .ok found)

include hfound in
/-- The mask fits all that is found. -/
theorem fits_of_found : ∀ c ∈ found, s.mask.fits c = true := by
  refine w.found_forall s start found hfound (fun _ => True) _ trivial (fun _ _ _ _ _ => trivial)
    (fun d c _ hc => ?_)
  rcases (w.mem_keptAt s d c).mp hc with ⟨n, _, hkeeps, hcn⟩
  rw [Selection.keeps, Bool.and_eq_true, w.entryOf_name, ← hcn] at hkeeps
  exact hkeeps.2

include hfiles hfound in
/-- A file that is found is in normal form, unless there is a backslash in its path. -/
theorem Spelled.normalize_of_found (h : w.Spelled allowed) (hstart : Path.normalize start = start) :
    ∀ c ∈ found, '\\' ∉ c → Path.normalize c = c := by
  refine w.found_forall s start found hfound (fun d => '\\' ∉ d → Path.normalize d = d) _
    (fun _ => hstart) (fun _ d c hd hc hb => ?_) (fun d c hd hc hb => ?_)
  · rcases name_of_entered s d c hc with ⟨n, hn, hmark, hcn⟩
    rw [hcn] at hb ⊢
    exact h.normalize_join d n hn hmark hd hb
  · rcases name_of_keptAt s hfiles d c hc with ⟨n, hn, hmark, hcn⟩
    rw [hcn] at hb ⊢
    exact h.normalize_join d n hn hmark hd hb

end

/-- Where no name has a backslash, none is in what is found. -/
theorem Spelled.no_backslash_of_found {w : Keyed} (h : w.Spelled (· ≠ '\\')) (s : Selection)
    (hfiles : s.files = true) (start : Path) (found : List Path)
    (hfound : w.matched s start = .ok found) (hstart : '\\' ∉ start) : ∀ c ∈ found, '\\' ∉ c := by
  have hjoin : ∀ d n : Path, '\\' ∉ d → n ∈ w.shown (Path.normalize d) → isMark n = false →
      '\\' ∉ Path.join d n := by
    intro d n hd hn hmark hc
    have hnb : '\\' ∉ n := by
      rcases h.entry_cases _ n hn hmark with h0 | ⟨_, hall⟩
      · rw [h0]
        exact List.not_mem_nil
      · exact fun hc => hall _ hc rfl
    rcases mem_of_mem_join d n _ hc with hc | hc | hc
    · exact hd hc
    · exact absurd hc (by decide)
    · exact hnb hc
  refine w.found_forall s start found hfound (fun d => '\\' ∉ d) _ hstart
    (fun _ d c hd hc => ?_) (fun d c hd hc => ?_)
  · rcases name_of_entered s d c hc with ⟨n, hn, hmark, hcn⟩
    rw [hcn]
    exact hjoin d n hd hn hmark
  · rcases name_of_keptAt s hfiles d c hc with ⟨n, hn, hmark, hcn⟩
    rw [hcn]
    exact hjoin d n hd hn hmark

/-- What a removal takes up in a planted world is fitted by the mask, and is in its normal form
    unless there is a backslash in it, for which there has to be one in a planted path. -/
theorem candidates_planted (m : Matcher) (mask : Path) (tree : List (Path × Text))
    (marked : List Path) (w : Keyed) : ∀ c ∈ m.candidates mask (w.holding tree marked),
      (Mask.compile (Path.normalize mask) (!m.caseSensitive)).fits c = true ∧
      ('\\' ∉ c → Path.normalize c = c) ∧ ((∀ entry ∈ tree, '\\' ∉ entry.1) → '\\' ∉ c) := by
  have hresult := (m.candidates_reads mask (w.holding tree marked)).result
  unfold Matcher.candidates
  rw [hresult]
  cases hm : (w.holding tree marked).matched
      (m.selection (Path.normalize mask) true m.dirRule (some .never))
      (Mask.start (Path.normalize mask)) with
  | error fault => exact fun c hc => absurd hc List.not_mem_nil
  | ok found =>
      refine fun c hc => ⟨fits_of_found _ _ found hm c hc, ?_, fun htree => ?_⟩
      · have hany : (w.holding tree marked).Spelled fun _ => True :=
          spelled_planted tree marked fun _ _ _ _ => trivial
        exact hany.normalize_of_found _ rfl _ found hm (Mask.normalize_start mask) c hc
      · have hnone : (w.holding tree marked).Spelled (· ≠ '\\') :=
          spelled_planted tree marked
            fun entry he c hc heq => htree entry he (by rw [← heq]; exact hc)
        exact hnone.no_backslash_of_found _ rfl _ found hm
          (fun hc => Path.no_backslash_normalize mask
            (List.takeWhile_subset _ (mem_of_mem_parent _ _ hc))) c hc

end Keyed

open Keyed in
/-- The removal of a mask in a world planted with any paths, whatever may be done there: no
    directory comes or goes, and the files that are lost are the normal forms of the first so many
    paths that the mask matches, all of them if the removal says that it is done. The mask fits
    these paths, and each is its own normal form if there is no backslash in it. So in a world
    planted without backslashes only files that the mask fits are lost. -/
theorem removeAll_mask_lost (m : Matcher) (mask : Path) (tree : List (Path × Text))
    (marked : List Path) (w : Keyed) :
    let before := w.holding tree marked
    let ran := (removeAll m (.mask mask)).ran before
    let compiled := Mask.compile (Path.normalize mask) (!m.caseSensitive)
    (∀ d, ran.world.hasDir d = before.hasDir d) ∧
    (∃ taken, taken <+: m.candidates mask before ∧
      (ran.result = .ok .done → taken = m.candidates mask before) ∧
      (∀ f, ran.world.content? f =
        if f ∈ taken.map Path.normalize then none else before.content? f) ∧
      ∀ c ∈ taken, compiled.fits c = true ∧ ('\\' ∉ c → Path.normalize c = c)) ∧
    ((∀ entry ∈ tree, '\\' ∉ entry.1) →
      ∀ f, before.hasFile f = true → ran.world.hasFile f = false → compiled.fits f = true) := by
  intro before ran compiled
  have hran : ran = (removeMask m mask).ran before := by
    change (removeAll m (.mask mask)).ran before = _
    rw [removeAll]
  rw [hran]
  rcases removeMask_lost m mask before with ⟨hdirs, taken, hpre, hdone, hcontent⟩
  refine ⟨hdirs, ⟨taken, hpre, hdone, hcontent, fun c hc => ?_⟩, fun htree f hf hgone => ?_⟩
  · have hc := candidates_planted m mask tree marked w c (hpre.subset hc)
    exact ⟨hc.1, hc.2.1⟩
  · -- A lost file is the normal form of a taken path, which is that path.
    by_cases hmem : f ∈ taken.map Path.normalize
    · rcases List.mem_map.mp hmem with ⟨c, hc, hcf⟩
      have hc := candidates_planted m mask tree marked w c (hpre.subset hc)
      rw [← hcf, hc.2.1 (hc.2.2 htree)]
      exact hc.1
    · have hkept := hcontent f
      rw [if_neg hmem] at hkept
      have hsame : ((removeMask m mask).ran before).world.hasFile f = before.hasFile f :=
        congrArg Option.isSome hkept
      rw [hsame, hf] at hgone
      exact absurd hgone.symm Bool.false_ne_true

-- With a backslash it can be another file: the mask `*` fits one of these and takes the other.
example :
    let before := Keyed.bare.holding [("a\\b".toList, []), ("a/b".toList, [])] []
    let after := ((removeAll ⟨true, none, none⟩ (.mask ['*'])).ran before).world
    (Mask.compile ['*'] false).fits "a/b".toList = false ∧
      after.hasFile "a/b".toList = false ∧ after.hasFile "a\\b".toList = true := by decide

end Maskwalk
