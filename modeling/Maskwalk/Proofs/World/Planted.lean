import Maskwalk.Proofs.World.Ordinary

/-!
# Planted worlds

A world of keys is planted by adding paths to the bare one, each with the directories above it, and
some of its directories may list markers at last. What such a world holds is a tree of keys, but
little more is certain: names may hold anything but a slash, they may look absolute where they
stand, and a path may have been added as a directory and as a file, so that its name is listed
twice.

`Grown` says what is certain: keys are built from names, what is above a key is a directory, and a
directory lists a name as often as it stands for something. Adding a directory or a file keeps this,
one name after the other.

Directories added to the bare world alone make a chain, and a chain of plain names is an ordinary
world.

## Main definitions

* `Keyed.Grown`: a world that holds a tree of keys.
* `Keyed.AddsEntry`: a world with one more name in a directory.
* `Keyed.planted`: the world with the given paths.

## Theorems

* `AddsEntry.grown`: One more name in a directory.
* `addDir_grown`, `addFile_grown`: A directory and a file, with all that is above.
* `planted_grown`: Planted worlds hold a tree of keys.
* `ordinary_chain`: A directory on its own, with those above it.
-/

namespace Maskwalk

open Maskwalk.Path (Below Within child IsName)

namespace Keyed

/-- A world that holds a tree of keys: the two roots are there, keys are built from names, above a
    key is a directory, and a directory lists a name once if it stands for a directory and once if
    it stands for a file. Markers are listed besides, if there may be any. -/
structure Grown (marks : Prop) (w : Keyed) : Prop where
  here : w.hasDir [] = true
  root : w.hasDir ['/'] = true
  key : ∀ k, w.has k = true → Path.InTree k
  above : ∀ d n, Path.InTree d → IsName n → w.has (child d n) = true → w.hasDir d = true
  name : ∀ d names, w.names? d = some names → ∀ n ∈ names, IsName n ∨ (marks ∧ isMark n = true)
  count : ∀ d names, w.names? d = some names → ∀ n, IsName n →
    names.count n = (w.hasDir (child d n)).toNat + (w.hasFile (child d n)).toNat

theorem grown_bare : Grown False bare := by
  have hcases : ∀ k, bare.has k = true → k = [] ∨ k = ['/'] := by
    intro k hk
    have hmem := bare.mem_keys_of_has k hk
    simpa only [keys, bare, List.map_cons, List.map_nil, List.append_nil, List.mem_cons,
      List.not_mem_nil, or_false] using hmem
  have hempty : ∀ d names, bare.names? d = some names → names = [] := by
    intro d names hd
    have hmem := mem_of_valueOf? d names _ hd
    simp only [bare, List.mem_cons, Prod.mk.injEq, List.not_mem_nil, or_false] at hmem
    exact hmem.elim And.right And.right
  -- Its two directories are no entries of anything.
  have hchild : ∀ d n, IsName n → bare.has (child d n) = false := by
    intro d n hn
    rw [Bool.eq_false_iff]
    intro hk
    rcases hcases _ hk with h0 | h0
    · exact Path.child_ne_nil d n hn.ne_nil h0
    · exact Path.child_ne_root d n hn.ne_nil hn.no_slash h0
  refine ⟨rfl, rfl, fun k hk => ?_, fun d n _ hn hk => ?_, fun d names hd n hn => ?_,
    fun d names hd n hn => ?_⟩
  · rcases hcases k hk with hk | hk
    · rw [hk]
      exact Path.InTree.here
    · rw [hk]
      exact Path.InTree.root
  · rw [hchild d n hn] at hk
    exact absurd hk Bool.false_ne_true
  · rw [hempty d names hd] at hn
    exact absurd hn List.not_mem_nil
  · have hno := hchild d n hn
    rw [has, Bool.or_eq_false_iff] at hno
    rw [hempty d names hd, hno.1, hno.2]
    rfl

section

variable {marks : Prop} {w : Keyed}

/-- What a world holds is read off its names and files. -/
theorem Grown.congr (h : w.Grown marks) (w' : Keyed) (hnames : ∀ d, w'.names? d = w.names? d)
    (hfile : ∀ f, w'.hasFile f = w.hasFile f) : w'.Grown marks := by
  have hdir : ∀ d, w'.hasDir d = w.hasDir d := fun d => congrArg Option.isSome (hnames d)
  have hhas : ∀ k, w'.has k = w.has k := fun k => by rw [has, has, hdir, hfile]
  refine ⟨by rw [hdir, h.here], by rw [hdir, h.root], fun k hk => h.key k (by rw [← hhas, hk]),
    fun d n hd hn hk => ?_, fun d names hd => ?_, fun d names hd n hn => ?_⟩
  · rw [hdir]
    exact h.above d n hd hn (by rw [← hhas, hk])
  · exact h.name d names (by rw [← hnames, hd])
  · rw [hdir, hfile]
    exact h.count d names (by rw [← hnames, hd]) n hn

end

/-- A world with one more name in a directory, that of a new directory or of a new file. -/
structure AddsEntry (w : Keyed) (d n : Text) (asDir : Bool) (w' : Keyed) : Prop where
  above : w.hasDir d = true
  name : IsName n
  fresh : (if asDir then w.hasDir (child d n) else w.hasFile (child d n)) = false
  names : ∀ q, w'.names? q = if asDir = true ∧ q = child d n then some [] else
    (w.names? q).map fun names => if q = d then names ++ [n] else names
  file : ∀ q, w'.hasFile q = (w.hasFile q || (!asDir && decide (q = child d n)))

namespace AddsEntry

variable {marks : Prop} {w w' : Keyed} {d n : Text} {asDir : Bool} (ha : w.AddsEntry d n asDir w')

include ha

theorem hasDir_eq (q : Path) : w'.hasDir q = (w.hasDir q || (asDir && decide (q = child d n))) := by
  change (w'.names? q).isSome = _
  rw [ha.names]
  by_cases hq : asDir = true ∧ q = child d n
  · rw [if_pos hq, hq.1, decide_eq_true hq.2, Bool.true_and, Bool.or_true]
    rfl
  · rw [if_neg hq, Option.isSome_map]
    have hno : (asDir && decide (q = child d n)) = false := by
      rw [Bool.eq_false_iff, ne_eq, Bool.and_eq_true, decide_eq_true_eq]
      exact hq
    rw [hno, Bool.or_false]
    rfl

theorem has_iff (q : Path) : w'.has q = true ↔ w.has q = true ∨ q = child d n := by
  rw [has, has, ha.hasDir_eq, ha.file]
  cases asDir <;> simp only [Bool.not_false, Bool.not_true, Bool.true_and, Bool.false_and,
    Bool.or_false, Bool.or_eq_true, decide_eq_true_eq] <;> tauto

theorem hasDir_of (q : Path) (hq : w.hasDir q = true) : w'.hasDir q = true := by
  rw [ha.hasDir_eq, hq, Bool.true_or]

/-- A listing is that of the new directory, with nothing in it, or an old one, perhaps with the new
    name behind it. -/
theorem names_cases (e : Path) (names : List Text) (he : w'.names? e = some names) :
    (asDir = true ∧ e = child d n ∧ names = []) ∨
      ∃ old, w.names? e = some old ∧ names = if e = d then old ++ [n] else old := by
  rw [ha.names] at he
  by_cases hq : asDir = true ∧ e = child d n
  · rw [if_pos hq, Option.some.injEq] at he
    exact Or.inl ⟨hq.1, hq.2, he.symm⟩
  · rw [if_neg hq, Option.map_eq_some_iff] at he
    rcases he with ⟨old, hold, heq⟩
    exact Or.inr ⟨old, hold, heq.symm⟩

/-- So whatever is listed was listed before, or is the new name. -/
theorem mem_names_cases (e : Path) (names : List Text) (he : w'.names? e = some names) (m : Text)
    (hm : m ∈ names) : (∃ old, w.names? e = some old ∧ m ∈ old) ∨ (e = d ∧ m = n) := by
  rcases ha.names_cases e names he with ⟨_, _, hnil⟩ | ⟨old, hold, heq⟩
  · rw [hnil] at hm
    exact absurd hm List.not_mem_nil
  · by_cases hed : e = d
    · rw [heq, if_pos hed] at hm
      rcases List.mem_append.mp hm with hm | hm
      · exact Or.inl ⟨old, hold, hm⟩
      · exact Or.inr ⟨hed, List.mem_singleton.mp hm⟩
    · rw [heq, if_neg hed] at hm
      exact Or.inl ⟨old, hold, hm⟩

/-- A directory that was there lists what it listed, and the one above the new entry its name
    too. -/
theorem names_kept (e : Path) (names : List Text) (he : w.names? e = some names) :
    w'.names? e = some (if e = d then names ++ [n] else names) := by
  have hold : ¬ (asDir = true ∧ e = child d n) := by
    rintro ⟨hdir, hnew⟩
    have hfresh := ha.fresh
    rw [if_pos hdir, ← hnew, (w.hasDir_iff e).mpr ⟨names, he⟩] at hfresh
    exact Bool.false_ne_true hfresh.symm
  rw [ha.names, if_neg hold, he, Option.map_some]

variable (h : w.Grown marks)

include h

theorem inTree : Path.InTree d := h.key d (w.has_of_hasDir d ha.above)

/-- There is nothing in a new directory, since nothing was below its key. -/
theorem has_within_new (hnew : asDir = true) (m : Text) (hm : IsName m) :
    w'.has (child (child d n) m) = false := by
  rw [Bool.eq_false_iff, ne_eq, ha.has_iff]
  rintro (hk | hk)
  · have hup := h.above _ m (Path.InTree.child (ha.inTree h) ha.name) hm hk
    have hfresh := ha.fresh
    rw [if_pos hnew, hup] at hfresh
    exact absurd hfresh.symm Bool.false_ne_true
  -- The entry of the new directory is longer than the directory, so it is not the new key.
  · have hlen := Path.length_lt_child (child d n) m hm.ne_nil
    rw [hk] at hlen
    exact Nat.lt_irrefl _ hlen

/-- The new name is listed once more, and stands for one more thing. -/
theorem count_new (old : List Text) (hold : w.names? d = some old) :
    (old ++ [n]).count n = (w'.hasDir (child d n)).toNat + (w'.hasFile (child d n)).toNat := by
  have hfresh := ha.fresh
  rw [List.count_append, List.count_singleton_self, h.count d old hold n ha.name, ha.hasDir_eq,
    ha.file]
  cases asDir with
  | true =>
      rw [if_pos rfl] at hfresh
      rw [hfresh]
      simp only [decide_true, Bool.and_true, Bool.or_true, Bool.not_true, Bool.or_false,
        Bool.toNat_true, Bool.toNat_false]
      omega
  | false =>
      rw [if_neg Bool.false_ne_true] at hfresh
      rw [hfresh]
      simp only [decide_true, Bool.and_true, Bool.or_true, Bool.not_false, Bool.or_false,
        Bool.toNat_true, Bool.toNat_false]

/-- Every other name is listed as before, and stands for the same. -/
theorem count_old (e m : Text) (hm : IsName m) (hother : ¬ (e = d ∧ m = n)) (old : List Text)
    (hold : w.names? e = some old) : (if e = d then old ++ [n] else old).count m =
      (w'.hasDir (child e m)).toNat + (w'.hasFile (child e m)).toNat := by
  have hetree := h.key e (w.has_of_hasDir e ((w.hasDir_iff e).mpr ⟨old, hold⟩))
  -- The key of another entry is another key, so the new one changes nothing about it.
  have hkey : decide (child e m = child d n) = false := decide_eq_false fun hc =>
    hother (Path.InTree.child_inj e d m n hetree (ha.inTree h) hm ha.name hc)
  rw [ha.hasDir_eq, ha.file, hkey, Bool.and_false, Bool.and_false, Bool.or_false, Bool.or_false,
    ← h.count e old hold m hm]
  by_cases hed : e = d
  · have hne : n ≠ m := fun hmn => hother ⟨hed, hmn.symm⟩
    rw [if_pos hed, List.count_append, List.count_singleton, beq_eq_false_iff_ne.mpr hne]
    rfl
  · rw [if_neg hed]

/-- One more name in a directory leaves a tree of keys. -/
theorem grown : w'.Grown marks := by
  refine ⟨ha.hasDir_of _ h.here, ha.hasDir_of _ h.root, fun k hk => ?_, fun e m he hm hk => ?_,
    fun e names he m hm => ?_, fun e names he m hm => ?_⟩
  · rcases (ha.has_iff k).mp hk with hk | hk
    · exact h.key k hk
    · rw [hk]
      exact Path.InTree.child (ha.inTree h) ha.name
  · rcases (ha.has_iff _).mp hk with hk | hk
    · exact ha.hasDir_of e (h.above e m he hm hk)
    · rw [(Path.InTree.child_inj e d m n he (ha.inTree h) hm ha.name hk).1]
      exact ha.hasDir_of d ha.above
  · rcases ha.mem_names_cases e names he m hm with ⟨old, hold, hm⟩ | ⟨_, hmn⟩
    · exact h.name e old hold m hm
    · rw [hmn]
      exact Or.inl ha.name
  · rcases ha.names_cases e names he with ⟨hnew, hed, hnil⟩ | ⟨old, hold, heq⟩
    · have hno := ha.has_within_new h hnew m hm
      rw [has, Bool.or_eq_false_iff] at hno
      rw [hnil, hed, hno.1, hno.2]
      rfl
    -- In an old listing only the new name in its own directory counts once more.
    · by_cases hboth : e = d ∧ m = n
      · rw [hboth.1] at hold heq ⊢
        rw [if_pos rfl] at heq
        rw [heq, hboth.2]
        exact ha.count_new h old hold
      · rw [heq]
        exact ha.count_old h e m hm hboth old hold

end AddsEntry

/-- The table of directories with one more name in a directory, and perhaps one more directory. -/
theorem names_listed (dirs : List (Path × List Text)) (d q : Path) (n : Text) :
    valueOf? q (listed dirs d n) =
      (valueOf? q dirs).map fun names => if q = d then names ++ [n] else names :=
  valueOf?_changed dirs d q (· ++ [n])

theorem valueOf?_append_singleton {ν : Type} (table : List (Path × ν)) (k q : Path) (v : ν) :
    valueOf? q (table ++ [(k, v)]) = (valueOf? q table).or (if k = q then some v else none) := by
  induction table with
  | nil => rfl
  | cons entry rest ih =>
      rw [List.cons_append, valueOf?, valueOf?]
      by_cases hq : entry.1 = q
      · rw [if_pos hq, if_pos hq, Option.some_or]
      · rw [if_neg hq, if_neg hq, ih]

theorem valueOf?_withValue {ν : Type} (table : List (Path × ν)) (k q : Path) (v : ν) :
    valueOf? q (withValue k v table) = if q = k then some v else valueOf? q table := by
  induction table with
  | nil =>
      by_cases hq : q = k
      · rw [if_pos hq]
        exact if_pos hq.symm
      · rw [if_neg hq]
        exact if_neg (Ne.symm hq)
  | cons entry rest ih =>
      rw [withValue, valueOf?]
      by_cases hk : entry.1 = k
      · rw [if_pos hk, valueOf?, hk]
        by_cases hq : q = k
        · rw [if_pos hq.symm, if_pos hq]
        · rw [if_neg (Ne.symm hq), if_neg hq, if_neg (Ne.symm hq)]
      · rw [if_neg hk, valueOf?, ih]
        by_cases hq : q = k
        · rw [if_neg (by rw [hq]; exact hk), if_pos hq, if_pos hq]
        · rw [if_neg hq, if_neg hq]

/-- What is within a key in the world is in the world. -/
theorem Grown.hasDir_of_within {marks : Prop} {w : Keyed} (h : w.Grown marks) (p q : Path)
    (hp : w.hasDir p = true) (hq : Within q p) : w.hasDir q = true := by
  have htree := h.key p (w.has_of_hasDir p hp)
  induction htree with
  | here =>
      rw [(Path.within_here q).mp hq]
      exact hp
  | root =>
      rw [(Path.within_root q).mp hq]
      exact hp
  | @child d n above name ih =>
      rcases (Path.within_child q d n name.ne_nil name.no_slash).mp hq with hq | hq
      · rw [← hq]
        exact hp
      · exact ih (h.above d n above name (w.has_of_hasDir _ hp)) hq

/-- Adding a directory changes the table of directories alone. -/
theorem addDirWithin_frame (fuel : Nat) : ∀ (p : Path) (w : Keyed),
    ∃ dirs, addDirWithin fuel p w = { w with dirs } := by
  induction fuel with
  | zero =>
      intro p w
      exact ⟨w.dirs, rfl⟩
  | succ fuel ih =>
      intro p w
      rw [addDirWithin]
      by_cases hp : w.hasDir p = true
      · rw [if_pos hp]
        exact ⟨w.dirs, rfl⟩
      · rw [if_neg hp]
        rcases ih (parent p) w with ⟨dirs, hdirs⟩
        simp only [hdirs]
        exact ⟨_, rfl⟩

/-- A directory that is there need not be added. -/
theorem addDirWithin_there (fuel : Nat) (p : Path) (w : Keyed) (hp : w.hasDir p = true) :
    addDirWithin fuel p w = w := by
  cases fuel with
  | zero => rfl
  | succ fuel => rw [addDirWithin, if_pos hp]

/-- A directory that is missing is one more name in the one above, once that is there. -/
theorem addDirWithin_adds (fuel : Nat) (d n : Text) (w : Keyed) (hd : Path.InTree d) (hn : IsName n)
    (hmissing : ¬ w.hasDir (child d n) = true)
    (habove : (addDirWithin fuel d w).hasDir d = true)
    (hfresh : (addDirWithin fuel d w).hasDir (child d n) = false) :
    (addDirWithin fuel d w).AddsEntry d n true (addDirWithin (fuel + 1) (child d n) w) := by
  rw [show addDirWithin (fuel + 1) (child d n) w = _ from rfl, addDirWithin, if_neg hmissing,
    Path.parent_child d n hn.no_slash (Path.InTree.ne_here d hd), Path.name_child d n hn.no_slash]
  refine ⟨habove, hn, by rw [if_pos rfl]; exact hfresh, fun q => ?_, fun q => ?_⟩
  · change valueOf? q (listed ((addDirWithin fuel d w).dirs ++ [(child d n, [])]) d n) = _
    rw [names_listed, valueOf?_append_singleton]
    by_cases hq : q = child d n
    -- The new directory comes last in the table, and its key is not that of the one above.
    · have hnone : valueOf? (child d n) (addDirWithin fuel d w).dirs = none := by
        rw [← Option.not_isSome_iff_eq_none]
        exact Bool.eq_false_iff.mp hfresh
      have hne : child d n ≠ d := fun hc => by
        have hlen := Path.length_lt_child d n hn.ne_nil
        rw [hc] at hlen
        exact Nat.lt_irrefl _ hlen
      simp only [hq, hnone, if_true, Option.none_or, Option.map_some, hne, if_false, and_self]
    · simp only [hq, Ne.symm hq, and_false, if_false, Option.or_none]
      rfl
  · rw [Bool.not_true, Bool.false_and, Bool.or_false]
    rfl

/-- Adding a directory adds what it is within. -/
theorem addDirWithin_grown {marks : Prop} (p : Path) (hp : Path.InTree p) :
    ∀ (fuel : Nat) (w : Keyed), p.length < fuel → w.Grown marks →
      (addDirWithin fuel p w).Grown marks ∧
        ∀ q, (addDirWithin fuel p w).hasDir q = true ↔ w.hasDir q = true ∨ Within q p := by
  -- A directory that is there brings nothing new: all that it is within is there too.
  have hthere : ∀ p (fuel : Nat) (w : Keyed), w.Grown marks → w.hasDir p = true →
      (addDirWithin fuel p w).Grown marks ∧
        ∀ q, (addDirWithin fuel p w).hasDir q = true ↔ w.hasDir q = true ∨ Within q p := by
    intro p fuel w hw hp
    rw [addDirWithin_there fuel p w hp]
    exact ⟨hw, fun q => (or_iff_left_of_imp (hw.hasDir_of_within p q hp)).symm⟩
  -- By induction on the key, as the directory above is added first.
  induction hp with
  | here => exact fun fuel w _ hw => hthere [] fuel w hw hw.here
  | root => exact fun fuel w _ hw => hthere ['/'] fuel w hw hw.root
  | @child d n above name ih =>
      intro fuel w hfuel hw
      by_cases hdir : w.hasDir (child d n) = true
      · exact hthere _ fuel w hw hdir
      · cases fuel with
        | zero => exact absurd hfuel (Nat.not_lt_zero _)
        | succ fuel =>
            have hlen := Path.length_lt_child d n name.ne_nil
            rcases ih fuel w (by omega) hw with ⟨hgrown, hdirs⟩
            -- What is above does not bring the directory with it.
            have hfresh : (addDirWithin fuel d w).hasDir (child d n) = false := by
              rw [Bool.eq_false_iff, ne_eq, hdirs, not_or]
              exact ⟨hdir, Path.not_within_of_below d _
                (Path.below_self_child d n name.ne_nil name.no_slash)⟩
            have hadds := addDirWithin_adds fuel d n w above name hdir
              ((hdirs d).mpr (Or.inr (Or.inl rfl))) hfresh
            refine ⟨hadds.grown hgrown, fun q => ?_⟩
            rw [hadds.hasDir_eq, Bool.true_and, Bool.or_eq_true, decide_eq_true_eq, hdirs,
              Path.within_child q d n name.ne_nil name.no_slash, eq_comm (a := q)]
            tauto

/-- A directory added to a world, with those above it that are missing. -/
theorem addDir_grown {marks : Prop} (w : Keyed) (hw : w.Grown marks) (p : Path)
    (hp : Path.InTree p) : (w.addDir p).Grown marks ∧
      ∀ q, (w.addDir p).hasDir q = true ↔ w.hasDir q = true ∨ Within q p :=
  addDirWithin_grown p hp (p.length + 1) w (Nat.lt_succ_self _) hw

/-- A file added to a world, with the directories above it that are missing. -/
theorem addFile_grown {marks : Prop} (w : Keyed) (hw : w.Grown marks) (d n content : Text)
    (hd : Path.InTree d) (hn : IsName n) : (w.addFile (child d n) content).Grown marks := by
  rcases addDir_grown w hw d hd with ⟨hgrown, hdirs⟩
  have hpar := Path.parent_child d n hn.no_slash (Path.InTree.ne_here d hd)
  rw [addFile, hpar, Path.name_child d n hn.no_slash]
  have hfile : ∀ q, (valueOf? q (withValue (child d n) content (w.addDir d).files)).isSome =
      ((w.addDir d).hasFile q || decide (q = child d n)) := by
    intro q
    rw [valueOf?_withValue]
    by_cases hq : q = child d n
    · rw [if_pos hq, decide_eq_true hq, Bool.or_true]
      rfl
    · rw [if_neg hq, decide_eq_false hq, Bool.or_false]
      rfl
  -- A file that is there gets other content and no second name in its directory.
  by_cases hthere : (w.addDir d).hasFile (child d n) = true
  · simp only [hthere, if_true]
    refine hgrown.congr _ (fun q => rfl) (fun q => (hfile q).trans ?_)
    by_cases hq : q = child d n
    · rw [hq, hthere, Bool.true_or]
    · rw [decide_eq_false hq, Bool.or_false]
  · simp only [hthere, Bool.false_eq_true, if_false]
    refine (?_ : (w.addDir d).AddsEntry d n false _).grown hgrown
    refine ⟨(hdirs d).mpr (Or.inr (Or.inl rfl)), hn,
      by rw [if_neg Bool.false_ne_true]; exact Bool.eq_false_iff.mpr hthere, fun q => ?_, hfile⟩
    rw [if_neg (fun hc => Bool.false_ne_true hc.1)]
    exact names_listed _ d q n

/-- Markers listed by a directory stand for nothing in the world. -/
theorem addMarkers_grown {marks : Prop} (w : Keyed) (hw : w.Grown marks) (p : Path) :
    (w.addMarkers p).Grown True := by
  have hnames : ∀ d, (w.addMarkers p).names? d =
      (w.names? d).map fun names => if d = p then Path.dot :: Path.dotDot :: names else names :=
    fun d => valueOf?_changed w.dirs p d (Path.dot :: Path.dotDot :: ·)
  have hdir : ∀ d, (w.addMarkers p).hasDir d = w.hasDir d := by
    intro d
    change ((w.addMarkers p).names? d).isSome = _
    rw [hnames, Option.isSome_map]
    rfl
  have hhas : ∀ k, (w.addMarkers p).has k = w.has k := fun k =>
    congrArg (· || w.hasFile k) (hdir k)
  refine ⟨by rw [hdir, hw.here], by rw [hdir, hw.root], fun k hk => hw.key k (by rw [← hhas, hk]),
    fun d n hd hn hk => ?_, fun d names hd n hn => ?_, fun d names hd n hn => ?_⟩
  · rw [hdir]
    exact hw.above d n hd hn (by rw [← hhas, hk])
  · rw [hnames, Option.map_eq_some_iff] at hd
    rcases hd with ⟨old, hold, heq⟩
    -- An old name stays what it was, and each of the two new ones is a marker.
    have hkeep : n ∈ old → IsName n ∨ (True ∧ isMark n = true) := fun hmem =>
      (hw.name d old hold n hmem).imp_right (fun hm => ⟨trivial, hm.2⟩)
    by_cases hdp : d = p
    · rw [if_pos hdp] at heq
      rw [← heq] at hn
      rcases List.mem_cons.mp hn with hn | hn
      · rw [hn]
        exact Or.inr ⟨trivial, rfl⟩
      · rcases List.mem_cons.mp hn with hn | hn
        · rw [hn]
          exact Or.inr ⟨trivial, rfl⟩
        · exact hkeep hn
    · rw [if_neg hdp] at heq
      rw [← heq] at hn
      exact hkeep hn
  · rw [hnames, Option.map_eq_some_iff] at hd
    rcases hd with ⟨old, hold, heq⟩
    rw [hdir, ← heq]
    refine Eq.trans ?_ (hw.count d old hold n hn)
    -- Markers are not names, so they are not counted.
    by_cases hdp : d = p
    · rw [if_pos hdp, List.count_cons_of_ne (Ne.symm hn.ne_dot),
        List.count_cons_of_ne (Ne.symm hn.ne_dotDot)]
    · rw [if_neg hdp]

/-- A path added to a world with its content: as a directory if it ends in a slash, and as a file
    if not. -/
def plant (w : Keyed) (entry : Path × Text) : Keyed :=
  if entry.1.getLast? = some '/' then w.addDir entry.1.dropLast else w.addFile entry.1 entry.2

/-- The world with the given paths, in which some directories list markers. -/
def planted (tree : List (Path × Text)) (marked : List Path) : Keyed :=
  marked.foldl (fun w p => w.addMarkers p) (tree.foldl plant bare)

/-- A path that a world can be planted with: names with slashes between them, behind a slash or not,
    and with a slash at the end if it stands for a directory. -/
def IsPlantable (p : Path) : Prop :=
  if p.getLast? = some '/' then Path.InTree p.dropLast else Path.InTree p ∧ p ≠ []

theorem plant_grown {marks : Prop} (w : Keyed) (hw : w.Grown marks) (entry : Path × Text)
    (he : IsPlantable entry.1) : (w.plant entry).Grown marks := by
  rcases entry with ⟨k, content⟩
  rw [IsPlantable] at he
  rw [plant]
  simp only at he ⊢
  by_cases hs : k.getLast? = some '/'
  · rw [if_pos hs] at he ⊢
    exact (addDir_grown w hw _ he).1
  · rw [if_neg hs] at he ⊢
    rcases he with ⟨htree, hne⟩
    cases htree with
    | here => exact absurd rfl hne
    | root => exact absurd rfl hs
    | @child d n hd hn => exact addFile_grown w hw d n content hd hn

/-- Planted worlds hold a tree of keys. -/
theorem planted_grown (tree : List (Path × Text)) (marked : List Path)
    (htree : ∀ entry ∈ tree, IsPlantable entry.1) : (planted tree marked).Grown True := by
  -- One path after the other is planted, and then one directory after the other marked.
  have hplant : ∀ w : Keyed, w.Grown False → (tree.foldl plant w).Grown False := by
    induction tree with
    | nil => exact fun w hw => hw
    | cons entry more ih =>
        intro w hw
        exact ih (fun e he => htree e (List.mem_cons_of_mem _ he)) _
          (plant_grown w hw entry (htree entry List.mem_cons_self))
  have hmark : ∀ w : Keyed, w.Grown True →
      (marked.foldl (fun w p => w.addMarkers p) w).Grown True := by
    induction marked with
    | nil => exact fun w hw => hw
    | cons p more ih => exact fun w hw => ih _ (addMarkers_grown w hw p)
  have hgrown := hplant bare grown_bare
  refine hmark _ ⟨hgrown.here, hgrown.root, hgrown.key, hgrown.above, fun d names hd n hn => ?_,
    hgrown.count⟩
  exact (hgrown.name d names hd n hn).imp_right (fun hm => ⟨trivial, hm.2⟩)

/-- A key that is not both a directory and a file is held once or not at all. -/
theorem toNat_apart (w : Keyed) (k : Path) (h : ¬ (w.hasDir k = true ∧ w.hasFile k = true)) :
    (w.hasDir k).toNat + (w.hasFile k).toNat = (w.has k).toNat := by
  rw [has]
  revert h
  cases w.hasDir k <;> cases w.hasFile k <;> decide

namespace Grown

variable {w : Keyed} (h : w.Grown False)

include h

theorem isName_of_mem (d : Path) (names : List Text) (hd : w.names? d = some names) (n : Text)
    (hn : n ∈ names) : IsName n :=
  (h.name d names hd n hn).resolve_right (fun hm => hm.1)

/-- A world that holds a tree of regular keys without markers, none of them a directory and a file,
    is coherent. -/
theorem coherent (hkeys : ∀ k, w.has k = true → Path.IsRegular k)
    (hapart : ∀ k, ¬ (w.hasDir k = true ∧ w.hasFile k = true)) : w.Coherent := by
  refine ⟨hkeys, fun k hk h0 hr => ?_, fun d names hd n hn => ?_, hapart⟩
  · cases h.key k hk with
    | here => exact absurd rfl h0
    | root => exact absurd rfl hr
    | @child d n hd hn =>
        rcases (w.hasDir_iff d).mp (h.above d n hd hn hk) with ⟨names, hnames⟩
        have hcount := h.count d names hnames n hn
        rw [Path.parent_child d n hn.no_slash (Path.InTree.ne_here d hd),
          Path.name_child d n hn.no_slash]
        -- The name is listed as often as its key is held, and that is once.
        refine ⟨names, hnames, ?_⟩
        rw [hcount, toNat_apart w _ (hapart _), hk]
        rfl
  · have hname := h.isName_of_mem d names hd n hn
    have htree := h.key d (w.has_of_hasDir d ((w.hasDir_iff d).mpr ⟨names, hd⟩))
    have hcount := h.count d names hd n hname
    -- A listed name counts at least once, so its key is a directory or a file.
    have hk : w.has (child d n) = true := by
      by_contra hno
      rw [toNat_apart w _ (hapart _), Bool.eq_false_iff.mpr hno] at hcount
      exact List.count_eq_zero.mp hcount hn
    refine ⟨child d n, hk, Path.child_ne_nil d n hname.ne_nil,
      Path.child_ne_root d n hname.ne_nil hname.no_slash,
      Path.parent_child d n hname.no_slash (Path.InTree.ne_here d htree),
      Path.name_child d n hname.no_slash⟩

/-- If its keys are ordinary, such a world is ordinary. -/
theorem ordinary (hkeys : ∀ k, w.has k = true → Path.IsOrdinary k)
    (hapart : ∀ k, ¬ (w.hasDir k = true ∧ w.hasFile k = true)) : w.Ordinary := by
  have hc := h.coherent (fun k hk => (hkeys k hk).regular) hapart
  exact ⟨fun k hk => (hkeys k hk).normal, fun k hk => (hkeys k hk).no_share,
    fun k hk => (hkeys k hk).plain, hc.above, hc.entry, hc.apart, hc.no_marks⟩

end Grown

section

variable (t : Path) (ht : Path.IsOrdinary t)

include ht

/-- The directories of a chain are the two roots and what its end is within. -/
theorem hasDir_chain (q : Path) :
    (bare.addDir t).hasDir q = true ↔ (q = [] ∨ q = ['/']) ∨ Within q t := by
  rw [(addDir_grown bare grown_bare t (ht.proper.inTree)).2 q]
  refine or_congr_left ⟨fun hq => ?_, fun hq => ?_⟩
  · have hmem := bare.mem_keys_of_has q (bare.has_of_hasDir q hq)
    simpa only [keys, bare, List.map_cons, List.map_nil, List.append_nil, List.mem_cons,
      List.not_mem_nil, or_false] using hmem
  · rcases hq with hq | hq
    · rw [hq]
      rfl
    · rw [hq]
      rfl

omit ht in
theorem hasFile_chain (q : Path) : (bare.addDir t).hasFile q = false := by
  rcases addDirWithin_frame (t.length + 1) t bare with ⟨dirs, hdirs⟩
  rw [addDir, hdirs]
  rfl

theorem has_chain (k : Path) (hk : (bare.addDir t).has k = true) :
    (k = [] ∨ k = ['/']) ∨ Within k t := by
  rw [has, hasFile_chain, Bool.or_false] at hk
  exact (hasDir_chain t ht k).mp hk

omit ht in
/-- In a chain everything may be listed, changed and removed. -/
theorem chain_free : (bare.addDir t).denied = [] ∧ (bare.addDir t).readonly = [] ∧
    (bare.addDir t).faults = [] := by
  rcases addDirWithin_frame (t.length + 1) t bare with ⟨dirs, hdirs⟩
  rw [addDir, hdirs]
  exact ⟨rfl, rfl, rfl⟩

/-- An ordinary path makes an ordinary world, the chain that ends in it. -/
theorem ordinary_chain : (bare.addDir t).Ordinary := by
  have hgrown := (addDir_grown bare grown_bare t (ht.proper.inTree)).1
  refine hgrown.ordinary (fun k hk => ?_) (fun k hk => ?_)
  · rcases has_chain t ht k hk with (hk | hk) | hk
    · rw [hk]
      exact ⟨rfl, by decide, by decide⟩
    · rw [hk]
      exact ⟨by decide, by decide, by decide⟩
    · exact ht.of_within t k hk
  · rw [hasFile_chain] at hk
    exact Bool.false_ne_true hk.2

/-- There is nothing in the end of a chain. -/
theorem names_chain_end : (bare.addDir t).names? t = some [] := by
  have hw := ordinary_chain t ht
  rcases ((bare.addDir t).hasDir_iff t).mp ((hasDir_chain t ht t).mpr (Or.inr (Or.inl rfl))) with
    ⟨names, hnames⟩
  rw [hnames, Option.some.injEq, List.eq_nil_iff_forall_not_mem]
  intro n hn
  -- An entry would be in the world, and the chain holds nothing below its end.
  rcases hw.entry_of_mem t names n hnames hn with ⟨hl, hk⟩
  have hbelow := Path.below_self_child t n hl.ne_nil hl.no_slash
  rcases has_chain t ht _ hk with hk | hk
  · have hne := Path.ne_root_of_below t _ hbelow
    exact hk.elim hne.1 hne.2
  · exact Path.not_within_of_below t _ hbelow hk

end

end Keyed

end Maskwalk
