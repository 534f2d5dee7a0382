import Maskwalk.Proofs.Path.Regular

/-!
# Ordinary worlds

A table of keys can hold more than a tree: keys that no path reaches, directories that list what
is not there, names that lead elsewhere. `Coherent` says that it holds a tree of regular keys and
nothing else, and `Ordinary` that besides every name in this tree leads to its entry. Denied,
read-only and faulty keys are left open, since they are about what may be done with the tree and
not about the tree.

Of a coherent world little is needed but that every name in a directory is that of an entry, and
stands there once. Of an ordinary one it is needed too that its keys are proper.

## Main definitions

* `Keyed.names?`, `Keyed.content?`: the names in a directory, and the content of a file.
* `Keyed.has`: whether a key is a directory or a file.
* `Keyed.IsEntry`: a file that is the entry of a directory.
* `Keyed.Coherent`: a world that holds a tree.
* `Keyed.Ordinary`: a coherent world in which every name leads to its entry.
* `Keyed.keys`: all keys of a world, with which it is decided whether a world is ordinary.
* `Keyed.grove`: a small ordinary world.

## Theorems

* `Coherent.entry_of_mem`, `Coherent.nodup`: The names in a directory.
* `Coherent.entry_of_key`: What a key of a coherent world is.
* `Ordinary.proper`, `Ordinary.leads`: Keys, and the names in a directory.
* `Ordinary.listed_iff`: A directory lists the names of its entries.
* `Ordinary.entry_of_key`: What a key of an ordinary world is.
* `Ordinary.hasDir_of_below`, `Ordinary.entry_above`: What is above a key.
-/

namespace Maskwalk

open Maskwalk.Path (Below Within child IsName)

namespace Keyed

/-- The names in a directory, if it is one. -/
def names? (w : Keyed) (dir : Path) : Option (List Text) := valueOf? dir w.dirs

/-- The content of a file, if it is one. -/
def content? (w : Keyed) (file : Path) : Option Text := valueOf? file w.files

/-- Whether a key is a directory or a file. -/
def has (w : Keyed) (k : Path) : Bool := w.hasDir k || w.hasFile k

theorem hasDir_iff (w : Keyed) (d : Path) :
    w.hasDir d = true ↔ ∃ names, w.names? d = some names := by
  rw [hasDir, Option.isSome_iff_exists]
  rfl

theorem hasFile_iff (w : Keyed) (f : Path) :
    w.hasFile f = true ↔ ∃ text, w.content? f = some text := by
  rw [hasFile, Option.isSome_iff_exists]
  rfl

theorem has_of_hasDir (w : Keyed) (d : Path) (h : w.hasDir d = true) : w.has d = true := by
  rw [has, h, Bool.true_or]

theorem has_of_hasFile (w : Keyed) (f : Path) (h : w.hasFile f = true) : w.has f = true := by
  rw [has, h, Bool.or_true]

/-- A file that is none of the roots. In every world that is built up from the bare one the roots
    are directories, so there all files are entries. -/
structure IsEntry (w : Keyed) (f : Path) : Prop where
  file : w.hasFile f = true
  ne_here : f ≠ []
  ne_root : f ≠ ['/']

/-- A world that holds a tree: every key is regular; every key but the two roots is listed once by
    the directory above it; every listed name belongs to a key; and no key is a directory and a
    file. -/
structure Coherent (w : Keyed) : Prop where
  regular : ∀ k, w.has k = true → Path.IsRegular k
  above : ∀ k, w.has k = true → k ≠ [] → k ≠ ['/'] →
    ∃ names, w.names? (parent k) = some names ∧ names.count (name k) = 1
  entry : ∀ d names, w.names? d = some names → ∀ n ∈ names,
    ∃ k, w.has k = true ∧ k ≠ [] ∧ k ≠ ['/'] ∧ parent k = d ∧ name k = n
  apart : ∀ k, ¬ (w.hasDir k = true ∧ w.hasFile k = true)

/-- A world that holds an ordinary tree: every key is a normal form with plain segments that is not
    on a share; every key but the two roots is listed once by the directory above it; every listed
    name belongs to a key; no key is a directory and a file; and no directory lists markers. -/
structure Ordinary (w : Keyed) : Prop where
  normal : ∀ k, w.has k = true → Path.normalize k = k
  no_share : ∀ k, w.has k = true → ¬ ['/', '/'] <+: k
  plain : ∀ k, w.has k = true → ∀ s ∈ Path.segments k, Path.IsPlain s
  above : ∀ k, w.has k = true → k ≠ [] → k ≠ ['/'] →
    ∃ names, w.names? (parent k) = some names ∧ names.count (name k) = 1
  entry : ∀ d names, w.names? d = some names → ∀ n ∈ names,
    ∃ k, w.has k = true ∧ k ≠ [] ∧ k ≠ ['/'] ∧ parent k = d ∧ name k = n
  apart : ∀ k, ¬ (w.hasDir k = true ∧ w.hasFile k = true)
  no_marks : ∀ d names, w.names? d = some names → ∀ n ∈ names, isMark n = false

/-- All keys of a world. -/
def keys (w : Keyed) : List Path := w.dirs.map (·.1) ++ w.files.map (·.1)

theorem mem_of_valueOf? {ν : Type} (k : Path) (v : ν) (table : List (Path × ν))
    (h : valueOf? k table = some v) : (k, v) ∈ table := by
  induction table with
  | nil => exact absurd h (by simp only [valueOf?, reduceCtorEq, not_false_eq_true])
  | cons entry rest ih =>
      rw [valueOf?] at h
      by_cases hk : entry.1 = k
      · rw [if_pos hk, Option.some.injEq] at h
        rw [← hk, ← h]
        exact List.mem_cons_self
      · rw [if_neg hk] at h
        exact List.mem_cons_of_mem _ (ih h)

/-- A table in which the names of one directory have been changed. -/
theorem valueOf?_changed (dirs : List (Path × List Text)) (dir q : Path)
    (change : List Text → List Text) :
    valueOf? q (dirs.map fun entry => if entry.1 = dir then (entry.1, change entry.2) else entry) =
      (valueOf? q dirs).map fun names => if q = dir then change names else names := by
  induction dirs with
  | nil => rfl
  | cons entry rest ih =>
      rw [List.map_cons]
      by_cases hd : entry.1 = dir
      · rw [if_pos hd, valueOf?, valueOf?, ih]
        by_cases hq : entry.1 = q
        · rw [if_pos hq, if_pos hq, Option.map_some, if_pos (by rw [← hq, hd])]
        · rw [if_neg hq, if_neg hq]
      · rw [if_neg hd, valueOf?, valueOf?, ih]
        by_cases hq : entry.1 = q
        · rw [if_pos hq, if_pos hq, Option.map_some, if_neg (by rw [← hq]; exact hd)]
        · rw [if_neg hq, if_neg hq]

/-- A table in which the names of every directory have been changed. -/
theorem valueOf?_mapped (dirs : List (Path × List Text)) (q : Path)
    (change : Path → List Text → List Text) :
    valueOf? q (dirs.map fun entry => (entry.1, change entry.1 entry.2)) =
      (valueOf? q dirs).map (change q) := by
  induction dirs with
  | nil => rfl
  | cons entry rest ih =>
      rw [List.map_cons, valueOf?, valueOf?, ih]
      by_cases hq : entry.1 = q
      · rw [if_pos hq, if_pos hq, Option.map_some, hq]
      · rw [if_neg hq, if_neg hq]

theorem mem_keys_of_has (w : Keyed) (k : Path) (h : w.has k = true) : k ∈ w.keys := by
  rw [has, Bool.or_eq_true, hasDir_iff, hasFile_iff] at h
  rcases h with ⟨names, h⟩ | ⟨text, h⟩
  · exact List.mem_append_left _ (List.mem_map_of_mem (mem_of_valueOf? k names w.dirs h))
  · exact List.mem_append_right _ (List.mem_map_of_mem (mem_of_valueOf? k text w.files h))

/-- Whether a world is ordinary, read off its tables. -/
theorem ordinary_iff (w : Keyed) : w.Ordinary ↔
    (∀ k ∈ w.keys, w.has k = true → Path.normalize k = k ∧ ¬ ['/', '/'] <+: k ∧
      (∀ s ∈ Path.segments k, Path.IsPlain s) ∧
      (k ≠ [] → k ≠ ['/'] → ((w.names? (parent k)).getD []).count (name k) = 1) ∧
      ¬ (w.hasDir k = true ∧ w.hasFile k = true)) ∧
    ∀ d ∈ w.keys, ∀ n ∈ (w.names? d).getD [], isMark n = false ∧
      ∃ k ∈ w.keys, w.has k = true ∧ k ≠ [] ∧ k ≠ ['/'] ∧ parent k = d ∧ name k = n := by
  constructor
  · intro h
    refine ⟨fun k _ hk => ⟨h.normal k hk, h.no_share k hk, h.plain k hk, fun h0 hr => ?_,
      h.apart k⟩, fun d _ n hn => ?_⟩
    · rcases h.above k hk h0 hr with ⟨names, hnames, hcount⟩
      rw [hnames]
      exact hcount
    · cases hd : w.names? d with
      | none =>
          rw [hd] at hn
          exact absurd hn List.not_mem_nil
      | some names =>
          rw [hd] at hn
          rcases h.entry d names hd n hn with ⟨k, hk, hrest⟩
          exact ⟨h.no_marks d names hd n hn, k, w.mem_keys_of_has k hk, hk, hrest⟩
  · rintro ⟨hkey, hentry⟩
    have hall := fun k hk => hkey k (w.mem_keys_of_has k hk) hk
    -- Only keys of the tables have names at all, so looking at those is enough.
    have hin : ∀ d names, w.names? d = some names → ∀ n ∈ names, isMark n = false ∧
        ∃ k ∈ w.keys, w.has k = true ∧ k ≠ [] ∧ k ≠ ['/'] ∧ parent k = d ∧ name k = n := by
      intro d names hd n hn
      have hdir := w.has_of_hasDir d ((w.hasDir_iff d).mpr ⟨names, hd⟩)
      exact hentry d (w.mem_keys_of_has d hdir) n (by rw [hd]; exact hn)
    refine ⟨fun k hk => (hall k hk).1, fun k hk => (hall k hk).2.1, fun k hk => (hall k hk).2.2.1,
      fun k hk h0 hr => ?_, fun d names hd n hn => ?_, fun k hk => ?_,
      fun d names hd n hn => (hin d names hd n hn).1⟩
    · have hcount := (hall k hk).2.2.2.1 h0 hr
      cases hp : w.names? (parent k) with
      | none =>
          rw [hp] at hcount
          exact absurd hcount Nat.zero_ne_one
      | some names =>
          rw [hp] at hcount
          exact ⟨names, rfl, hcount⟩
    · rcases (hin d names hd n hn).2 with ⟨k, _, hk⟩
      exact ⟨k, hk⟩
    · exact (hall k (w.has_of_hasDir k hk.1)).2.2.2.2 hk

instance (w : Keyed) : Decidable w.Ordinary := decidable_of_iff _ w.ordinary_iff.symm

/-- A small world: a directory `a` with a file `f` and a directory `b` in it, which holds a file of
    its own, and a file at the root. -/
def grove : Keyed :=
  ((bare.addFile ['a', '/', 'f'] []).addFile ['a', '/', 'b', '/', 'g'] []).addFile ['/', 'r'] []

theorem ordinary_grove : grove.Ordinary := by decide

theorem isMark_of_isName (n : Text) (h : IsName n) : isMark n = false := by
  rw [isMark, decide_eq_false h.ne_dot, decide_eq_false h.ne_dotDot, Bool.or_false]

namespace Coherent

variable {w : Keyed} (h : w.Coherent)

include h

theorem inTree (k : Path) (hk : w.has k = true) : Path.InTree k := (h.regular k hk).inTree

theorem inTree_of_names (d : Path) (names : List Text) (hd : w.names? d = some names) :
    Path.InTree d :=
  h.inTree d (w.has_of_hasDir d ((w.hasDir_iff d).mpr ⟨names, hd⟩))

/-- A name in a directory is that of an entry, which is there. -/
theorem entry_of_mem (d : Path) (names : List Text) (n : Text) (hd : w.names? d = some names)
    (hn : n ∈ names) : IsName n ∧ w.has (child d n) = true := by
  rcases h.entry d names hd n hn with ⟨k, hk, hnil, hroot, hpar, hname⟩
  -- The key behind the name is no root, so it is made of its directory and a name.
  rcases (⟨h.regular k hk, hnil, hroot⟩ : Path.IsInner k).eq_child with ⟨d', m, hd', hm, hkm⟩
  rw [hkm, Path.parent_child d' m hm.no_slash (Path.InTree.ne_here d' hd')] at hpar
  rw [hkm, Path.name_child d' m hm.no_slash] at hname
  rw [← hname, ← hpar, ← hkm]
  exact ⟨hm, hk⟩

/-- A directory is above every key in it. -/
theorem hasDir_above (d n : Path) (hd : Path.InTree d) (hn : IsName n)
    (hk : w.has (child d n) = true) :
    ∃ names, w.names? d = some names ∧ names.count n = 1 := by
  rcases h.above (child d n) hk (Path.child_ne_nil d n hn.ne_nil)
    (Path.child_ne_root d n hn.ne_nil hn.no_slash) with ⟨names, hnames, hcount⟩
  rw [Path.parent_child d n hn.no_slash (Path.InTree.ne_here d hd)] at hnames
  rw [Path.name_child d n hn.no_slash] at hcount
  exact ⟨names, hnames, hcount⟩

/-- Other than the roots, a key is the entry of a directory that lists its name once. -/
theorem entry_of_key (k : Path) (hk : w.has k = true) (h0 : k ≠ []) (hr : k ≠ ['/']) :
    ∃ names, k = child (parent k) (name k) ∧ Path.InTree (parent k) ∧ IsName (name k) ∧
      w.names? (parent k) = some names ∧ names.count (name k) = 1 := by
  rcases (⟨h.regular k hk, h0, hr⟩ : Path.IsInner k).eq_child with ⟨d, n, hd, hn, hkn⟩
  rw [hkn] at hk ⊢
  rw [Path.parent_child d n hn.no_slash (Path.InTree.ne_here d hd), Path.name_child d n hn.no_slash]
  rcases h.hasDir_above d n hd hn hk with ⟨names, hnames, hcount⟩
  exact ⟨names, rfl, hd, hn, hnames, hcount⟩

/-- Other than the roots, a key is not its own directory. -/
theorem parent_ne (k : Path) (hk : w.has k = true) (h0 : k ≠ []) (hr : k ≠ ['/']) :
    parent k ≠ k := by
  intro heq
  rcases h.entry_of_key k hk h0 hr with ⟨_, hkn, _, hn, _, _⟩
  have hlen := Path.length_lt_child (parent k) (name k) hn.ne_nil
  rw [← hkn, heq] at hlen
  exact Nat.lt_irrefl _ hlen

/-- A directory lists no name twice. -/
theorem nodup (d : Path) (names : List Text) (hd : w.names? d = some names) : names.Nodup := by
  rw [List.nodup_iff_count]
  intro n
  by_cases hn : n ∈ names
  · rcases h.entry_of_mem d names n hd hn with ⟨hname, hk⟩
    -- The name belongs to a key, and the directory above a key lists it just once.
    rcases h.hasDir_above d n (h.inTree_of_names d names hd) hname hk with ⟨names', hd', hcount⟩
    rw [hd, Option.some.injEq] at hd'
    rw [hd']
    exact Nat.le_of_eq hcount
  · rw [List.count_eq_zero_of_not_mem hn]
    exact Nat.zero_le 1

/-- No directory lists markers. -/
theorem no_marks (d : Path) (names : List Text) (hd : w.names? d = some names) (n : Text)
    (hn : n ∈ names) : isMark n = false :=
  isMark_of_isName n (h.entry_of_mem d names n hd hn).1

end Coherent

namespace Ordinary

variable {w : Keyed}

theorem ordinary_key (h : w.Ordinary) (k : Path) (hk : w.has k = true) : Path.IsOrdinary k :=
  ⟨h.normal k hk, h.no_share k hk, h.plain k hk⟩

theorem proper (h : w.Ordinary) (k : Path) (hk : w.has k = true) : Path.Proper k :=
  (h.ordinary_key k hk).proper

/-- An ordinary world holds a tree. -/
theorem coherent (h : w.Ordinary) : w.Coherent :=
  ⟨fun k hk => (h.ordinary_key k hk).regular, h.above, h.entry, h.apart⟩

/-- A name in a directory leads to its entry, which is there. -/
theorem entry_of_mem (h : w.Ordinary) (d : Path) (names : List Text) (n : Text)
    (hd : w.names? d = some names) (hn : n ∈ names) :
    Path.Leads d n ∧ w.has (Path.child d n) = true := by
  rcases h.coherent.entry_of_mem d names n hd hn with ⟨hname, hk⟩
  exact ⟨(h.proper _ hk).leads d n (h.coherent.inTree_of_names d names hd) hname, hk⟩

theorem leads (h : w.Ordinary) (d : Path) (names : List Text) (n : Text)
    (hd : w.names? d = some names) (hn : n ∈ names) : Path.Leads d n :=
  (h.entry_of_mem d names n hd hn).1

/-- Other than the roots, a key is the entry of a directory that lists its name once. -/
theorem entry_of_key (h : w.Ordinary) (k : Path) (hk : w.has k = true) (h0 : k ≠ [])
    (hr : k ≠ ['/']) : ∃ names, k = child (parent k) (name k) ∧ Path.Proper (parent k) ∧
      Path.Leads (parent k) (name k) ∧ w.names? (parent k) = some names ∧
        names.count (name k) = 1 := by
  rcases h.coherent.entry_of_key k hk h0 hr with ⟨names, hkn, hd, hn, hnames, hcount⟩
  have hlist := List.count_pos_iff.mp (by omega : 0 < names.count (name k))
  exact ⟨names, hkn,
    h.proper _ (w.has_of_hasDir _ ((w.hasDir_iff _).mpr ⟨names, hnames⟩)),
    h.leads _ names _ hnames hlist, hnames, hcount⟩

/-- Below what a key lies: its directory, and whatever that is below of. -/
theorem below_iff (h : w.Ordinary) (e k : Path) (hk : w.has k = true) (h0 : k ≠ [])
    (hr : k ≠ ['/']) : Below e k ↔ Within e (parent k) := by
  rcases h.entry_of_key k hk h0 hr with ⟨_, hkn, _, hn, _, _⟩
  have hchild := Path.below_child e (parent k) (name k) hn.ne_nil hn.no_slash
  rw [← hkn, eq_comm] at hchild
  exact hchild

/-- A directory is above every key in it. -/
theorem hasDir_above (h : w.Ordinary) (d n : Path) (hd : Path.Proper d) (hn : Path.Leads d n)
    (hk : w.has (Path.child d n) = true) :
    ∃ names, w.names? d = some names ∧ names.count n = 1 :=
  h.coherent.hasDir_above d n hd.inTree hn.toIsName hk

/-- A directory lists no name twice. -/
theorem nodup (h : w.Ordinary) (d : Path) (names : List Text) (hd : w.names? d = some names) :
    names.Nodup :=
  h.coherent.nodup d names hd

/-- A directory lists just the names of the keys in it. -/
theorem listed_iff (h : w.Ordinary) (d : Path) (names : List Text) (n : Text)
    (hd : w.names? d = some names) (hn : Path.Leads d n) :
    n ∈ names ↔ w.has (Path.child d n) = true := by
  constructor
  · intro hmem
    exact (h.entry_of_mem d names n hd hmem).2
  · intro hk
    have hproper := h.proper d (w.has_of_hasDir d ((w.hasDir_iff d).mpr ⟨names, hd⟩))
    rcases h.hasDir_above d n hproper hn hk with ⟨names', hd', hcount⟩
    rw [hd, Option.some.injEq] at hd'
    rw [hd']
    exact List.count_pos_iff.mp (by omega)

/-- Whatever is below a path is within one of the entries that are listed there. -/
theorem entry_above (h : w.Ordinary) (a p : Path) (hp : w.has p = true) (hb : Below a p) :
    ∃ names n, w.names? a = some names ∧ n ∈ names ∧ Within (child a n) p := by
  -- By induction on the key: it lies in the directory or below one that does.
  have hproper := h.proper p hp
  induction hproper with
  | here => exact absurd rfl (Path.ne_root_of_below a [] hb).1
  | root => exact absurd rfl (Path.ne_root_of_below a ['/'] hb).2
  | @child d n hd hn ih =>
      rcases h.hasDir_above d n hd hn hp with ⟨names, hnames, hcount⟩
      rcases (Path.below_child a d n hn.ne_nil hn.no_slash).mp hb with had | had
      · rw [had]
        exact ⟨names, n, hnames, List.count_pos_iff.mp (by omega), Or.inl rfl⟩
      -- The entry that the directory of the key is within is the one the key is within.
      · have hdir := w.has_of_hasDir d ((w.hasDir_iff d).mpr ⟨names, hnames⟩)
        rcases ih hdir had with ⟨names', n', hnames', hmem, hwithin⟩
        exact ⟨names', n', hnames', hmem,
          (Path.within_child _ d n hn.ne_nil hn.no_slash).mpr (Or.inr hwithin)⟩

/-- So whatever has keys below it is a directory. -/
theorem hasDir_of_below (h : w.Ordinary) (a p : Path) (hp : w.has p = true) (hb : Below a p) :
    w.hasDir a = true := by
  rcases h.entry_above a p hp hb with ⟨names, _, hnames, _, _⟩
  exact (w.hasDir_iff a).mpr ⟨names, hnames⟩

end Ordinary

end Keyed

end Maskwalk
