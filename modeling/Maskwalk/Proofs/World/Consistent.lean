import Maskwalk.Proofs.Asking
import Maskwalk.Proofs.World.Planted
import Maskwalk.Proofs.World.Pruned

/-!
# Consistent worlds

The tables of a world of keys depend on each other: what is in the table of directories or files is
listed by another directory, and what is listed is in one of the tables. A world is *consistent* if
it is coherent and the two roots are there. This is an invariant, for as long as changes are made at
inner paths: a directory is made as one more entry of another, an entry is taken away once there is
nothing below it, and a request that is refused changes nothing but the record of calls.

As long as a world is consistent, requests for changes fail for reasons of the system and no others,
and what a directory lists as a file or a directory is at an inner path. So a consistent world
upholds the terms of `Terms.careful`.

## Main definitions

* `Keyed.Consistent`: worlds whose tables agree.
* `Request.Fails`: changes that fail.
* `Terms.careful`: changes at inner paths only.

## Theorems

* `AddsEntry.coherent`: One directory more leaves a tree.
* `AddsEntry.consistent`, `Pruned.consistent`: One entry more or less.
* `settled_mkdir_ok`: What a request does that makes a directory.
* `Consistent.settled`: A careful request in a consistent world.
* `careful_upheld`: Consistent worlds uphold careful terms.
-/

namespace Maskwalk

open Maskwalk.Path (child IsName IsRegular IsInner)

/-- Whether a request is for a change, and its reply is that it failed. -/
def Request.Fails : (q : Request) → q.Reply → Failure → Prop
  | .mkdir _, reply, why | .rmdir _, reply, why | .remove _, reply, why => reply = .error why
  | _, _, _ => False

/-- Whether a request, if it is for a change, is for one at an inner path. -/
def Request.IsCareful : Request → Prop
  | .mkdir p | .rmdir p | .remove p => IsInner (Path.normalize p)
  | _ => True

/-- Whether all that a directory lists as a file or a directory is at an inner path. -/
def Request.IsFair : (q : Request) → q.Reply → Prop
  | .listDir p, .ok entries => ∀ e ∈ entries, e.isFile = true ∨ e.isDir = true →
      IsInner (Path.join (Path.normalize p) e.name)
  | _, _ => True

/-- Changes are made at inner paths, and that is where entries are. -/
def Terms.careful : Terms where
  may := Request.IsCareful
  fair := Request.IsFair

theorem careful_allowsQueries : Terms.careful.AllowsQueries := by
  intro q hq
  cases q with
  | mkdir | rmdir | remove => exact absurd hq.symm Bool.false_ne_true
  | _ => trivial

namespace Keyed

/-- A world whose tables agree: it is coherent, and the two roots are directories. -/
structure Consistent (w : Keyed) : Prop extends Coherent w where
  here : w.hasDir [] = true
  root : w.hasDir ['/'] = true

variable {w w' : Keyed}

theorem Ordinary.consistent (h : w.Ordinary) (hhere : w.hasDir [] = true)
    (hroot : w.hasDir ['/'] = true) : w.Consistent :=
  ⟨h.coherent, hhere, hroot⟩

namespace AddsEntry

section

variable {d n : Text} (ha : w.AddsEntry d n true w') (h : w.Coherent)
  (hfile : w.hasFile (child d n) = false)

include ha h hfile

/-- The name of a directory that is new was not listed. -/
theorem not_listed (old : List Text) (hold : w.names? d = some old) : n ∉ old := by
  intro hn
  have hk := (h.entry_of_mem d old n hold hn).2
  rw [has, show w.hasDir (child d n) = false from ha.fresh, hfile] at hk
  exact Bool.false_ne_true hk

/-- A key that was there is listed once, as before. -/
theorem above_old (k : Path) (hk : w.has k = true) (h0 : k ≠ []) (hr : k ≠ ['/']) :
    ∃ names, w'.names? (parent k) = some names ∧ names.count (Keyed.name k) = 1 := by
  rcases h.entry_of_key k hk h0 hr with ⟨names, hkn, _, _, hparent, hcount⟩
  refine ⟨_, ha.names_kept _ names hparent, ?_⟩
  by_cases hd : parent k = d
  -- The new name is another one.
  · have hne : n ≠ Keyed.name k := fun hn => by
      rw [hkn, hd, ← hn, has, show w.hasDir (child d n) = false from ha.fresh, hfile] at hk
      exact Bool.false_ne_true hk
    rw [if_pos hd, List.count_append, hcount, List.count_singleton, beq_eq_false_iff_ne.mpr hne]
    rfl
  · rw [if_neg hd]
    exact hcount

/-- The key of the new directory is listed once too. -/
theorem above_new : ∃ names, w'.names? (parent (child d n)) = some names ∧
    names.count (Keyed.name (child d n)) = 1 := by
  rcases (w.hasDir_iff d).mp ha.above with ⟨old, hold⟩
  have hd := Path.InTree.ne_here d (h.inTree_of_names d old hold)
  rw [Path.parent_child d n ha.name.no_slash hd, Path.name_child d n ha.name.no_slash]
  refine ⟨_, ha.names_kept d old hold, ?_⟩
  rw [if_pos rfl, List.count_append,
    List.count_eq_zero_of_not_mem (ha.not_listed h hfile old hold), List.count_singleton_self]

/-- A new directory in a coherent world. -/
theorem coherent (hkey : IsRegular (child d n)) : w'.Coherent := by
  refine ⟨fun k hk => ?_, fun k hk h0 hr => ?_, fun e names he m hm => ?_, fun k hk => ?_⟩
  · rcases (ha.has_iff k).mp hk with hk | hk
    · exact h.regular k hk
    · rw [hk]
      exact hkey
  · rcases (ha.has_iff k).mp hk with hk | hk
    · exact ha.above_old h hfile k hk h0 hr
    · rw [hk]
      exact ha.above_new h hfile
  · rcases ha.mem_names_cases e names he m hm with ⟨old, hold, hm⟩ | ⟨hed, hmn⟩
    · rcases h.entry e old hold m hm with ⟨k, hk, hrest⟩
      exact ⟨k, (ha.has_iff k).mpr (Or.inl hk), hrest⟩
    · rcases (w.hasDir_iff d).mp ha.above with ⟨old, hold⟩
      have hd := Path.InTree.ne_here d (h.inTree_of_names d old hold)
      refine ⟨child d n, (ha.has_iff _).mpr (Or.inr rfl), Path.child_ne_nil d n ha.name.ne_nil,
        Path.child_ne_root d n ha.name.ne_nil ha.name.no_slash, ?_, ?_⟩
      · rw [Path.parent_child d n ha.name.no_slash hd, hed]
      · rw [Path.name_child d n ha.name.no_slash, hmn]
  · rw [ha.hasDir_eq, ha.file, Bool.not_true, Bool.false_and, Bool.or_false, Bool.true_and,
      Bool.or_eq_true, decide_eq_true_eq] at hk
    rcases hk.1 with hdir | heq
    · exact h.apart k ⟨hdir, hk.2⟩
    · rw [heq, hfile] at hk
      exact Bool.false_ne_true hk.2

end

end AddsEntry

/-- A new directory in a consistent world. -/
theorem AddsEntry.consistent {d n : Text} (ha : w.AddsEntry d n true w') (h : w.Consistent)
    (hkey : IsRegular (child d n)) (hfile : w.hasFile (child d n) = false) : w'.Consistent :=
  ⟨ha.coherent h.toCoherent hfile hkey, ha.hasDir_of _ h.here, ha.hasDir_of _ h.root⟩

/-- A directory made in another one that is there is the only entry that is added. -/
theorem addDir_adds (w : Keyed) (d n : Text) (hd : Path.InTree d) (hn : IsName n)
    (hnew : w.hasDir (child d n) = false) (habove : w.hasDir d = true) :
    w.AddsEntry d n true (w.addDir (child d n)) := by
  have hthere := addDirWithin_there (child d n).length d w habove
  have hadds := addDirWithin_adds (child d n).length d n w hd hn (Bool.eq_false_iff.mp hnew)
    (by rw [hthere]; exact habove) (by rw [hthere]; exact hnew)
  rwa [hthere] at hadds

/-- A consistent world without a key that is a file or an empty directory. -/
theorem Pruned.consistent {k : Path} (hp : Pruned w (· = k) w') (h : w.Consistent) (h0 : k ≠ [])
    (hr : k ≠ ['/']) (hempty : w.names? k = none ∨ w.names? k = some []) : w'.Consistent := by
  refine ⟨hp.coherent h.toCoherent (fun d n hd htree hn hk => ?_),
    (hp.hasDir_iff _).mpr ⟨h.here, Ne.symm h0⟩, (hp.hasDir_iff _).mpr ⟨h.root, Ne.symm hr⟩⟩
  -- Nothing lies in it, since it would list what does.
  exfalso
  rcases h.hasDir_above d n htree hn hk with ⟨names, hnames, hcount⟩
  rw [hd] at hnames
  rcases hempty with he | he
  · rw [he] at hnames
    exact absurd hnames (by simp only [reduceCtorEq, not_false_eq_true])
  · rw [he, Option.some.injEq] at hnames
    rw [← hnames] at hcount
    exact absurd hcount Nat.zero_ne_one

namespace Consistent

variable (h : w.Consistent)

include h

/-- Only the tables of directories and files matter. -/
theorem of_tables (hdirs : w'.dirs = w.dirs) (hfiles : w'.files = w.files) : w'.Consistent := by
  cases w
  cases w'
  subst hdirs hfiles
  exact ⟨⟨h.regular, h.above, h.entry, h.apart⟩, h.here, h.root⟩

theorem with_calls (calls : List Request) : ({ w with calls } : Keyed).Consistent :=
  h.of_tables rfl rfl

/-- A directory made in another one that is there. -/
theorem addDir (p : Path) (hp : IsInner p) (hnew : w.has p = false)
    (habove : w.hasDir (parent p) = true) : (w.addDir p).Consistent := by
  rcases hp.eq_child with ⟨d, n, hd, hn, hkey⟩
  rw [hkey] at hnew habove ⊢
  rw [Path.parent_child d n hn.no_slash (Path.InTree.ne_here d hd)] at habove
  rw [has, Bool.or_eq_false_iff] at hnew
  exact (addDir_adds w d n hd hn hnew.1 habove).consistent h
    (by rw [← hkey]; exact hp.toIsRegular) hnew.2

end Consistent

/-- Either the system refuses to make a directory, or its key is new and the one above is there and
    may be changed. -/
theorem mkdir_cases (w : Keyed) (p : Path) :
    (∃ why, w.mkdir p = .error why ∧ why.isRefusal = true) ∨
      (w.mkdir p = .ok (w.addDir p) ∧ w.has p = false ∧ w.hasDir (parent p) = true ∧
        parent p ∉ w.readonly) := by
  unfold mkdir
  split
  · exact Or.inl ⟨_, rfl, rfl⟩
  rename_i hnew
  split
  · exact Or.inl ⟨_, rfl, rfl⟩
  rename_i habove
  split
  · exact Or.inl ⟨_, rfl, rfl⟩
  · rename_i hfree
    rw [Bool.not_eq_true', Bool.not_eq_false] at habove
    exact Or.inr ⟨rfl, Bool.eq_false_iff.mpr hnew, habove, fun h => hfree (List.elem_iff.mpr h)⟩

/-- A request that makes a directory adds its key. That is new and has no fault, and the directory
    above is there and may be changed. -/
theorem settled_mkdir_ok (w : Keyed) (p : Path) (hp : Path.normalize p = p)
    (hok : ((Request.mkdir p).settled w).1 = .ok ()) :
    ((Request.mkdir p).settled w).2 = (w.record (.mkdir p)).addDir p ∧
      valueOf? p w.faults = none ∧ w.has p = false ∧ w.hasDir (parent p) = true ∧
      parent p ∉ w.readonly := by
  change (w.answer (.mkdir (Path.normalize p))).1 = .ok () at hok
  change (w.answer (.mkdir (Path.normalize p))).2 = _ ∧ _
  rw [hp, answer, unlessFaulty] at hok ⊢
  cases hfault : valueOf? p w.faults with
  | some reason =>
      rw [hfault] at hok
      exact absurd hok (by simp only [reduceCtorEq, not_false_eq_true])
  | none =>
      rw [hfault] at hok
      simp only at hok ⊢
      rcases mkdir_cases (w.record (.mkdir p)) p with ⟨why, hm, _⟩ | ⟨hm, hmade⟩
      · rw [hm] at hok
        exact absurd hok (by simp only [reduceCtorEq, not_false_eq_true])
      · rw [hm]
        exact ⟨rfl, trivial, hmade⟩

/-- A request for no change is at most recorded. -/
theorem settled_quiet (w : Keyed) (q : Request) (hq : q.isChange = false) :
    ∃ calls, (q.settled w).2 = { w with calls } := by
  have hrecord : ∀ q, ∃ calls, w.record q = { w with calls } := fun q => ⟨_, rfl⟩
  cases q with
  | mkdir | rmdir | remove => exact absurd hq.symm Bool.false_ne_true
  | listDir p =>
      change ∃ calls, (w.answer (.listDir (Path.normalize p))).2 = _
      rw [answer, unlessFaulty]
      cases valueOf? (Path.normalize p) w.faults with
      | some reason => exact ⟨w.calls, rfl⟩
      | none => exact hrecord _
  | readText p =>
      change ∃ calls, (w.answer (.readText (Path.normalize p))).2 = _
      rw [answer]
      split
      · exact ⟨w.calls, rfl⟩
      · exact hrecord _
  | outputOf c =>
      change ∃ calls, (w.answer (.outputOf c)).2 = _
      rw [answer]
      split
      · exact ⟨w.calls, rfl⟩
      · exact hrecord _
  | isFile | isDir | stat | hasWideWords | execute => exact hrecord _
  | _ => exact ⟨w.calls, rfl⟩

/-- What comes of a change: a consistent world, and if it failed, it is the system that refused. -/
def LeavesConsistent (outcome : Except Failure Unit × Keyed) : Prop :=
  outcome.2.Consistent ∧ ∀ why, outcome.1 = .error why → why.isRefusal = true

theorem leaves_done {outcome : Except Failure Unit × Keyed} (hok : outcome.1 = .ok ())
    (hw : outcome.2.Consistent) : LeavesConsistent outcome :=
  ⟨hw, fun _ hwhy => absurd (hok.symm.trans hwhy)
    (by simp only [reduceCtorEq, not_false_eq_true])⟩

theorem leaves_refused (why : Failure) (hwhy : why.isRefusal = true) (hw : w.Consistent) :
    LeavesConsistent (.error why, w) :=
  ⟨hw, fun _ heq => by rw [← Except.error.inj heq, hwhy]⟩

namespace Consistent

variable (h : w.Consistent)

include h

/-- A directory is made at an inner path, or the system refuses. -/
theorem settled_mkdir (p : Path) (hp : IsInner (Path.normalize p)) :
    LeavesConsistent ((Request.mkdir p).settled w) := by
  change LeavesConsistent (w.answer (.mkdir (Path.normalize p)))
  generalize Path.normalize p = k at hp ⊢
  rw [answer, unlessFaulty]
  cases valueOf? k w.faults with
  | some reason => exact leaves_refused _ rfl h
  | none =>
      have hrec : (w.record (.mkdir k)).Consistent := h.with_calls _
      simp only
      rcases mkdir_cases (w.record (.mkdir k)) k with ⟨why, hm, hwhy⟩ | ⟨hm, hnew, habove, _⟩
      · rw [hm]
        exact leaves_refused why hwhy hrec
      · rw [hm]
        exact leaves_done rfl (hrec.addDir k hp hnew habove)

/-- A directory is removed from an inner path, or the system refuses. -/
theorem settled_rmdir (p : Path) (hp : IsInner (Path.normalize p)) :
    LeavesConsistent ((Request.rmdir p).settled w) := by
  have hsame : (Request.rmdir p).settled w = (Request.rmdir (Path.normalize p)).settled w := by
    change w.answer (.rmdir (Path.normalize p)) =
      w.answer (.rmdir (Path.normalize (Path.normalize p)))
    rw [Path.normalize_normalize]
  rw [hsame]
  generalize Path.normalize p = k at hp ⊢
  by_cases hgo : valueOf? k w.faults = none ∧ w.names? k = some [] ∧ parent k ∉ w.readonly
  · rcases h.rmdir_done k hp.normal hgo.1 hgo.2.1 hgo.2.2 with ⟨hpruned, hok⟩
    exact leaves_done (hok hp.ne_nil hp.ne_root)
      (hpruned.consistent h hp.ne_nil hp.ne_root (Or.inr hgo.2.1))
  · have hwhy : valueOf? k w.faults ≠ none ∨ w.names? k ≠ some [] ∨ parent k ∈ w.readonly := by
      tauto
    rcases h.rmdir_refused k hp.normal hwhy with ⟨why, calls, hsettled, hrefusal⟩
    rw [hsettled]
    exact leaves_refused why hrefusal (h.with_calls calls)

/-- A file is removed from an inner path, or the system refuses. -/
theorem settled_remove (p : Path) (hp : IsInner (Path.normalize p)) :
    LeavesConsistent ((Request.remove p).settled w) := by
  have hsame : (Request.remove p).settled w = (Request.remove (Path.normalize p)).settled w := by
    change w.answer (.remove (Path.normalize p)) =
      w.answer (.remove (Path.normalize (Path.normalize p)))
    rw [Path.normalize_normalize]
  rw [hsame]
  generalize Path.normalize p = k at hp ⊢
  by_cases hgo : valueOf? k w.faults = none ∧ w.hasFile k = true ∧ parent k ∉ w.readonly
  · rcases h.remove_done k hp.normal hgo.1 hgo.2.1 hgo.2.2 with ⟨hpruned, hok⟩
    -- A file is no directory, so nothing can lie in it.
    have hnames : w.names? k = none := by
      rw [← Option.not_isSome_iff_eq_none]
      exact fun hdir => h.apart k ⟨hdir, hgo.2.1⟩
    exact leaves_done (hok hp.ne_nil hp.ne_root)
      (hpruned.consistent h hp.ne_nil hp.ne_root (Or.inl hnames))
  · have hwhy : valueOf? k w.faults ≠ none ∨ w.hasFile k = false ∨ parent k ∈ w.readonly := by
      rw [← Bool.not_eq_true]
      tauto
    rcases w.remove_refused k hp.normal hwhy with ⟨why, calls, hsettled, hrefusal⟩
    rw [hsettled]
    exact leaves_refused why hrefusal (h.with_calls calls)

/-- A careful request leaves a consistent world consistent, and if it is for a change that fails,
    it is the system that refuses. -/
theorem settled (q : Request) (hq : q.IsCareful) : (q.settled w).2.Consistent ∧
    ∀ why, q.Fails (q.settled w).1 why → why.isRefusal = true := by
  have hquiet : q.isChange = false → (q.settled w).2.Consistent := by
    intro hchange
    rcases w.settled_quiet q hchange with ⟨calls, hcalls⟩
    rw [hcalls]
    exact h.with_calls calls
  cases q with
  | mkdir p => exact h.settled_mkdir p hq
  | rmdir p => exact h.settled_rmdir p hq
  | remove p => exact h.settled_remove p hq
  | _ => exact ⟨hquiet rfl, fun _ hfails => hfails.elim⟩

/-- What a directory of a consistent world lists as a file or a directory is at an inner path. -/
theorem fair_listing (k : Path) (entries : List Entry) (hk : w.listDir k = .ok entries) :
    ∀ e ∈ entries, e.isFile = true ∨ e.isDir = true → IsInner (Path.join k e.name) := by
  unfold listDir at hk
  split at hk
  · exact absurd hk (by simp only [reduceCtorEq, not_false_eq_true])
  split at hk
  · exact absurd hk (by simp only [reduceCtorEq, not_false_eq_true])
  rename_i names hd
  intro e he hkind
  rw [← Except.ok.inj hk] at he
  rcases List.mem_map.mp he with ⟨n, hn, heq⟩
  have hname := (h.entry_of_mem k names n hd hn).1
  rw [← heq, entryOf, isMark_of_isName n hname, if_neg Bool.false_ne_true] at hkind ⊢
  have hkey : w.has (Path.join k n) = true := by
    rw [has, Bool.or_eq_true]
    exact hkind.symm
  -- Whether or not the name takes the place of the directory, it is no root that it leads to.
  have hroots : Path.join k n ≠ [] ∧ Path.join k n ≠ ['/'] := by
    by_cases ha : Path.isAbsolute n = true
    · rw [Path.join_absolute k n hname.ne_nil ha]
      exact ⟨hname.ne_nil, fun hr => hname.no_slash (by rw [hr]; exact List.mem_singleton_self _)⟩
    · rw [Path.join_eq_child k n (h.inTree_of_names k names hd) hname.ne_nil
        (fun _ => Bool.eq_false_iff.mpr ha)]
      exact ⟨Path.child_ne_nil k n hname.ne_nil,
        Path.child_ne_root k n hname.ne_nil hname.no_slash⟩
  exact ⟨h.regular _ hkey, hroots.1, hroots.2⟩

end Consistent

/-- Consistent worlds uphold careful terms. -/
theorem careful_upheld : Terms.careful.Upheld Consistent := by
  refine ⟨fun q w hw hq => (hw.settled q hq).1, fun q w hw _ => ?_⟩
  cases q with
  | listDir p =>
      change Request.IsFair (.listDir p) (w.answer (.listDir (Path.normalize p))).1
      rw [answer, unlessFaulty]
      cases valueOf? (Path.normalize p) w.faults with
      | some reason => trivial
      | none =>
          have hrec : (w.record (.listDir (Path.normalize p))).Consistent := hw.with_calls _
          simp only
          cases hl : (w.record (.listDir (Path.normalize p))).listDir (Path.normalize p) with
          | ok entries => exact hrec.fair_listing _ entries hl
          | error why => trivial
  | _ => trivial

end Keyed

end Maskwalk
