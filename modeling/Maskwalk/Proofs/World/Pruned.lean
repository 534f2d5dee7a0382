import Maskwalk.Proofs.Run
import Maskwalk.Proofs.World.Ordinary
import Mathlib.Data.List.Nodup

/-!
# Pruned worlds

Removing takes keys away and leaves everything else as it was. `Pruned` says so of two worlds and
the keys that are gone: the tables of the second are those of the first without these keys, and
its directories list what they listed before without their names. What may be done with the tree
does not change, and the record of calls is left aside.

Prunings follow each other, and the keys that are gone add up. If whatever lies in a directory that
is gone is gone too, the tree that is left is a tree: pruning a coherent world leaves a coherent
world, and pruning an ordinary one an ordinary one. A single step, the removal of a file or of an
empty directory, prunes one key or nothing.

## Main definitions

* `Keyed.Pruned`: a world is what another is without some keys.
* `Keyed.Dropped`: a world between, with a key gone from the tables alone.

## Theorems

* `Pruned.trans`: What is gone adds up.
* `Pruned.coherent`, `Pruned.ordinary`: What is left of a tree is a tree.
* `settled_rmdir_empty`, `settled_remove_file`: What the two requests do where nothing stands in the
  way.
* `remove_refused`, `remove_done`, `rmdir_refused`, `rmdir_done`: The two steps.
-/

namespace Maskwalk

open Maskwalk.Path (child IsName)

namespace Keyed

open scoped Classical in
/-- The names of a directory that are left when some keys are gone. -/
noncomputable def remaining (gone : Path → Prop) (d : Path) (names : List Text) : List Text :=
  names.filter fun n => ¬ gone (child d n)

/-- The second world is the first without the keys that are gone. -/
structure Pruned (w : Keyed) (gone : Path → Prop) (w' : Keyed) : Prop where
  names_gone : ∀ d, gone d → w'.names? d = none
  names_left : ∀ d, ¬ gone d → w'.names? d = (w.names? d).map (remaining gone d)
  content_gone : ∀ f, gone f → w'.content? f = none
  content_left : ∀ f, ¬ gone f → w'.content? f = w.content? f
  denied : w'.denied = w.denied
  readonly : w'.readonly = w.readonly
  faults : w'.faults = w.faults

section

variable (gone : Path → Prop) (d : Path) (names : List Text) (n : Text)

theorem mem_remaining : n ∈ remaining gone d names ↔ n ∈ names ∧ ¬ gone (child d n) := by
  simp only [remaining, List.mem_filter, decide_eq_true_eq]

theorem count_remaining (h : ¬ gone (child d n)) :
    (remaining gone d names).count n = names.count n := by
  unfold remaining
  exact List.count_filter (by simp only [h, not_false_eq_true, decide_true])

/-- A directory in which nothing is gone lists what it listed. -/
theorem remaining_eq_self (h : ∀ n ∈ names, ¬ gone (child d n)) :
    remaining gone d names = names := by
  unfold remaining
  rw [List.filter_eq_self]
  intro n hn
  simp only [h n hn, not_false_eq_true, decide_true]

end

namespace Pruned

variable {w w' w'' : Keyed} {gone gone' : Path → Prop}

/-- A directory of the pruned world is one of the world before, and shows what is left in it. -/
theorem names_eq_some (h : Pruned w gone w') (d : Path) (names' : List Text)
    (hd : w'.names? d = some names') :
    ¬ gone d ∧ ∃ names, w.names? d = some names ∧ names' = remaining gone d names := by
  by_cases hg : gone d
  · rw [h.names_gone d hg] at hd
    exact absurd hd (by simp only [reduceCtorEq, not_false_eq_true])
  · rw [h.names_left d hg, Option.map_eq_some_iff] at hd
    rcases hd with ⟨names, hnames, heq⟩
    exact ⟨hg, names, hnames, heq.symm⟩

theorem hasDir_iff (h : Pruned w gone w') (d : Path) :
    w'.hasDir d = true ↔ w.hasDir d = true ∧ ¬ gone d := by
  rw [Keyed.hasDir_iff, Keyed.hasDir_iff]
  constructor
  · rintro ⟨names', hd⟩
    rcases h.names_eq_some d names' hd with ⟨hg, names, hnames, _⟩
    exact ⟨⟨names, hnames⟩, hg⟩
  · rintro ⟨⟨names, hnames⟩, hg⟩
    exact ⟨remaining gone d names, by rw [h.names_left d hg, hnames]; rfl⟩

theorem hasFile_iff (h : Pruned w gone w') (f : Path) :
    w'.hasFile f = true ↔ w.hasFile f = true ∧ ¬ gone f := by
  rw [Keyed.hasFile_iff, Keyed.hasFile_iff]
  by_cases hg : gone f
  · rw [h.content_gone f hg]
    simp only [reduceCtorEq, exists_false, hg, not_true_eq_false, and_false]
  · rw [h.content_left f hg]
    simp only [hg, not_false_eq_true, and_true]

theorem has_iff (h : Pruned w gone w') (k : Path) :
    w'.has k = true ↔ w.has k = true ∧ ¬ gone k := by
  rw [has, has, Bool.or_eq_true, Bool.or_eq_true, h.hasDir_iff, h.hasFile_iff, or_and_right]

theorem congr (h : Pruned w gone w') (hg : ∀ q, gone q ↔ gone' q) : Pruned w gone' w' := by
  have heq : gone = gone' := funext fun q => propext (hg q)
  rw [← heq]
  exact h

/-- What is gone adds up. -/
theorem trans (h : Pruned w gone w') (h' : Pruned w' gone' w'') :
    Pruned w (fun q => gone q ∨ gone' q) w'' := by
  refine ⟨fun d hd => ?_, fun d hd => ?_, fun f hf => ?_, fun f hf => ?_, ?_, ?_, ?_⟩
  · by_cases hg' : gone' d
    · exact h'.names_gone d hg'
    · rw [h'.names_left d hg', h.names_gone d (hd.resolve_right hg'), Option.map_none]
  · rw [not_or] at hd
    rw [h'.names_left d hd.2, h.names_left d hd.1, Option.map_map]
    -- A name is filtered out of a listing by the first loss, by the second, or by neither.
    congr 1
    funext names
    rw [Function.comp_apply, remaining, remaining, remaining, List.filter_filter]
    congr 1
    funext n
    by_cases h1 : gone (child d n) <;> by_cases h2 : gone' (child d n) <;> simp [h1, h2]
  · by_cases hg' : gone' f
    · exact h'.content_gone f hg'
    · rw [h'.content_left f hg', h.content_gone f (hf.resolve_right hg')]
  · rw [not_or] at hf
    rw [h'.content_left f hf.2, h.content_left f hf.1]
  · rw [h'.denied, h.denied]
  · rw [h'.readonly, h.readonly]
  · rw [h'.faults, h.faults]

/-- Where only the record of calls differs, nothing is gone. -/
theorem of_calls (w : Keyed) (calls : List Request) :
    Pruned w (fun _ => False) { w with calls } := by
  refine ⟨fun d hd => absurd hd not_false, fun d _ => ?_, fun f hf => absurd hf not_false,
    fun f _ => rfl, rfl, rfl, rfl⟩
  change w.names? d = _
  cases w.names? d with
  | none => rfl
  | some names => rw [Option.map_some, remaining_eq_self _ d names (fun _ _ => not_false)]

/-- What is left of a tree is a tree, if with every directory all that lies in it is gone. -/
theorem coherent (h : Pruned w gone w') (hw : w.Coherent)
    (hdown : ∀ d n, gone d → Path.InTree d → IsName n → w.has (child d n) = true →
      gone (child d n)) : w'.Coherent := by
  have hhas : ∀ k, w'.has k = true → w.has k = true := fun k hk => ((h.has_iff k).mp hk).1
  refine ⟨fun k hk => hw.regular k (hhas k hk), fun k hk h0 hr => ?_, fun d names' hd n hn => ?_,
    fun k hk => ?_⟩
  · have hgone := ((h.has_iff k).mp hk).2
    rcases hw.entry_of_key k (hhas k hk) h0 hr with ⟨names, hkn, hd, hn, hnames, hcount⟩
    -- Its directory is still there, since otherwise the key would have gone with it.
    have hleft : ¬ gone (parent k) := fun hg => hgone (by
      rw [hkn]
      exact hdown _ _ hg hd hn (by rw [← hkn]; exact hhas k hk))
    refine ⟨remaining gone (parent k) names, ?_, ?_⟩
    · rw [h.names_left _ hleft, hnames, Option.map_some]
    · rw [count_remaining gone _ names _ (by rw [← hkn]; exact hgone), hcount]
  · rcases h.names_eq_some d names' hd with ⟨_, names, hnames, heq⟩
    rw [heq, mem_remaining] at hn
    rcases hw.entry_of_mem d names n hnames hn.1 with ⟨hname, hk⟩
    exact ⟨child d n, (h.has_iff _).mpr ⟨hk, hn.2⟩, Path.child_ne_nil d n hname.ne_nil,
      Path.child_ne_root d n hname.ne_nil hname.no_slash,
      Path.parent_child d n hname.no_slash
        (Path.InTree.ne_here d (hw.inTree_of_names d names hnames)),
      Path.name_child d n hname.no_slash⟩
  · rw [h.hasDir_iff, h.hasFile_iff] at hk
    exact hw.apart k ⟨hk.1.1, hk.2.1⟩

/-- What is left of an ordinary tree is ordinary. -/
theorem ordinary (h : Pruned w gone w') (hw : w.Ordinary)
    (hdown : ∀ d n, gone d → w.has (child d n) = true → Path.Leads d n → gone (child d n)) :
    w'.Ordinary := by
  have hkeys : ∀ k, w'.has k = true → Path.IsOrdinary k := fun k hk =>
    hw.ordinary_key k ((h.has_iff k).mp hk).1
  have hleft := h.coherent hw.coherent fun d n hg hd hn hk =>
    hdown d n hg hk ((hw.proper _ hk).leads d n hd hn)
  exact ⟨fun k hk => (hkeys k hk).normal, fun k hk => (hkeys k hk).no_share,
    fun k hk => (hkeys k hk).plain, hleft.above, hleft.entry, hleft.apart, hleft.no_marks⟩

end Pruned

/-- Recorded calls are no part of a tree. -/
theorem Ordinary.with_calls {w : Keyed} (h : w.Ordinary) (calls : List Request) :
    ({ w with calls } : Keyed).Ordinary :=
  (Pruned.of_calls w calls).ordinary h (fun _ _ hg => absurd hg not_false)

theorem valueOf?_dropKey {ν : Type} (k q : Path) (table : List (Path × ν)) :
    valueOf? q (dropKey k table) = if q = k then none else valueOf? q table := by
  induction table with
  | nil => rw [dropKey, List.filter_nil, valueOf?, ite_self]
  | cons entry rest ih =>
      rw [dropKey] at ih ⊢
      rw [List.filter_cons, valueOf?]
      by_cases hk : entry.1 = k
      · rw [if_neg (by simp only [hk, ne_eq, not_true_eq_false, decide_false, Bool.false_eq_true,
          not_false_eq_true]), ih]
        by_cases hq : q = k
        · rw [if_pos hq, if_pos hq]
        · rw [if_neg hq, if_neg hq, if_neg (fun h => hq (by rw [← h, hk]))]
      · rw [if_pos (by simp only [hk, ne_eq, not_false_eq_true, decide_true]), valueOf?, ih]
        by_cases he : entry.1 = q
        · rw [if_pos he, if_neg (fun h => hk (by rw [he, h])), if_pos he]
        · rw [if_neg he, if_neg he]

/-- A world that has lost a key from its tables, though a directory may still list the name. -/
structure Dropped (w : Keyed) (k : Path) (w₁ : Keyed) : Prop where
  names_gone : w₁.names? k = none
  names_left : ∀ d, d ≠ k → w₁.names? d = w.names? d
  content_gone : w₁.content? k = none
  content_left : ∀ f, f ≠ k → w₁.content? f = w.content? f
  denied : w₁.denied = w.denied
  readonly : w₁.readonly = w.readonly
  faults : w₁.faults = w.faults

/-- A name that is listed is taken off the list. -/
theorem unlink_listed (w : Keyed) (k : Path) (names : List Text)
    (hnames : w.names? (parent k) = some names) (hname : name k ∈ names) :
    w.unlink k = (.ok (), { w with dirs := unlisted w.dirs (parent k) (name k) }) := by
  unfold unlink
  rw [show valueOf? (parent k) w.dirs = some names from hnames]
  simp only [List.elem_iff.mpr hname, if_true]

section

variable (w : Keyed) (k : Path) (hn : Path.normalize k = k) (hfault : valueOf? k w.faults = none)
  (hfree : parent k ∉ w.readonly)

include hn hfault hfree

/-- An empty directory goes from its table, and its name from the list. -/
theorem settled_rmdir_empty (hempty : w.names? k = some []) : (Request.rmdir k).settled w =
    unlink { w with dirs := dropKey k w.dirs, calls := .rmdir k :: w.calls } k := by
  change World.answer (.rmdir (Path.normalize k)) w = _
  rw [hn]
  change w.unlessFaulty (.rmdir k) k (·.rmdir k) = _
  unfold unlessFaulty
  rw [hfault]
  change (w.record (.rmdir k)).rmdir k = _
  unfold rmdir
  rw [show valueOf? k (w.record (.rmdir k)).dirs = some [] from hempty]
  simp only [List.any_nil, Bool.false_eq_true, if_false]
  rw [if_neg (show ¬ (w.record (.rmdir k)).readonly.elem (parent k) = true from
    fun hro => hfree (List.elem_iff.mp hro))]
  rfl

/-- So does a file. -/
theorem settled_remove_file (hfile : w.hasFile k = true) : (Request.remove k).settled w =
    unlink { w with files := dropKey k w.files, calls := .remove k :: w.calls } k := by
  change World.answer (.remove (Path.normalize k)) w = _
  rw [hn]
  change w.unlessFaulty (.remove k) k (·.remove k) = _
  unfold unlessFaulty
  rw [hfault]
  change (w.record (.remove k)).remove k = _
  unfold remove
  rw [show (w.record (.remove k)).hasFile k = true from hfile]
  simp only [Bool.not_true, Bool.false_eq_true, if_false]
  rw [if_neg (show ¬ (w.record (.remove k)).readonly.elem (parent k) = true from
    fun hro => hfree (List.elem_iff.mp hro))]
  rfl

end

namespace Coherent

variable {w : Keyed}

/-- A directory of which a key is no entry lists what it listed when that key is gone. -/
theorem remaining_of_other (h : w.Coherent) (k d : Path) (names : List Text)
    (hd : w.names? d = some names) (hk : k = [] ∨ k = ['/'] ∨ parent k ≠ d) :
    remaining (· = k) d names = names := by
  refine remaining_eq_self _ d names (fun n hn heq => ?_)
  -- A listed name leads to an entry, and the key would have to be that entry.
  have hname := (h.entry_of_mem d names n hd hn).1
  rcases hk with hk | hk | hk
  · exact Path.child_ne_nil d n hname.ne_nil (by rw [heq, hk])
  · exact Path.child_ne_root d n hname.ne_nil hname.no_slash (by rw [heq, hk])
  · refine hk ?_
    rw [← heq]
    exact Path.parent_child d n hname.no_slash
      (Path.InTree.ne_here d (h.inTree_of_names d names hd))

/-- Without the name of a key its directory lists what is left when the key is gone, since it listed
    that name just once. -/
theorem erase_eq_remaining (h : w.Coherent) (k : Path) (hk : w.has k = true) (h0 : k ≠ [])
    (hr : k ≠ ['/']) (names : List Text) (hnames : w.names? (parent k) = some names) :
    names.erase (name k) = remaining (· = k) (parent k) names := by
  rw [(h.nodup _ names hnames).erase_eq_filter, remaining]
  refine List.filter_congr (fun n _ => ?_)
  rcases h.entry_of_key k hk h0 hr with ⟨_, hkn, _, _, _, _⟩
  -- In its directory a key goes by its name and by no other.
  have hkey : n = name k ↔ child (parent k) n = k := by
    constructor
    · intro heq
      rw [heq, ← hkn]
    · exact fun heq => Path.child_inj_name _ n _ (heq.trans hkn)
  rw [Bool.eq_iff_iff]
  simp only [bne_iff_ne, ne_eq, decide_eq_true_eq, hkey]

/-- A key that was dropped from the tables is taken off the list of its directory. -/
theorem unlink_entry (h : w.Coherent) (k : Path) (hk : w.has k = true) (w₁ : Keyed)
    (hdrop : Dropped w k w₁) (h0 : k ≠ []) (hr : k ≠ ['/']) :
    Pruned w (· = k) (w₁.unlink k).2 ∧ (w₁.unlink k).1 = .ok () := by
  rcases h.above k hk h0 hr with ⟨names, hnames, hcount⟩
  have hun := w₁.unlink_listed k names
    ((hdrop.names_left _ (h.parent_ne k hk h0 hr)).trans hnames)
    (List.count_pos_iff.mp (by omega))
  -- The name goes from the listing of the directory above, and every other listing stays.
  have hlisted : ∀ d, valueOf? d (unlisted w₁.dirs (parent k) (name k)) =
      (w₁.names? d).map fun names => if d = parent k then names.erase (name k) else names :=
    fun d => valueOf?_changed w₁.dirs (parent k) d (List.erase · (name k))
  rw [hun]
  refine ⟨⟨fun d hd => ?_, fun d hd => ?_, fun f hf => by rw [hf]; exact hdrop.content_gone,
    hdrop.content_left, hdrop.denied, hdrop.readonly, hdrop.faults⟩, rfl⟩
  · refine (hlisted d).trans ?_
    rw [hd, hdrop.names_gone, Option.map_none]
  · refine (hlisted d).trans ?_
    rw [hdrop.names_left d hd]
    cases hd' : w.names? d with
    | none => rfl
    | some names' =>
        rw [Option.map_some, Option.map_some]
        by_cases hp : d = parent k
        · rw [hp] at hd' ⊢
          rw [if_pos rfl, h.erase_eq_remaining k hk h0 hr names' hd']
        · rw [if_neg hp, h.remaining_of_other k d names' hd' (Or.inr (Or.inr (Ne.symm hp)))]

/-- A root is in no directory, and there is nothing to take off a list when it is gone. -/
theorem unlink_root (h : w.Coherent) (k : Path) (hroot : k = [] ∨ k = ['/']) (w₁ : Keyed)
    (hdrop : Dropped w k w₁) : Pruned w (· = k) (w₁.unlink k).2 := by
  -- A root counts as its own directory, and that is the key that has just gone.
  have hpar : parent k = k := by
    rcases hroot with hk0 | hk0 <;> rw [hk0] <;> decide
  have hun : w₁.unlink k = (.error (.noParent (parent k)), w₁) := by
    unfold unlink
    rw [show valueOf? (parent k) w₁.dirs = none by rw [hpar]; exact hdrop.names_gone]
  rw [hun]
  refine ⟨fun d hd => by rw [hd]; exact hdrop.names_gone, fun d hd => ?_,
    fun f hf => by rw [hf]; exact hdrop.content_gone, hdrop.content_left, hdrop.denied,
    hdrop.readonly, hdrop.faults⟩
  rw [hdrop.names_left d hd]
  cases hd' : w.names? d with
  | none => rfl
  | some names =>
      rw [Option.map_some, h.remaining_of_other k d names hd' (hroot.imp_right Or.inl)]

theorem unlink_pruned (h : w.Coherent) (k : Path) (hk : w.has k = true) (w₁ : Keyed)
    (hdrop : Dropped w k w₁) :
    Pruned w (· = k) (w₁.unlink k).2 ∧ (k ≠ [] → k ≠ ['/'] → (w₁.unlink k).1 = .ok ()) := by
  by_cases hroot : k = [] ∨ k = ['/']
  · exact ⟨h.unlink_root k hroot w₁ hdrop, fun h0 hr => absurd hroot (not_or.mpr ⟨h0, hr⟩)⟩
  · rw [not_or] at hroot
    have hboth := h.unlink_entry k hk w₁ hdrop hroot.1 hroot.2
    exact ⟨hboth.1, fun _ _ => hboth.2⟩

/-- An empty directory that may be changed is removed. -/
theorem rmdir_done (h : w.Coherent) (k : Path) (hn : Path.normalize k = k)
    (hfault : valueOf? k w.faults = none) (hempty : w.names? k = some [])
    (hfree : parent k ∉ w.readonly) :
    Pruned w (· = k) ((Request.rmdir k).settled w).2 ∧
      (k ≠ [] → k ≠ ['/'] → ((Request.rmdir k).settled w).1 = .ok ()) := by
  have hdir : w.hasDir k = true := (w.hasDir_iff k).mpr ⟨[], hempty⟩
  have hfile : w.content? k = none := by
    cases hc : w.content? k with
    | none => rfl
    | some text => exact absurd ⟨hdir, (w.hasFile_iff k).mpr ⟨text, hc⟩⟩ (h.apart k)
  rw [w.settled_rmdir_empty k hn hfault hfree hempty]
  refine h.unlink_pruned k (w.has_of_hasDir k hdir) _
    ⟨?_, fun d hd => ?_, hfile, fun f _ => rfl, rfl, rfl, rfl⟩
  · change valueOf? k (dropKey k w.dirs) = none
    rw [valueOf?_dropKey, if_pos rfl]
  · change valueOf? d (dropKey k w.dirs) = valueOf? d w.dirs
    rw [valueOf?_dropKey, if_neg hd]

/-- A directory with a fault, with entries, or in a directory that may not be changed, stays. -/
theorem rmdir_refused (h : w.Coherent) (k : Path) (hn : Path.normalize k = k)
    (hwhy : valueOf? k w.faults ≠ none ∨ w.names? k ≠ some [] ∨ parent k ∈ w.readonly) :
    ∃ why calls, (Request.rmdir k).settled w = (.error why, { w with calls }) ∧
      why.isRefusal = true := by
  change ∃ why calls, World.answer (.rmdir (Path.normalize k)) w = _ ∧ _
  rw [hn]
  change ∃ why calls, w.unlessFaulty (.rmdir k) k (·.rmdir k) = _ ∧ _
  unfold unlessFaulty
  cases hf : valueOf? k w.faults with
  | some reason => exact ⟨.other reason, w.calls, rfl, rfl⟩
  | none =>
      change ∃ why calls, (w.record (.rmdir k)).rmdir k = _ ∧ _
      unfold rmdir
      cases hd : w.names? k with
      | none =>
          rw [show valueOf? k (w.record (.rmdir k)).dirs = none from hd]
          exact ⟨.system .noEntry k, .rmdir k :: w.calls, rfl, rfl⟩
      | some names =>
          rw [show valueOf? k (w.record (.rmdir k)).dirs = some names from hd]
          simp only
          cases names with
          | nil =>
              -- It is empty and without a fault, so what is in the way is the directory above.
              have hro : parent k ∈ w.readonly := by
                rcases hwhy with hwhy | hwhy | hwhy
                · exact absurd hf hwhy
                · exact absurd hd hwhy
                · exact hwhy
              rw [List.any_nil, if_neg Bool.false_ne_true,
                if_pos (show (w.record (.rmdir k)).readonly.elem (parent k) = true from
                  List.elem_iff.mpr hro)]
              exact ⟨.system .denied k, .rmdir k :: w.calls, rfl, rfl⟩
          | cons n more =>
              -- No entry is a marker, so one entry is enough to keep the directory.
              have hmark := h.no_marks k (n :: more) hd n List.mem_cons_self
              rw [List.any_cons, hmark, Bool.not_false, Bool.true_or, if_pos rfl]
              exact ⟨.system .notEmpty k, .rmdir k :: w.calls, rfl, rfl⟩

/-- A file that may be changed is removed. -/
theorem remove_done (h : w.Coherent) (k : Path) (hn : Path.normalize k = k)
    (hfault : valueOf? k w.faults = none) (hfile : w.hasFile k = true)
    (hfree : parent k ∉ w.readonly) :
    Pruned w (· = k) ((Request.remove k).settled w).2 ∧
      (k ≠ [] → k ≠ ['/'] → ((Request.remove k).settled w).1 = .ok ()) := by
  -- A file is no directory, so nothing of it stays in the other table.
  have hdir : w.names? k = none := by
    cases hd : w.names? k with
    | none => rfl
    | some names => exact absurd ⟨(w.hasDir_iff k).mpr ⟨names, hd⟩, hfile⟩ (h.apart k)
  rw [w.settled_remove_file k hn hfault hfree hfile]
  refine h.unlink_pruned k (w.has_of_hasFile k hfile) _
    ⟨hdir, fun d _ => rfl, ?_, fun f hf => ?_, rfl, rfl, rfl⟩
  · change valueOf? k (dropKey k w.files) = none
    rw [valueOf?_dropKey, if_pos rfl]
  · change valueOf? f (dropKey k w.files) = valueOf? f w.files
    rw [valueOf?_dropKey, if_neg hf]

end Coherent

/-- A file with a fault, or in a directory that may not be changed, stays, and what is no file
    cannot be removed as one. -/
theorem remove_refused (w : Keyed) (k : Path) (hn : Path.normalize k = k)
    (hwhy : valueOf? k w.faults ≠ none ∨ w.hasFile k = false ∨ parent k ∈ w.readonly) :
    ∃ why calls, (Request.remove k).settled w = (.error why, { w with calls }) ∧
      why.isRefusal = true := by
  change ∃ why calls, World.answer (.remove (Path.normalize k)) w = _ ∧ _
  rw [hn]
  change ∃ why calls, w.unlessFaulty (.remove k) k (·.remove k) = _ ∧ _
  unfold unlessFaulty
  cases hf : valueOf? k w.faults with
  | some reason => exact ⟨.other reason, w.calls, rfl, rfl⟩
  | none =>
      change ∃ why calls, (w.record (.remove k)).remove k = _ ∧ _
      unfold remove
      cases hk : w.hasFile k with
      | false =>
          rw [show (w.record (.remove k)).hasFile k = false from hk]
          exact ⟨.system .noEntry k, .remove k :: w.calls, rfl, rfl⟩
      | true =>
          -- It is a file without a fault, so what is in the way is the directory above.
          have hro : parent k ∈ w.readonly := by
            rcases hwhy with hwhy | hwhy | hwhy
            · exact absurd hf hwhy
            · rw [hk] at hwhy
              exact absurd hwhy.symm Bool.false_ne_true
            · exact hwhy
          rw [show (w.record (.remove k)).hasFile k = true from hk]
          simp only [Bool.not_true, Bool.false_eq_true, if_false]
          rw [if_pos (show (w.record (.remove k)).readonly.elem (parent k) = true from
            List.elem_iff.mpr hro)]
          exact ⟨.system .denied k, .remove k :: w.calls, rfl, rfl⟩

end Keyed

end Maskwalk
