import Maskwalk.Proofs.Tree.Contents
import Maskwalk.Proofs.Tree.Doomed

/-!
# What is left of a removed tree

A tree is removed from the bottom up, and what cannot be removed is reported and passed over. So
each directory is asked for what it holds before anything in it is touched, its directories are
removed one after the other in a world that has fewer keys each time, then its files, and at last
the directory itself, if nothing is left in it.

`removeTreeWithin_prunes` says what a whole run leaves: the world without the keys that were to be
removed, and an answer about the directory alone. The induction is on the depth that is left; the
loop over the entries carries the world as a pruning of the one at the start in which nothing
within the entries still to come is gone.

## Main definitions

* `Attempt.Prunes`: an attempt that comes to a result and takes keys away.
* `Keyed.StarFree`: a world without stars in its names.
* `Keyed.RemovedDirs`, `Keyed.RemovedFiles`: what is removed before the directory itself.

## Theorems

* `Keyed.removed_split`, `Keyed.doomed_iff_nothing_remains`: The three parts of a removal.
* `removeTreeWithin_prunes`: A removal takes away what it should.
-/

namespace Maskwalk

open Maskwalk.Path (child Below Within)

namespace Attempt

variable {α β : Type}

/-- An attempt that comes to a result of a kind and takes keys away from a world. -/
structure Prunes (a : Attempt α) (w : Keyed) (post : α → Prop) (gone : Path → Prop) : Prop where
  result : ∃ x, (a.ran w).result = .ok x ∧ post x
  world : Keyed.Pruned w gone (a.ran w).world

theorem Prunes.congr {a : Attempt α} {w : Keyed} {post : α → Prop} {gone gone' : Path → Prop}
    (h : Prunes a w post gone) (hg : ∀ q, gone q ↔ gone' q) : Prunes a w post gone' :=
  ⟨h.result, h.world.congr hg⟩

theorem Prunes.bind {a : Attempt α} {f : α → Attempt β} {w : Keyed} {post : α → Prop}
    {post' : β → Prop} {gone gone' : Path → Prop} (ha : Prunes a w post gone)
    (hf : ∀ x w', post x → Keyed.Pruned w gone w' → Prunes (f x) w' post' gone') :
    Prunes (a >>= f) w post' (fun q => gone q ∨ gone' q) := by
  rcases ha.result with ⟨x, hx, hpost⟩
  rcases hf x _ hpost ha.world with ⟨⟨y, hy, hpost'⟩, hw⟩
  constructor
  · refine ⟨y, ?_, hpost'⟩
    rw [result_bind, hx]
    exact hy
  · rw [world_bind, hx]
    exact ha.world.trans hw

theorem Reads.prunes {a : Attempt α} {w : Keyed} {x : α} {post : α → Prop}
    (h : Reads a w (.ok x)) (hx : post x) : Prunes a w post (fun _ => False) := by
  rcases h with ⟨hr, calls, hw⟩
  refine ⟨⟨x, hr, hx⟩, ?_⟩
  rw [hw]
  exact Keyed.Pruned.of_calls w calls

/-- What only reads may come first. -/
theorem Reads.bind_prunes {a : Attempt α} {f : α → Attempt β} {w : Keyed} {x : α}
    {post : β → Prop} {gone : Path → Prop} (ha : Reads a w (.ok x))
    (hf : ∀ calls, Prunes (f x) { w with calls } post gone) : Prunes (a >>= f) w post gone := by
  rcases ha with ⟨hr, calls, hw⟩
  rcases hf calls with ⟨⟨y, hy, hpost⟩, hpruned⟩
  constructor
  · refine ⟨y, ?_, hpost⟩
    rw [result_bind, hr, hw]
    exact hy
  · rw [world_bind, hr, hw]
    exact ((Keyed.Pruned.of_calls w calls).trans hpruned).congr fun _ => or_iff_right not_false

/-- What only reads may come last. -/
theorem Prunes.bind_reads {a : Attempt α} {f : α → Attempt β} {w : Keyed} {post : α → Prop}
    {post' : β → Prop} {gone : Path → Prop} (ha : Prunes a w post gone)
    (hf : ∀ x w', post x → ∃ y, Reads (f x) w' (.ok y) ∧ post' y) :
    Prunes (a >>= f) w post' gone :=
  (ha.bind fun x w' hx _ => by
    rcases hf x w' hx with ⟨y, hr, hy⟩
    exact hr.prunes hy).congr fun _ => or_iff_left not_false

theorem Prunes.request (q : Request) (w : Keyed) (post : q.Reply → Prop) (gone : Path → Prop)
    (hreply : post (q.settled w).1) (hw : Keyed.Pruned w gone (q.settled w).2) :
    Prunes (Attempt.request q) w post gone :=
  ⟨⟨_, rfl, hreply⟩, hw⟩

end Attempt

open Attempt

namespace Keyed

/-- A world without stars in its names. -/
def StarFree (w : Keyed) : Prop := ∀ d names, w.names? d = some names → ∀ n ∈ names, '*' ∉ n

theorem starFree_of_tables (w : Keyed) (h : ∀ entry ∈ w.dirs, ∀ n ∈ entry.2, '*' ∉ n) :
    w.StarFree := fun d names hd n hn => h (d, names) (mem_of_valueOf? d names w.dirs hd) n hn

theorem Ordinary.no_star {w : Keyed} (h : w.Ordinary) (hs : w.StarFree) (k : Path)
    (hk : w.has k = true) : '*' ∉ k := by
  have hproper := h.proper k hk
  induction hproper with
  | here => exact List.not_mem_nil
  | root => decide
  | @child d n hd hn ih =>
      rcases h.hasDir_above d n hd hn hk with ⟨names, hnames, hcount⟩
      have hdir := w.has_of_hasDir d ((w.hasDir_iff d).mpr ⟨names, hnames⟩)
      -- A key is made of names that are listed somewhere.
      have hname := hs d names hnames n (List.count_pos_iff.mp (by omega))
      rw [child, List.mem_append, not_or]
      exact ⟨Mask.no_star_into d (ih hdir), hname⟩

theorem Pruned.starFree {w w' : Keyed} {gone : Path → Prop} (h : Pruned w gone w')
    (hs : w.StarFree) : w'.StarFree := by
  intro d names' hd n hn
  rcases h.names_eq_some d names' hd with ⟨_, names, hnames, heq⟩
  rw [heq, mem_remaining] at hn
  exact hs d names hnames n hn.1

end Keyed

namespace Keyed

/-- What the removal of the directories in a directory takes away. -/
def RemovedDirs (w : Keyed) (p q : Path) : Prop := ∃ c ∈ (w.kids p).filter w.hasDir, w.Removed c q

/-- What the removal of the files in a directory takes away. -/
def RemovedFiles (w : Keyed) (p q : Path) : Prop :=
  q ∈ w.kids p ∧ w.hasFile q = true ∧ parent q ∉ w.readonly

/-- With a directory goes everything in it, when directories are removed from another. -/
theorem Ordinary.removedDirs_down {w : Keyed} (h : w.Ordinary) (p d n : Path)
    (hd : w.RemovedDirs p d) (hk : w.has (child d n) = true) (hl : Path.Leads d n) :
    w.RemovedDirs p (child d n) := by
  rcases hd with ⟨c, hc, hremoved⟩
  exact ⟨c, hc, h.removed_down c d n hremoved hk hl⟩

/-- The removal of its directories leaves a directory and its files. -/
theorem Ordinary.not_removedDirs {w : Keyed} (h : w.Ordinary) (p q : Path)
    (hq : q = p ∨ (q ∈ w.kids p ∧ w.hasFile q = true)) :
    ¬ w.RemovedDirs p q := by
  rintro ⟨c, hc, hremoved⟩
  rcases List.mem_filter.mp hc with ⟨hkid, hdir⟩
  rcases hq with hq | ⟨hq, hfile⟩
  · have hbelow := h.below_kid p c hkid
    rw [hq] at hremoved
    exact Path.not_within_of_below p c hbelow hremoved.within
  -- A file within one of the directories would be that directory.
  · have heq := h.kids_apart p c q q hkid hq hremoved.within (Or.inl rfl)
    rw [heq] at hdir
    exact h.apart q ⟨hdir, hfile⟩

section

variable {w : Keyed} (h : w.Ordinary) (hfaults : w.faults = []) (p : Path) (names : List Text)
  (hp : w.names? p = some names)

include hfaults

theorem mayList_iff : w.mayList p = true ↔ p ∉ w.denied := by
  rw [mayList, hfaults, Bool.and_eq_true, Bool.not_eq_true', ← Bool.not_eq_true, List.elem_iff]
  exact and_iff_right rfl

theorem kids_of_shut (hshut : p ∈ w.denied) : w.kids p = [] := by
  have hno : ¬ w.mayList p = true := by
    rw [mayList_iff hfaults p, not_not]
    exact hshut
  rw [kids, shown, if_neg hno]
  rfl

include hp

theorem mem_kids_of_open (hopen : p ∉ w.denied) (c : Path) :
    c ∈ w.kids p ↔ ∃ n ∈ names, c = child p n := by
  have hshown : w.shown p = names := by
    rw [shown, if_pos ((mayList_iff hfaults p).mpr hopen), hp, Option.getD_some]
  rw [mem_kids, hshown]

include h

/-- What is removed from a directory falls apart into what is removed from its directories, its
    files, and the directory itself. -/
theorem removed_split (q : Path) : w.Removed p q ↔
    w.RemovedDirs p q ∨ (w.RemovedFiles p q ∨ (q = p ∧ w.Doomed p)) := by
  by_cases hopen : p ∈ w.denied
  · have hkids := kids_of_shut hfaults p hopen
    rw [removed_shut_iff w p hopen q, RemovedDirs, RemovedFiles, hkids]
    simp only [List.filter_nil, List.not_mem_nil, false_and, exists_false, false_or]
  · have hkids := mem_kids_of_open hfaults p names hp hopen
    rw [h.removed_iff p names hp hopen q, ← or_assoc]
    -- The entries are directories and files, and of a file only the file itself is removed.
    refine or_congr_left ?_
    constructor
    · rintro ⟨n, hn, hr⟩
      have hkid := (hkids _).mpr ⟨n, hn, rfl⟩
      have hk := (h.entry_of_mem p names n hp hn).2
      rw [has, Bool.or_eq_true] at hk
      rcases hk with hk | hk
      · exact Or.inl ⟨child p n, List.mem_filter.mpr ⟨hkid, hk⟩, hr⟩
      · rw [h.removed_file_iff _ q hk, doomed_file_iff w _ hk] at hr
        rw [hr.1]
        exact Or.inr ⟨hkid, hk, hr.2⟩
    · rintro (⟨c, hc, hr⟩ | ⟨hkid, hfile, hfree⟩)
      · rcases (hkids c).mp (List.mem_filter.mp hc).1 with ⟨n, hn, hcn⟩
        exact ⟨n, hn, by rw [← hcn]; exact hr⟩
      · rcases (hkids q).mp hkid with ⟨n, hn, hqn⟩
        refine ⟨n, hn, ?_⟩
        rw [← hqn]
        exact (removed_self_iff w q).mpr (Doomed.file hfile hfree)

/-- A directory is doomed just if nothing remains in it when what is removed from its entries is
    gone, and it may be taken off the directory above. -/
theorem doomed_iff_nothing_remains : w.Doomed p ↔ parent p ∉ w.readonly ∧
    remaining (fun q => w.RemovedDirs p q ∨ w.RemovedFiles p q) p names = [] := by
  have hgone : ∀ n ∈ names, p ∉ w.denied →
      ((w.RemovedDirs p (child p n) ∨ w.RemovedFiles p (child p n)) ↔ w.Doomed (child p n)) := by
    intro n hn hopen
    have hl := h.leads p names n hp hn
    -- An entry is removed with the directories or with the files, and it is not the directory.
    have hself : child p n ≠ p := by
      intro heq
      have hlen := Path.length_lt_child p n hl.ne_nil
      rw [heq] at hlen
      omega
    have hsplit := removed_split h hfaults p names hp (child p n)
    rw [← or_assoc, h.removed_iff p names hp hopen] at hsplit
    constructor
    · intro hg
      rcases hsplit.mpr (Or.inl hg) with ⟨n', _, hr⟩ | hr
      · exact hr.doomed
      · exact absurd hr.1 hself
    · intro hd
      have hr := hsplit.mp (Or.inl ⟨n, hn, (removed_self_iff w _).mpr hd⟩)
      exact hr.resolve_right (fun heq => hself heq.1)
  rw [h.doomed_dir_iff p names hp]
  refine and_congr_right (fun _ => ?_)
  have hnil : remaining (fun q => w.RemovedDirs p q ∨ w.RemovedFiles p q) p names = [] ↔
      ∀ n ∈ names, w.RemovedDirs p (child p n) ∨ w.RemovedFiles p (child p n) := by
    rw [List.eq_nil_iff_forall_not_mem]
    simp only [mem_remaining, not_and, not_not]
  rw [hnil]
  by_cases hopen : p ∈ w.denied
  · constructor
    · rintro ⟨hempty, _⟩ n hn
      rw [hempty hopen] at hn
      exact absurd hn List.not_mem_nil
    -- In a directory that cannot be listed nothing is removed, so there is nothing in it.
    · intro hall
      have hempty : names = [] := by
        rw [List.eq_nil_iff_forall_not_mem]
        intro n hn
        have hg := hall n hn
        rw [RemovedDirs, RemovedFiles, kids_of_shut hfaults p hopen] at hg
        simp only [List.filter_nil, List.not_mem_nil, false_and, exists_false, or_self] at hg
      rw [hempty]
      exact ⟨fun _ => rfl, fun n hn => absurd hn List.not_mem_nil⟩
  · constructor
    · rintro ⟨_, hentries⟩ n hn
      exact (hgone n hn hopen).mpr (hentries n hn)
    · intro hall
      exact ⟨fun hshut => absurd hshut hopen, fun n hn => (hgone n hn hopen).mp (hall n hn)⟩

end

section

variable {w w' : Keyed} {gone : Path → Prop}

/-- In a pruned world a directory shows what remains of what it showed. -/
theorem Pruned.shown_eq (h : Pruned w gone w') (p : Path) (hp : ¬ gone p) :
    w'.shown p = remaining gone p (w.shown p) := by
  have hmay : w'.mayList p = w.mayList p := by rw [mayList, mayList, h.faults, h.denied]
  rw [shown, shown, hmay, h.names_left p hp]
  cases w.mayList p with
  | false => rfl
  | true =>
      rw [if_pos rfl, if_pos rfl]
      cases w.names? p with
      | none => rfl
      | some names => rfl

theorem Pruned.mem_kids_iff (h : Pruned w gone w') (p : Path) (hp : ¬ gone p) (c : Path) :
    c ∈ w'.kids p ↔ c ∈ w.kids p ∧ ¬ gone c := by
  rw [mem_kids, mem_kids, h.shown_eq p hp]
  constructor
  · rintro ⟨n, hn, hc⟩
    rw [mem_remaining] at hn
    rw [hc]
    exact ⟨⟨n, hn.1, rfl⟩, hn.2⟩
  · rintro ⟨⟨n, hn, hc⟩, hg⟩
    rw [hc] at hg
    exact ⟨n, (mem_remaining _ _ _ _).mpr ⟨hn, hg⟩, hc⟩

end

end Keyed

section Runs

variable (m : Matcher)

/-- The removal of a file takes it away, if it is one and its directory may be changed. -/
theorem removeOrReport_prunes (w : Keyed) (hw : w.Ordinary) (hfaults : w.faults = []) (f : Path)
    (hn : Path.normalize f = f) (h0 : f ≠ []) (hr : f ≠ ['/']) :
    Prunes (removeOrReport f) w (fun _ => True)
      (fun q => q = f ∧ w.hasFile f = true ∧ Keyed.parent f ∉ w.readonly) := by
  have hfault : valueOf? f w.faults = none := by
    rw [hfaults]
    rfl
  unfold removeOrReport
  by_cases hgo : w.hasFile f = true ∧ Keyed.parent f ∉ w.readonly
  · rcases hw.coherent.remove_done f hn hfault hgo.1 hgo.2 with ⟨hpruned, hok⟩
    have hreq := Prunes.request (.remove f) w (fun reply => reply = .ok ()) _ (hok h0 hr) hpruned
    refine (hreq.bind_reads (fun reply w' hreply => ?_)).congr (fun q => ?_)
    · rw [hreply]
      exact ⟨(), Reads.pure () w', trivial⟩
    · simp only [hgo, not_false_eq_true, and_self, and_true]
  · have hwhy : valueOf? f w.faults ≠ none ∨ w.hasFile f = false ∨ Keyed.parent f ∈ w.readonly := by
      rw [not_and_or, not_not, Bool.not_eq_true] at hgo
      exact Or.inr hgo
    rcases w.remove_refused f hn hwhy with ⟨why, calls, hsettled, hrefusal⟩
    have hreq := Prunes.request (.remove f) w (fun reply => reply = .error why) (fun _ => False)
      (by rw [hsettled]) (by rw [hsettled]; exact Keyed.Pruned.of_calls w calls)
    refine (hreq.bind_reads (fun reply w' hreply => ?_)).congr (fun q => ?_)
    · rw [hreply]
      simp only [hrefusal, if_true]
      exact ⟨(), Reads.notice _ w', trivial⟩
    · simp only [hgo, and_false]

/-- The removal of several files takes away those that can go. -/
theorem removeFilesLoop_prunes (fs : List Path) : ∀ w : Keyed, w.Ordinary → w.faults = [] →
    (∀ f ∈ fs, Path.normalize f = f ∧ f ≠ [] ∧ f ≠ ['/']) →
      Prunes (doEach removeOrReport fs) w (fun _ => True)
        (fun q => q ∈ fs ∧ w.hasFile q = true ∧ Keyed.parent q ∉ w.readonly) := by
  induction fs with
  | nil =>
      intro w _ _ _
      exact ((Reads.pure () w).prunes trivial).congr fun q =>
        (iff_false_intro fun h => List.not_mem_nil h.1).symm
  -- The other files are still files when the first is gone, if they are not the same.
  | cons f more ih =>
      intro w hw hfaults hfs
      have hf := hfs f List.mem_cons_self
      have hstep := removeOrReport_prunes w hw hfaults f hf.1 hf.2.1 hf.2.2
      have hmore : ∀ (_ : Unit) w', True → Keyed.Pruned w
          (fun q => q = f ∧ w.hasFile f = true ∧ Keyed.parent f ∉ w.readonly) w' →
          Prunes (doEach removeOrReport more) w' (fun _ => True) (fun q => q ∈ more ∧
            (w.hasFile q = true ∧ ¬ (q = f ∧ w.hasFile f = true ∧ Keyed.parent f ∉ w.readonly)) ∧
              Keyed.parent q ∉ w.readonly) := by
        intro _ w' _ hp
        refine (ih w' (hp.ordinary hw (fun d n hgone hk hl => ?_)) (by rw [hp.faults, hfaults])
          (fun g hg => hfs g (List.mem_cons_of_mem _ hg))).congr
          (fun q => by rw [hp.hasFile_iff, hp.readonly])
        -- A file has nothing in it.
        have hb := Path.below_self_child d n hl.ne_nil hl.no_slash
        exact absurd ⟨hw.hasDir_of_below d _ hk hb, by rw [hgone.1]; exact hgone.2.1⟩ (hw.apart d)
      unfold doEach
      refine (hstep.bind hmore).congr (fun q => ?_)
      rw [List.mem_cons]
      by_cases hq : q = f
      · rw [hq]
        simp only [true_and, true_or]
        by_cases hgo : w.hasFile f = true ∧ Keyed.parent f ∉ w.readonly
        · simp only [hgo, not_false_eq_true, and_self, true_or]
        · simp only [hgo, not_false_eq_true, and_true, false_or, iff_false]
          exact fun h => h.2
      · simp only [hq, false_and, not_false_eq_true, and_true, false_or]

/-- The removal of several directories that have nothing in common takes away what the removal of
    each takes away, if each does so in every world in which nothing within it is gone yet. -/
theorem removeDirsLoop_prunes (w : Keyed) (hw : w.Ordinary) (step : Path → Attempt Unit)
    (ds : List Path) (hapart : ds.Pairwise fun c₁ c₂ => ∀ q, Within c₁ q → ¬ Within c₂ q)
    (hstep : ∀ c ∈ ds, ∀ gone w', Keyed.Pruned w gone w' → w'.Ordinary →
      (∀ q, gone q → ¬ Within c q) → Prunes (step c) w' (fun _ => True) (w.Removed c)) :
    ∀ gone w', Keyed.Pruned w gone w' → w'.Ordinary → (∀ q, gone q → ∀ c ∈ ds, ¬ Within c q) →
      Prunes (doEach step ds) w' (fun _ => True) (fun q => ∃ c ∈ ds, w.Removed c q) := by
  induction ds with
  | nil =>
      intro gone w' _ _ _
      exact ((Reads.pure () w').prunes trivial).congr fun q =>
        (iff_false_intro fun h => by
          rcases h with ⟨c, hc, _⟩
          exact List.not_mem_nil hc).symm
  -- What the first removal takes away is within its own directory, so the others are untouched.
  | cons c more ih =>
      intro gone w' hp hw' hgone
      rw [List.pairwise_cons] at hapart
      have hfirst := hstep c List.mem_cons_self gone w' hp hw'
        (fun q hq => hgone q hq c List.mem_cons_self)
      have hmore : ∀ (_ : Unit) w'', True → Keyed.Pruned w' (w.Removed c) w'' →
          Prunes (doEach step more) w'' (fun _ => True) (fun q => ∃ c ∈ more, w.Removed c q) := by
        intro _ w'' _ hp'
        refine ih hapart.2 (fun c' hc' => hstep c' (List.mem_cons_of_mem _ hc')) _ w''
          (hp.trans hp') (hp'.ordinary hw' (fun d n hd hk hl => ?_)) (fun q hq c' hc' => ?_)
        · exact hw.removed_down c d n hd ((hp.has_iff _).mp hk).1 hl
        · rcases hq with hq | hq
          · exact hgone q hq c' (List.mem_cons_of_mem _ hc')
          · exact hapart.1 c' hc' q hq.within
      unfold doEach
      refine (hfirst.bind hmore).congr (fun q => ?_)
      rw [List.exists_mem_cons_iff]

/-- The removal of the directories in a directory takes away what it should, if that of each one
    does in every world in which nothing within it is gone yet. -/
theorem removeDirs_prunes (w : Keyed) (hw : w.Ordinary) (p : Path) (step : Path → Attempt Unit)
    (hstep : ∀ c ∈ (w.kids p).filter w.hasDir, ∀ gone w', Keyed.Pruned w gone w' → w'.Ordinary →
      (∀ q, gone q → ¬ Within c q) → Prunes (step c) w' (fun _ => True) (w'.Removed c))
    (w' : Keyed) (hp : Keyed.Pruned w (fun _ => False) w') (hw' : w'.Ordinary) :
    Prunes (doEach step ((w.kids p).filter w.hasDir)) w' (fun _ => True) (w.RemovedDirs p) := by
  refine removeDirsLoop_prunes w hw _ _ ?_ (fun c hc gone w' hp hw' hgone => ?_) _ w' hp hw'
    (fun q hq => absurd hq not_false)
  -- Different entries have nothing in common, so their removals do not meet.
  · refine ((hw.kids_nodup p).filter _).imp_of_mem (fun hc₁ hc₂ hne q hq₁ hq₂ => ?_)
    exact hne (hw.kids_apart p _ _ q (List.mem_filter.mp hc₁).1 (List.mem_filter.mp hc₂).1 hq₁ hq₂)
  · exact (hstep c hc gone w' hp hw' hgone).congr (fun q => hw.removed_congr gone hp hw' c hgone q)

/-- The removal of an emptied directory takes it away, if it is empty and the directory above may be
    changed. -/
theorem rmdir_prunes (w : Keyed) (hw : w.Ordinary) (hfaults : w.faults = []) (p : Path)
    (hn : Path.normalize p = p) (h0 : p ≠ []) (hr : p ≠ ['/']) :
    Prunes (Attempt.request (.rmdir p)) w
      (fun reply => (reply = .ok () ∧ w.names? p = some [] ∧ Keyed.parent p ∉ w.readonly) ∨
        ((∃ why, reply = .error why ∧ why.isRefusal = true) ∧
          ¬ (w.names? p = some [] ∧ Keyed.parent p ∉ w.readonly)))
      (fun q => q = p ∧ w.names? p = some [] ∧ Keyed.parent p ∉ w.readonly) := by
  have hfault : valueOf? p w.faults = none := by
    rw [hfaults]
    rfl
  by_cases hgo : w.names? p = some [] ∧ Keyed.parent p ∉ w.readonly
  · rcases hw.coherent.rmdir_done p hn hfault hgo.1 hgo.2 with ⟨hpruned, hok⟩
    refine (Prunes.request (.rmdir p) w _ _ (Or.inl ⟨hok h0 hr, hgo⟩) hpruned).congr (fun q => ?_)
    simp only [hgo, not_false_eq_true, and_self, and_true]
  -- A refusal changes nothing, and comes where the directory is not empty or may not go.
  · have hwhy : valueOf? p w.faults ≠ none ∨ w.names? p ≠ some [] ∨
        Keyed.parent p ∈ w.readonly := by
      rw [not_and_or, not_not] at hgo
      exact Or.inr hgo
    rcases hw.coherent.rmdir_refused p hn hwhy with ⟨why, calls, hsettled, hrefusal⟩
    refine (Prunes.request (.rmdir p) w _ (fun _ => False)
      (Or.inr ⟨⟨why, by rw [hsettled], hrefusal⟩, hgo⟩)
      (by rw [hsettled]; exact Keyed.Pruned.of_calls w calls)).congr (fun q => ?_)
    simp only [hgo, and_false]

/-- When its directories have been removed, the files of a directory are removed as they would have
    been before. -/
theorem removeHeld_prunes (w : Keyed) (hw : w.Ordinary) (hfaults : w.faults = []) (p : Path)
    (hproper : Path.Proper p) (hnostar : '*' ∉ p) (w₁ : Keyed)
    (hp₁ : Keyed.Pruned w (w.RemovedDirs p) w₁) :
    Prunes (doEach removeOrReport (w₁.holds m p true)) w₁ (fun _ => True) (w.RemovedFiles p) := by
  have hself : ¬ w.RemovedDirs p p := hw.not_removedDirs p p (Or.inl rfl)
  have hw₁ := hp₁.ordinary hw (hw.removedDirs_down p)
  rw [hw₁.holds_eq m p true hproper hnostar]
  have hloop := removeFilesLoop_prunes ((w₁.kids p).filter w₁.hasFile) w₁ hw₁
    (by rw [hp₁.faults, hfaults]) (fun f hf => by
      have hkid := ((hp₁.mem_kids_iff p hself f).mp (List.mem_filter.mp hf).1).1
      rcases (w.mem_kids p f).mp hkid with ⟨n, hn', hfn⟩
      have hl := (hw.shown_leads p n hn').2
      rw [hfn]
      exact ⟨Path.normalize_proper _ (Path.Proper.child hproper hl),
        Path.child_ne_nil p n hl.ne_nil, Path.child_ne_root p n hl.ne_nil hl.no_slash⟩)
  refine hloop.congr (fun q => ?_)
  rw [List.mem_filter, hp₁.mem_kids_iff p hself, hp₁.hasFile_iff, hp₁.readonly]
  constructor
  · rintro ⟨⟨⟨hkid, _⟩, _⟩, ⟨hfile, _⟩, hfree⟩
    exact ⟨hkid, hfile, hfree⟩
  · -- The removal of directories takes no file of this one with it.
    rintro ⟨hkid, hfile, hfree⟩
    have hleft := hw.not_removedDirs p q (Or.inr ⟨hkid, hfile⟩)
    exact ⟨⟨⟨hkid, hleft⟩, hfile, hleft⟩, ⟨hfile, hleft⟩, hfree⟩

/-- When its directories have been removed, what is removed of a directory are its files, and the
    directory itself if nothing remains. -/
theorem removeEmptied_prunes (w : Keyed) (hw : w.Ordinary) (hfaults : w.faults = []) (p : Path)
    (names : List Text) (hnames : w.names? p = some names) (hnostar : '*' ∉ p) (h0 : p ≠ [])
    (hr : p ≠ ['/']) (w₁ : Keyed) (hp₁ : Keyed.Pruned w (w.RemovedDirs p) w₁) :
    Prunes (removeEmptied m p) w₁ (fun outcome => (outcome.ok = true ↔ w.Doomed p) ∧
        (outcome.ok = false → outcome.path = some p))
      (fun q => w.RemovedFiles p q ∨ (q = p ∧ w.Doomed p)) := by
  have hproper := hw.proper p (w.has_of_hasDir p ((w.hasDir_iff p).mpr ⟨names, hnames⟩))
  have hn := Path.normalize_proper p hproper
  have hself : ¬ w.RemovedDirs p p := hw.not_removedDirs p p (Or.inl rfl)
  have hw₁ := hp₁.ordinary hw (hw.removedDirs_down p)
  unfold removeEmptied
  refine Reads.bind_prunes (contents_reads m p true w₁ hw₁) (fun calls => ?_)
  have hp₂ := (hp₁.trans (Keyed.Pruned.of_calls w₁ calls)).congr (fun _ => or_iff_left not_false)
  refine (removeHeld_prunes m w hw hfaults p hproper hnostar _ hp₂).bind (fun _ w₃ _ hp => ?_)
  -- In what is left, the directory is empty just if it is doomed.
  have hp₃ := hp₂.trans hp
  have hleft : ¬ (w.RemovedDirs p p ∨ w.RemovedFiles p p) := by
    rintro (hg | hg)
    · exact hself hg
    · exact Path.below_irrefl p (hw.below_kid p p hg.1)
  have hw₃ := hp₃.ordinary hw (fun d n hg hk hl => by
    rcases hg with hg | hg
    · exact Or.inl (hw.removedDirs_down p d n hg hk hl)
    · have hb := Path.below_self_child d n hl.ne_nil hl.no_slash
      exact absurd ⟨hw.hasDir_of_below d _ hk hb, hg.2.1⟩ (hw.apart d))
  have hgo : (w₃.names? p = some [] ∧ Keyed.parent p ∉ w₃.readonly) ↔ w.Doomed p := by
    rw [Keyed.doomed_iff_nothing_remains hw hfaults p names hnames, hp₃.names_left p hleft,
      hnames, Option.map_some, Option.some.injEq, hp₃.readonly, and_comm]
  refine ((rmdir_prunes w₃ hw₃ (by rw [hp₃.faults, hfaults]) p hn h0 hr).congr
    (fun q => and_congr_right (fun _ => hgo))).bind_reads (fun reply w₄ hreply => ?_)
  rw [hgo] at hreply
  -- The outcome says whether the directory went, and names it if it did not.
  rcases hreply with ⟨hreply, hdoomed⟩ | ⟨⟨why, hreply, hrefusal⟩, hnot⟩
  · rw [hreply]
    refine ⟨.done, (Reads.notice _ w₄).bind_ok (fun _ => Reads.pure _ _),
      iff_of_true rfl hdoomed, fun hok => ?_⟩
    exact absurd hok.symm Bool.false_ne_true
  · rw [hreply]
    refine ⟨.failedAt p why, ?_, iff_of_false Bool.false_ne_true hnot, fun _ => rfl⟩
    simp only [hrefusal, if_true]
    refine (Reads.notice _ w₄).bind_ok (fun _ => ?_)
    unfold refused
    rw [if_pos hrefusal]
    exact Reads.pure _ _

/-- A removal takes away what it should, and answers for the directory itself. The depth that is
    left is enough as long as every directory of the world is less deep. -/
theorem removeTreeWithin_prunes (depth : Nat) : ∀ (w : Keyed) (p : Path), w.Ordinary →
    w.StarFree → w.faults = [] → w.hasDir p = true → p ≠ [] → p ≠ ['/'] →
      (∀ k, w.hasDir k = true → k.length < depth + p.length) →
        Prunes (removeTreeWithin m depth p) w
          (fun outcome => (outcome.ok = true ↔ w.Doomed p) ∧
            (outcome.ok = false → outcome.path = some p)) (w.Removed p) := by
  induction depth with
  | zero =>
      intro w p _ _ _ hdir _ _ hdepth
      have := hdepth p hdir
      omega
  | succ depth ih =>
      intro w p hw hstar hfaults hdir h0 hr hdepth
      have hproper := hw.proper p (w.has_of_hasDir p hdir)
      have hn := Path.normalize_proper p hproper
      have hnostar := hw.no_star hstar p (w.has_of_hasDir p hdir)
      rcases (w.hasDir_iff p).mp hdir with ⟨names, hnames⟩
      have hstep : ∀ c ∈ (w.kids p).filter w.hasDir, ∀ gone w', Keyed.Pruned w gone w' →
          w'.Ordinary → (∀ q, gone q → ¬ Within c q) →
            Prunes (do let _ ← removeTreeWithin m depth c) w' (fun _ => True) (w'.Removed c) := by
        intro c hc gone w' hp hw' hgone
        rcases List.mem_filter.mp hc with ⟨hkid, hcdir⟩
        have hbelow := hw.below_kid p c hkid
        have hroot := Path.ne_root_of_below p c hbelow
        have hcdir' : w'.hasDir c = true :=
          (hp.hasDir_iff c).mpr ⟨hcdir, fun hg => hgone c hg (Or.inl rfl)⟩
        -- One less of depth is made up for by a key that is longer.
        have hdepth' : ∀ k, w'.hasDir k = true → k.length < depth + c.length := by
          intro k hk
          have hlen := Path.below_length p c hbelow
          have hbound := hdepth k ((hp.hasDir_iff k).mp hk).1
          omega
        have hrec := ih w' c hw' (hp.starFree hstar) (by rw [hp.faults, hfaults]) hcdir' hroot.1
          hroot.2 hdepth'
        exact hrec.bind_reads (fun _ w'' _ => ⟨(), Reads.pure () w'', trivial⟩)
      rw [removeTreeWithin]
      simp only [hn]
      refine Reads.bind_prunes (contents_reads m p false w hw) (fun calls => ?_)
      have hp₀ := Keyed.Pruned.of_calls w calls
      have hw₀ := hp₀.ordinary hw (fun _ _ hg => absurd hg not_false)
      rw [hw.holds_eq m p false hproper hnostar]
      change Prunes (doEach _ (((w.kids p).filter w.hasDir).filter (!endsInMarker ·)) >>= _) _ _ _
      -- All that it holds is gone into.
      rw [hw.kids_not_markers p]
      refine ((removeDirs_prunes w hw p _ hstep _ hp₀ hw₀).bind (fun _ w₁ _ hp => ?_)).congr
        (fun q => (Keyed.removed_split hw hfaults p names hnames q).symm)
      exact removeEmptied_prunes m w hw hfaults p names hnames hnostar h0 hr w₁
        ((hp₀.trans hp).congr (fun _ => or_iff_right not_false))

end Runs

end Maskwalk
