import Maskwalk.Proofs.Tree.Removal

/-!
# What remains of a directory

What the removal of a directory takes away is known as a set of keys. Here it is read off for every
single key what becomes of it, in the terms of someone who looks at the tree: a file remains if its
directory is read-only, or if it was never come to; a directory remains if something in it does,
or for the same reasons. The answer of the removal is about the directory alone, and around the
directory nothing changes but the list in which it stood.

## Main definitions

* `Keyed.Cleared`: a world after the removal of a directory, against the world before.

## Theorems

* `Ordinary.removed_dir_iff`: A directory is removed together with all its entries.
* `Pruned.file_remains_iff`, `Pruned.dir_remains_iff`: What remains below it.
* `Pruned.listing_elsewhere`, `Pruned.listing_above`: What is listed around it.
* `Pruned.cleared`: What becomes of each key.
* `removeTree_exact`: The removal of a directory, its result and what it leaves.
-/

namespace Maskwalk

open Maskwalk.Path (child Below Within)

open Attempt

namespace Keyed

/-- What is left when a directory has been removed as well as it can be: of the files and the
    directories below it, of itself, and around it. -/
structure Cleared (w : Keyed) (p : Path) (w' : Keyed) : Prop where
  file : ∀ f, w.hasFile f = true → Below p f → (w'.hasFile f = true ↔
    parent f ∈ w.readonly ∨ ∃ d ∈ w.denied, Within p d ∧ Within d (parent f))
  dir : ∀ d, w.hasDir d = true → Below p d → (w'.hasDir d = true ↔
    (∃ k, w.has k = true ∧ parent k = d ∧ w'.has k = true) ∨
      parent d ∈ w.readonly ∨ ∃ e ∈ w.denied, Within p e ∧ Within e (parent d))
  top : w'.hasDir p = true ↔
    (∃ k, w.has k = true ∧ parent k = p ∧ w'.has k = true) ∨ parent p ∈ w.readonly
  nothingNew : ∀ k, w'.has k = true → w.has k = true
  outside : ∀ q, ¬ Within p q → w'.hasDir q = w.hasDir q ∧ w'.content? q = w.content? q
  listings : ∀ d, ¬ Within p d → d ≠ parent p → w'.names? d = w.names? d
  above : w'.names? (parent p) = (w.names? (parent p)).map fun names =>
    if w'.hasDir p = true then names else names.erase (name p)

namespace Ordinary

variable {w : Keyed}

/-- A directory is removed together with all its entries, and not without them. -/
theorem removed_dir_iff (h : w.Ordinary) (p d : Path) (names : List Text)
    (hd : w.names? d = some names) (hpd : Within p d) : w.Removed p d ↔
      (∀ n ∈ names, w.Removed p (child d n)) ∧ parent d ∉ w.readonly ∧
        ∀ e ∈ w.denied, Within p e → ¬ Below e d := by
  constructor
  · intro hr
    refine ⟨fun n hn => ?_, ((h.doomed_dir_iff d names hd).mp hr.doomed).1, hr.reached⟩
    rcases h.entry_of_mem d names n hd hn with ⟨hl, hk⟩
    exact h.removed_down p d n hr hk hl
  · rintro ⟨hentries, hfree, hreached⟩
    refine ⟨hpd, (h.doomed_dir_iff d names hd).mpr ⟨hfree, fun hshut => ?_, fun n hn => ?_⟩,
      hreached⟩
    -- If the directory cannot be listed, nothing behind it is removed, so there is nothing.
    · rw [List.eq_nil_iff_forall_not_mem]
      intro n hn
      have hl := h.leads d names n hd hn
      exact (hentries n hn).reached d hshut hpd (Path.below_self_child d n hl.ne_nil hl.no_slash)
    · exact (hentries n hn).doomed

/-- A removal does not come to a key just if it is stopped at its directory or above. -/
theorem not_reached_iff (h : w.Ordinary) (p q : Path) (hq : w.has q = true) (hb : Below p q) :
    (∀ e ∈ w.denied, Within p e → ¬ Below e q) ↔
      ¬ ∃ e ∈ w.denied, Within p e ∧ Within e (parent q) := by
  have hne := Path.ne_root_of_below p q hb
  simp only [fun e => h.below_iff e q hq hne.1 hne.2, not_exists, not_and]

end Ordinary

namespace Pruned

variable {w w' : Keyed} (h : w.Ordinary) (p : Path) (hp : Pruned w (w.Removed p) w')

include h hp

/-- Something in a directory remains just if not all of its entries are removed. -/
theorem some_entry_iff (d : Path) (names : List Text) (hd : w.names? d = some names)
    (h0 : d ≠ []) (hr : d ≠ ['/']) : (∃ k, w.has k = true ∧ parent k = d ∧ w'.has k = true) ↔
      ¬ ∀ n ∈ names, w.Removed p (child d n) := by
  have hproper := h.proper d (w.has_of_hasDir d ((w.hasDir_iff d).mpr ⟨names, hd⟩))
  have hdhere := Path.proper_ne_here d hproper
  rw [not_forall]
  constructor
  · rintro ⟨k, hk, hpar, hk'⟩
    -- The roots count as their own directories, and this directory is neither.
    have hne : k ≠ [] ∧ k ≠ ['/'] :=
      ⟨fun hk0 => h0 (by rw [← hpar, hk0]; rfl), fun hk0 => hr (by rw [← hpar, hk0]; rfl)⟩
    rcases h.entry_of_key k hk hne.1 hne.2 with ⟨names', hkn, _, _, hnames', hcount⟩
    rw [hpar, hd, Option.some.injEq] at hnames'
    rw [hpar] at hkn
    refine ⟨name k, fun hall => ((hp.has_iff k).mp hk').2 ?_⟩
    rw [hkn]
    exact hall (List.count_pos_iff.mp (by rw [hnames']; omega))
  · rintro ⟨n, hn⟩
    rw [Classical.not_imp] at hn
    rcases h.entry_of_mem d names n hd hn.1 with ⟨hl, hk⟩
    exact ⟨child d n, hk, Path.parent_child d n hl.no_slash hdhere, (hp.has_iff _).mpr ⟨hk, hn.2⟩⟩

/-- A directory remains just if some entry of it does, or if it was not to be removed itself. -/
theorem dir_remains_iff (h0 : p ≠ []) (hr : p ≠ ['/']) (d : Path) (hd : w.hasDir d = true)
    (hpd : Within p d) : w'.hasDir d = true ↔
      (∃ k, w.has k = true ∧ parent k = d ∧ w'.has k = true) ∨ parent d ∈ w.readonly ∨
        ¬ ∀ e ∈ w.denied, Within p e → ¬ Below e d := by
  rcases (w.hasDir_iff d).mp hd with ⟨names, hnames⟩
  have hroot : d ≠ [] ∧ d ≠ ['/'] := by
    rcases hpd with hpd | hpd
    · rw [hpd]
      exact ⟨h0, hr⟩
    · exact Path.ne_root_of_below p d hpd
  rw [hp.hasDir_iff, h.removed_dir_iff p d names hnames hpd,
    hp.some_entry_iff h p d names hnames hroot.1 hroot.2, not_and_or, not_and_or, not_not]
  exact and_iff_right hd

/-- A file remains just if its directory may not be changed or the removal does not come there. -/
theorem file_remains_iff (f : Path) (hf : w.hasFile f = true) (hb : Below p f) :
    w'.hasFile f = true ↔
      parent f ∈ w.readonly ∨ ∃ e ∈ w.denied, Within p e ∧ Within e (parent f) := by
  have hreached := h.not_reached_iff p f (w.has_of_hasFile f hf) hb
  rw [hp.hasFile_iff]
  constructor
  · rintro ⟨_, hnot⟩
    -- In a directory that may be changed, and that is reached, it would have been removed.
    by_contra hc
    rw [not_or] at hc
    exact hnot ⟨Or.inr hb, Doomed.file hf hc.1, hreached.mpr hc.2⟩
  · intro hwhy
    refine ⟨hf, fun hrem => ?_⟩
    rcases hwhy with hwhy | hwhy
    · exact (doomed_file_iff w f hf).mp hrem.doomed hwhy
    · exact hreached.mp hrem.reached hwhy

/-- A directory elsewhere lists what it did, unless it is the one above. -/
theorem listing_elsewhere (d : Path) (hd : ¬ Within p d) (hne : d ≠ parent p) :
    w'.names? d = w.names? d := by
  rw [hp.names_left d (fun hrem => hd hrem.within)]
  cases hd' : w.names? d with
  | none => rfl
  | some names =>
      rw [Option.map_some, remaining_eq_self]
      intro n hn hrem
      have hl := h.leads d names n hd' hn
      -- An entry within the directory is the directory itself, or it lies in one that is within it.
      rcases (Path.within_child p d n hl.ne_nil hl.no_slash).mp hrem.within with heq | hw
      · refine hne ?_
        have hdp := h.proper d (w.has_of_hasDir d ((w.hasDir_iff d).mpr ⟨names, hd'⟩))
        rw [← heq]
        exact (Path.parent_child d n hl.no_slash (Path.proper_ne_here d hdp)).symm
      · exact hd hw

/-- The directory above lists what it did, but for the directory itself if that is removed. -/
theorem listing_above (hdir : w.hasDir p = true) (h0 : p ≠ []) (hr : p ≠ ['/']) :
    w'.names? (parent p) = (w.names? (parent p)).map fun names =>
      if w'.hasDir p = true then names else names.erase (name p) := by
  rcases h.entry_of_key p (w.has_of_hasDir p hdir) h0 hr with ⟨names, hpn, _, hn, hnames, _⟩
  have hap : Below (parent p) p := by
    have hself := Path.below_self_child (parent p) (name p) hn.ne_nil hn.no_slash
    rw [← hpn] at hself
    exact hself
  have hout := Path.not_within_of_below (parent p) p hap
  rw [hp.names_left _ (fun hrem => hout hrem.within), hnames, Option.map_some, Option.map_some]
  -- Of the entries beside it and itself, only the directory can be removed.
  have hentry : ∀ n ∈ names, (w.Removed p (child (parent p) n) ↔ n = name p ∧ w.Removed p p) := by
    intro n hmem
    have hl := h.leads (parent p) names n hnames hmem
    constructor
    · intro hrem
      rcases (Path.within_child p (parent p) n hl.ne_nil hl.no_slash).mp hrem.within with heq | hw
      · rw [heq] at hrem
        exact ⟨Path.child_inj_name (parent p) n (name p) (heq.trans hpn), hrem⟩
      · exact absurd hw hout
    · rintro ⟨heq, hrem⟩
      rw [heq, ← hpn]
      exact hrem
  by_cases hrem : w.Removed p p
  · rw [if_neg (fun hd => ((hp.hasDir_iff p).mp hd).2 hrem),
      (h.nodup _ names hnames).erase_eq_filter, remaining]
    refine congrArg some (List.filter_congr (fun n hmem => ?_))
    rw [Bool.eq_iff_iff]
    simp only [hentry n hmem, hrem, and_true, decide_eq_true_eq, bne_iff_ne, ne_eq]
  · rw [if_pos ((hp.hasDir_iff p).mpr ⟨hdir, hrem⟩), remaining_eq_self]
    exact fun n hmem hrem' => hrem ((hentry n hmem).mp hrem').2

/-- What becomes of each key when what is to be removed is gone. -/
theorem cleared (hdir : w.hasDir p = true) (h0 : p ≠ []) (hr : p ≠ ['/']) : w.Cleared p w' := by
  refine ⟨fun f hf hb => hp.file_remains_iff h p f hf hb, fun d hd hb => ?_, ?_,
    fun k hk => ((hp.has_iff k).mp hk).1, fun q hq => ?_, fun d => hp.listing_elsewhere h p d,
    hp.listing_above h p hdir h0 hr⟩
  · rw [hp.dir_remains_iff h p h0 hr d hd (Or.inr hb),
      h.not_reached_iff p d (w.has_of_hasDir d hd) hb, not_not]
  · rw [hp.dir_remains_iff h p h0 hr p hdir (Or.inl rfl)]
    refine or_congr_right (or_iff_left (fun hno => hno ?_))
    exact fun e _ hpe hbelow => Path.not_within_of_below e p hbelow hpe
  · have hout : ¬ w.Removed p q := fun hrem => hq hrem.within
    refine ⟨?_, hp.content_left q hout⟩
    rw [Bool.eq_iff_iff, hp.hasDir_iff]
    exact and_iff_left hout

end Pruned

end Keyed

/-- A removal starts with the depth that the world gives. -/
theorem removeTree_ran (m : Matcher) (w : Keyed) (p : Path) :
    (removeTree m p).ran w = (removeTreeWithin m (w.depth + 2) p).ran w := rfl

/-- The removal of a directory in an ordinary world without stars and faults, whatever is denied or
    read-only: it comes to an answer, which is that the directory is gone or names it, and leaves
    what could not be removed. -/
theorem removeTree_exact (m : Matcher) (w : Keyed) (p : Path) (hw : w.Ordinary)
    (hstar : w.StarFree) (hfaults : w.faults = []) (hdir : w.hasDir p = true) (h0 : p ≠ [])
    (hr : p ≠ ['/']) :
    w.Cleared p ((removeTree m p).ran w).world ∧
      ∃ outcome, ((removeTree m p).ran w).result = .ok outcome ∧
        (outcome.ok = true ↔ ((removeTree m p).ran w).world.hasDir p = false) ∧
        (outcome.ok = false → outcome.path = some p) := by
  have hrun := removeTreeWithin_prunes m (w.depth + 2) w p hw hstar hfaults hdir h0 hr
    (fun k hk => by
      have := w.length_lt_depth k hk
      omega)
  rw [removeTree_ran]
  rcases hrun.result with ⟨outcome, hresult, hok, hpath⟩
  refine ⟨hrun.world.cleared hw p hdir h0 hr, outcome, hresult, ?_, hpath⟩
  rw [hok, ← Bool.not_eq_true, hrun.world.hasDir_iff, Keyed.removed_self_iff, not_and, not_not]
  exact ⟨fun h _ => h, fun h => h hdir⟩

theorem removeTree_exact_grove :
    ({ Keyed.grove with denied := [['a', '/', 'b']] } : Keyed).Cleared ['a']
        ((removeTree ⟨true, none, none⟩ ['a']).ran
          ({ Keyed.grove with denied := [['a', '/', 'b']] } : Keyed)).world ∧
      ∃ outcome, ((removeTree ⟨true, none, none⟩ ['a']).ran
          ({ Keyed.grove with denied := [['a', '/', 'b']] } : Keyed)).result = .ok outcome ∧
        (outcome.ok = true ↔ ((removeTree ⟨true, none, none⟩ ['a']).ran
          ({ Keyed.grove with denied := [['a', '/', 'b']] } : Keyed)).world.hasDir ['a'] = false) ∧
        (outcome.ok = false → outcome.path = some ['a']) :=
  removeTree_exact ⟨true, none, none⟩ { Keyed.grove with denied := [['a', '/', 'b']] } ['a']
    (by decide) (Keyed.starFree_of_tables _ (by decide)) rfl (by decide) (by decide) (by decide)

end Maskwalk
