import Maskwalk.Proofs.World.Pruned

/-!
# What a removal takes away

Removing a directory with all that is in it is done as well as it can be. A file goes unless its
directory is read-only. A directory goes when everything in it has gone, unless the directory above
is read-only; and if it cannot be listed, nothing in it is even tried, so it goes only if it was
empty. `Doomed` says this of a single key, whatever the removal started at. What a removal of one
directory takes away are the doomed keys within it that it comes to: those with no directory above
them, from the start on, that cannot be listed.

Both notions look only downwards. They do not change while something else is removed, which is what
lets one entry of a directory be removed after another; and what a removal takes away from a
directory falls apart into what it takes away from its entries, and the directory itself.

## Main definitions

* `Keyed.Doomed`: a key that goes when its removal is tried.
* `Keyed.Removed`: what the removal of a directory takes away.

## Theorems

* `doomed_file_iff`, `Ordinary.doomed_dir_iff`: The two cases.
* `Ordinary.removed_down`: With a directory goes everything in it.
* `Ordinary.removed_congr`: What is removed depends only on what is below.
* `Ordinary.removed_iff`: What is removed falls apart into what is removed from the entries.
-/

namespace Maskwalk

open Maskwalk.Path (child Below Within)

namespace Keyed

/-- A key that goes when its removal is tried: a file in a directory that may be changed, or a
    directory in one, all of whose entries go, and which has none if it cannot be listed. -/
inductive Doomed (w : Keyed) : Path → Prop where
  | file {f : Path} (kind : w.hasFile f = true) (free : parent f ∉ w.readonly) : Doomed w f
  | dir {d : Path} {names : List Text} (listed : w.names? d = some names)
      (free : parent d ∉ w.readonly) (shut : d ∈ w.denied → names = [])
      (entries : ∀ n ∈ names, Doomed w (child d n)) : Doomed w d

/-- What the removal of a directory takes away: what is doomed within it, behind no directory that
    cannot be listed. -/
structure Removed (w : Keyed) (p q : Path) : Prop where
  within : Within p q
  doomed : w.Doomed q
  reached : ∀ e ∈ w.denied, Within p e → ¬ Below e q

theorem has_of_doomed (w : Keyed) (q : Path) (h : w.Doomed q) : w.has q = true := by
  cases h with
  | file kind _ => exact w.has_of_hasFile q kind
  | dir listed _ _ _ => exact w.has_of_hasDir q ((w.hasDir_iff q).mpr ⟨_, listed⟩)

theorem doomed_file_iff (w : Keyed) (f : Path) (hf : w.hasFile f = true) :
    w.Doomed f ↔ parent f ∉ w.readonly := by
  constructor
  · intro hd
    cases hd with
    | file _ free => exact free
    | dir _ free _ _ => exact free
  · exact Doomed.file hf

theorem removed_self_iff (w : Keyed) (p : Path) : w.Removed p p ↔ w.Doomed p := by
  constructor
  · intro hr
    exact hr.doomed
  · intro hd
    exact ⟨Or.inl rfl, hd, fun e _ hpe hbelow => Path.not_within_of_below e p hbelow hpe⟩

/-- From a directory that cannot be listed a removal takes away at most the directory itself. -/
theorem removed_shut_iff (w : Keyed) (p : Path) (hshut : p ∈ w.denied) (q : Path) :
    w.Removed p q ↔ q = p ∧ w.Doomed p := by
  constructor
  · intro hr
    rcases hr.within with hq | hq
    · rw [hq] at hr
      exact ⟨hq, hr.doomed⟩
    · exact absurd hq (hr.reached p hshut (Or.inl rfl))
  · rintro ⟨hq, hd⟩
    rw [hq]
    exact (removed_self_iff w p).mpr hd

namespace Ordinary

variable {w w' : Keyed}

theorem names_of_file (h : w.Ordinary) (f : Path) (hf : w.hasFile f = true) :
    w.names? f = none := by
  cases hd : w.names? f with
  | none => rfl
  | some names => exact absurd ⟨(w.hasDir_iff f).mpr ⟨names, hd⟩, hf⟩ (h.apart f)

theorem doomed_dir_iff (h : w.Ordinary) (d : Path) (names : List Text)
    (hd : w.names? d = some names) : w.Doomed d ↔
      parent d ∉ w.readonly ∧ (d ∈ w.denied → names = []) ∧ ∀ n ∈ names, w.Doomed (child d n) := by
  constructor
  · intro hdoomed
    cases hdoomed with
    | file kind _ =>
        rw [h.names_of_file d kind] at hd
        exact absurd hd (by simp only [reduceCtorEq, not_false_eq_true])
    | @dir _ names' listed free shut entries =>
        rw [listed, Option.some.injEq] at hd
        rw [← hd]
        exact ⟨free, shut, entries⟩
  · rintro ⟨free, shut, entries⟩
    exact Doomed.dir hd free shut entries

/-- With a directory goes everything in it. -/
theorem removed_down (h : w.Ordinary) (p d n : Path) (hd : w.Removed p d)
    (hk : w.has (child d n) = true) (hn : Path.Leads d n) : w.Removed p (child d n) := by
  have hproper := h.proper d (w.has_of_doomed d hd.doomed)
  rcases h.hasDir_above d n hproper hn hk with ⟨names, hnames, hcount⟩
  have hmem : n ∈ names := List.count_pos_iff.mp (by omega)
  rcases (h.doomed_dir_iff d names hnames).mp hd.doomed with ⟨_, hshut, hentries⟩
  refine ⟨(Path.within_child p d n hn.ne_nil hn.no_slash).mpr (Or.inr hd.within),
    hentries n hmem, fun e he hpe hbelow => ?_⟩
  -- A doomed directory that cannot be listed has no entries, so none lies behind it.
  rcases (Path.below_child e d n hn.ne_nil hn.no_slash).mp hbelow with hed | hed
  · rw [hed] at he
    rw [hshut he] at hmem
    exact absurd hmem List.not_mem_nil
  · exact hd.reached e he hpe hed

/-- Whether a key is doomed depends only on what is within it. -/
theorem doomed_of_same (h : w.Ordinary) (c : Path)
    (hnames : ∀ q, Within c q → w'.names? q = w.names? q)
    (hcontent : ∀ q, Within c q → w'.content? q = w.content? q)
    (hdenied : w'.denied = w.denied) (hreadonly : w'.readonly = w.readonly) (q : Path)
    (hq : Within c q) (hd : w.Doomed q) : w'.Doomed q := by
  -- By induction on why the key is doomed, as its entries are within the directory as well.
  induction hd with
  | @file f kind free =>
      refine Doomed.file ?_ (by rw [hreadonly]; exact free)
      rw [Keyed.hasFile_iff, hcontent f hq, ← Keyed.hasFile_iff]
      exact kind
  | @dir d names listed free shut _ ih =>
      refine Doomed.dir (by rw [hnames d hq]; exact listed) (by rw [hreadonly]; exact free)
        (fun he => shut (by rw [← hdenied]; exact he)) (fun n hn => ih n hn ?_)
      have hl := h.leads d names n listed hn
      exact (Path.within_child c d n hl.ne_nil hl.no_slash).mpr (Or.inr hq)

/-- While nothing within a directory is gone, what its removal takes away stays the same. -/
theorem removed_congr (h : w.Ordinary) (gone : Path → Prop) (hp : Pruned w gone w')
    (h' : w'.Ordinary) (c : Path) (hgone : ∀ q, gone q → ¬ Within c q) (q : Path) :
    w'.Removed c q ↔ w.Removed c q := by
  -- A listing within the directory has lost no name, for the entries are within it too.
  have hnames : ∀ q, Within c q → w'.names? q = w.names? q := by
    intro q hq
    rw [hp.names_left q (fun hg => hgone q hg hq)]
    cases hd : w.names? q with
    | none => rfl
    | some names =>
        rw [Option.map_some, remaining_eq_self]
        intro n hn hg
        have hl := h.leads q names n hd hn
        exact hgone _ hg ((Path.within_child c q n hl.ne_nil hl.no_slash).mpr (Or.inr hq))
  have hcontent : ∀ q, Within c q → w'.content? q = w.content? q := fun q hq =>
    hp.content_left q (fun hg => hgone q hg hq)
  constructor
  · rintro ⟨within, doomed, reached⟩
    refine ⟨within, h'.doomed_of_same c (fun q hq => (hnames q hq).symm)
      (fun q hq => (hcontent q hq).symm) hp.denied.symm hp.readonly.symm q within doomed, ?_⟩
    rw [← hp.denied]
    exact reached
  · rintro ⟨within, doomed, reached⟩
    refine ⟨within, h.doomed_of_same c hnames hcontent hp.denied hp.readonly q within doomed, ?_⟩
    rw [hp.denied]
    exact reached

/-- Of a file, a removal takes away the file. -/
theorem removed_file_iff (h : w.Ordinary) (f q : Path) (hf : w.hasFile f = true) :
    w.Removed f q ↔ q = f ∧ w.Doomed f := by
  constructor
  · intro hr
    rcases hr.within with hq | hq
    · rw [hq] at hr
      exact ⟨hq, hr.doomed⟩
    -- Nothing is below a file: what has a key below it is a directory.
    · have hdir := h.hasDir_of_below f q (w.has_of_doomed q hr.doomed) hq
      exact absurd ⟨hdir, hf⟩ (h.apart f)
  · rintro ⟨hq, hd⟩
    rw [hq]
    exact (removed_self_iff w f).mpr hd

/-- What a removal takes away from a directory that can be listed is what it takes away from its
    entries, and the directory itself if that is doomed. -/
theorem removed_iff (h : w.Ordinary) (p : Path) (names : List Text) (hp : w.names? p = some names)
    (hopen : p ∉ w.denied) (q : Path) : w.Removed p q ↔
      (∃ n ∈ names, w.Removed (child p n) q) ∨ (q = p ∧ w.Doomed p) := by
  constructor
  · intro hr
    rcases hr.within with hq | hq
    · rw [hq] at hr
      exact Or.inr ⟨hq, hr.doomed⟩
    · rcases h.entry_above p q (w.has_of_doomed q hr.doomed) hq with ⟨names', n, hp', hn, hw⟩
      rw [hp, Option.some.injEq] at hp'
      have hl := h.leads p names' n (by rw [← hp']; exact hp) hn
      refine Or.inl ⟨n, by rw [hp']; exact hn, hw, hr.doomed, fun e he hce => hr.reached e he ?_⟩
      exact Path.within_trans p (child p n) e
        (Or.inr (Path.below_self_child p n hl.ne_nil hl.no_slash)) hce
  · rintro (⟨n, hn, hr⟩ | ⟨hq, hd⟩)
    · have hl := h.leads p names n hp hn
      have hpc := Path.below_self_child p n hl.ne_nil hl.no_slash
      refine ⟨Path.within_trans p _ q (Or.inr hpc) hr.within, hr.doomed, fun e he hpe hbelow => ?_⟩
      -- A denied directory above the key is within the entry, or it is the directory itself.
      rcases Path.within_linear (child p n) e q hr.within (Or.inr hbelow) with hce | hec
      · exact hr.reached e he hce hbelow
      · rcases (Path.below_child e p n hl.ne_nil hl.no_slash).mp hec with hep | hep
        · rw [hep] at he
          exact hopen he
        · exact Path.not_within_of_below e p hep hpe
    · rw [hq]
      exact (removed_self_iff w p).mpr hd

end Ordinary

end Keyed

end Maskwalk
