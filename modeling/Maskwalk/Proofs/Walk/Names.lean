import Maskwalk.Proofs.Mask.Inside
import Maskwalk.Proofs.Walk.Reach
import Maskwalk.Proofs.World.Planted

/-!
# Names that mislead

Whether walks unfold trees is up to the names of a world. Backslashes aside, two kinds of names are
in the way. One that looks absolute takes the place of the directory that it is joined to, unless
that is the current one. And a name that stands for a directory and for a file is listed twice, and
so the directory is entered twice.

`Straight` says that no walk from a start meets such a name where it would follow it. A name that
looks absolute does no harm as long as nothing has it for its whole path, since then the walk takes
it for no directory.

If walks unfold a tree, a name that looks absolute cannot be followed: it leads to an entry of the
current directory, and that is below the start only if it is the current directory itself. But the
entry is entered from there as well.

In worlds of ordinary keys there are no such names at all.

## Main definitions

* `Keyed.Followed`: a name that leads to its own entry.
* `Keyed.Straight`: all names do, wherever a walk comes from a start.

## Theorems

* `Grown.entry_of_shown`: What a listed name stands for.
* `unfolds_iff_straight`: Without backslashes, walks unfold trees just if names lead to their
  entries.
-/

namespace Maskwalk

open Maskwalk.Path (Below child IsName)

namespace Keyed

/-- A name that leads from a directory in normal form to its own entry, in normal form, and is
    listed for the directory there alone. -/
structure Followed (w : Keyed) (d n : Text) : Prop where
  above : Path.InTree d
  leads : Path.Leads d n
  joined : Path.join d n = child d n
  dir : w.hasDir (child d n) = true
  normal : Path.normalize (child d n) = child d n
  once : (w.shown d).count n = 1

/-- Names lead to their own entries, wherever a walk comes from a start: a name that is joined to
    the path of a directory there, and makes the path of a directory, makes that of the entry, and
    there is no file of that path as well. -/
def Straight (w : Keyed) (start : Path) : Prop :=
  ∀ d, w.Reached start d → ∀ n ∈ w.shown d, isMark n = false → w.hasDir (Path.join d n) = true →
    Path.join d n = child d n ∧ w.hasFile (child d n) = false

/-- A name that a directory shows stands for something, and is listed once for each thing. -/
theorem Grown.entry_of_shown {marks : Prop} {w : Keyed} (hg : w.Grown marks) (d : Path) (n : Text)
    (hn : n ∈ w.shown d) (hmark : isMark n = false) :
    Path.InTree d ∧ IsName n ∧ w.has (child d n) = true ∧
      (w.shown d).count n = (w.hasDir (child d n)).toNat + (w.hasFile (child d n)).toNat := by
  rcases w.shown_cases d with h0 | ⟨names, hnames, hshown⟩
  · rw [h0] at hn
    exact absurd hn List.not_mem_nil
  · rw [hshown] at hn ⊢
    have hname : IsName n := (hg.name d names hnames n hn).resolve_right (fun hm => by
      rw [hmark] at hm
      exact Bool.false_ne_true hm.2)
    have hcount := hg.count d names hnames n hname
    refine ⟨hg.key d (w.has_of_hasDir d ((w.hasDir_iff d).mpr ⟨names, hnames⟩)), hname, ?_, hcount⟩
    -- It is listed at least once, so there is at least one thing that it stands for.
    have hpos := List.count_pos_iff.mpr hn
    rw [hcount] at hpos
    rw [has]
    revert hpos
    cases w.hasDir (child d n) <;> cases w.hasFile (child d n) <;> decide

section

variable {w : Keyed} (start : Path) (hstart : Path.normalize start = start)
  (h : ∀ d, w.Reached start d → Path.normalize d = d → ∀ n ∈ w.shown d, isMark n = false →
    w.hasDir (Path.join d n) = true → w.Followed d n)

include hstart h

/-- Where names lead to their entries, walks stay in normal forms and go down. -/
theorem reached_of_followed (d : Path) (hd : w.Reached start d) :
    Path.normalize d = d ∧ Path.Within start d := by
  induction hd with
  | refl => exact ⟨hstart, Or.inl rfl⟩
  -- A step goes into an entry of a directory in normal form, and that is one as well.
  | @tail p c hp hc ih =>
      rcases (w.mem_onward p c).mp hc with ⟨n, hn, hmark, hdir, hcn⟩
      rw [ih.1] at hn hdir
      have hf := h p hp ih.1 n hn hmark hdir
      rw [hcn, hf.joined]
      exact ⟨hf.normal, Or.inr (Path.below_of_within start p _ ih.2
        (Path.below_self_child p n hf.leads.ne_nil hf.leads.no_slash))⟩

theorem onward_of_followed (d c : Path) (hd : w.Reached start d) (hc : c ∈ w.onward d) :
    ∃ n, w.Followed d n ∧ c = child d n := by
  have hdn := (reached_of_followed start hstart h d hd).1
  rcases (w.mem_onward d c).mp hc with ⟨n, hn, hmark, hdir, hcn⟩
  rw [hdn] at hn hdir
  have hf := h d hd hdn n hn hmark hdir
  exact ⟨n, hf, by rw [hcn, hf.joined]⟩

/-- Where names lead to their entries, walks unfold trees. -/
theorem unfolds_of_followed : w.Unfolds start := by
  refine ⟨fun d hd c hc => ?_, fun d hd => ?_, fun d₁ d₂ h₁ h₂ c₁ hc₁ c₂ hc₂ heq => ?_⟩
  · rcases onward_of_followed start hstart h d c hd hc with ⟨n, hf, hcn⟩
    rw [hcn, hf.normal, hstart]
    exact ⟨hf.dir, Path.below_of_within start d _ (reached_of_followed start hstart h d hd).2
      (Path.below_self_child d n hf.leads.ne_nil hf.leads.no_slash)⟩
  · have hdn := (reached_of_followed start hstart h d hd).1
    have hfollowed : ∀ n ∈ (w.shown d).filter (fun n => w.hasDir (Path.join d n) && !isMark n),
        w.Followed d n := by
      intro n hn
      rw [List.mem_filter, Bool.and_eq_true, Bool.not_eq_true'] at hn
      exact h d hd hdn n hn.1 hn.2.2 hn.2.1
    rw [onward, hdn, List.map_map]
    -- Names that are listed once make different keys, and these are in normal form.
    refine List.Nodup.map_on (fun n₁ hn₁ n₂ hn₂ heq => ?_) (List.nodup_iff_count_le_one.mpr ?_)
    · have hf₁ := hfollowed n₁ hn₁
      have hf₂ := hfollowed n₂ hn₂
      rw [Function.comp_apply, Function.comp_apply, hf₁.joined, hf₂.joined, hf₁.normal, hf₂.normal]
        at heq
      exact Path.child_inj_name d n₁ n₂ heq
    · intro n
      by_cases hn : n ∈ (w.shown d).filter (fun n => w.hasDir (Path.join d n) && !isMark n)
      · exact Nat.le_trans (List.filter_sublist.count_le n) (Nat.le_of_eq (hfollowed n hn).once)
      · rw [List.count_eq_zero_of_not_mem hn]
        exact Nat.zero_le 1
  · rcases onward_of_followed start hstart h d₁ c₁ h₁ hc₁ with ⟨n₁, hf₁, hcn₁⟩
    rcases onward_of_followed start hstart h d₂ c₂ h₂ hc₂ with ⟨n₂, hf₂, hcn₂⟩
    rw [hcn₁, hcn₂, hf₁.normal, hf₂.normal] at heq
    exact (Path.InTree.child_inj d₁ d₂ n₁ n₂ hf₁.above hf₂.above hf₁.leads.toIsName
      hf₂.leads.toIsName heq).1

end

section

variable {marks : Prop} {w : Keyed} (hg : w.Grown marks) (start : Path)
  (hstart : Path.normalize start = start)

include hg

/-- A name that leads to its entry, and to no other. -/
theorem followed_of_leads (d : Path) (n : Text) (hdn : Path.normalize d = d) (hn : n ∈ w.shown d)
    (hmark : isMark n = false) (hdir : w.hasDir (Path.join d n) = true) (hl : Path.Leads d n)
    (hfile : w.hasFile (child d n) = false) : w.Followed d n := by
  rcases hg.entry_of_shown d n hn hmark with ⟨htree, _, _, hcount⟩
  have hjoin := Path.join_eq_child d n htree hl.ne_nil hl.relative
  rw [hjoin] at hdir
  rw [hdir, hfile] at hcount
  exact ⟨htree, hl, hjoin, hdir, Path.normalize_child d n hdn htree hl, hcount⟩

include hstart

/-- Where walks unfold a tree, the names that they follow lead to the entries. -/
theorem Unfolds.leads (h : w.Unfolds start) (d : Path) (n : Text) (hd : w.Reached start d)
    (hdn : Path.normalize d = d) (hn : n ∈ w.shown d) (hmark : isMark n = false)
    (hdir : w.hasDir (Path.join d n) = true) (hback : '\\' ∉ n) : Path.Leads d n := by
  rcases hg.entry_of_shown d n hn hmark with ⟨_, hname, _, _⟩
  -- Without a backslash the name alone is the key of an entry of the current directory.
  have halone := Path.normalize_proper _
    (Path.Proper.child Path.Proper.here ⟨hname, hback, fun h => absurd rfl h⟩)
  refine ⟨hname, hback, fun h0 => ?_⟩
  by_contra habs
  have hjoin := Path.join_absolute d n hname.ne_nil (Bool.not_eq_false _ ▸ habs)
  have hon : n ∈ w.onward d := (w.mem_onward d n).mpr
    ⟨n, by rw [hdn]; exact hn, hmark, by rw [hdn]; exact hdir, hjoin.symm⟩
  rw [hjoin] at hdir
  -- The name alone is below the start, so that is the current directory.
  have hnil : start = [] := by
    by_contra hs
    have hbelow := (h.down d hd n hon).2
    rw [hstart, show Path.normalize n = n from halone] at hbelow
    exact hname.no_slash (hbelow.1.subset (Path.slash_mem_into start hs))
  rw [hnil] at h hd
  -- And from there it was entered, as the name of an entry.
  have hshown : n ∈ w.shown [] := by
    rcases Relation.ReflTransGen.cases_head hd with hs | ⟨c, hc, _⟩
    · exact absurd hs.symm h0
    · rcases (w.mem_onward [] c).mp hc with ⟨n', hn', _⟩
      rcases w.shown_cases [] with hno | ⟨names, hnames, hall⟩
      · rw [show Path.normalize [] = [] from rfl, hno] at hn'
        exact absurd hn' List.not_mem_nil
      · have hcount := hg.count [] names hnames n hname
        rw [show child [] n = n from rfl, hdir] at hcount
        rw [hall]
        exact List.count_pos_iff.mp (by rw [hcount, Bool.toNat_true]; omega)
  have honhere : n ∈ w.onward [] := (w.mem_onward [] n).mpr
    ⟨n, hshown, hmark, by rw [show Path.join (Path.normalize []) n = n from
      Path.join_eq_child [] n Path.InTree.here hname.ne_nil (fun h => absurd rfl h)]; exact hdir,
      (Path.join_eq_child [] n Path.InTree.here hname.ne_nil (fun h => absurd rfl h)).symm⟩
  exact h0 (h.apart d [] hd Relation.ReflTransGen.refl n hon n honhere rfl)

omit hstart in
/-- Where walks unfold a tree, no name that they follow stands for a file as well. -/
theorem Unfolds.no_file (h : w.Unfolds start) (d : Path) (n : Text) (hd : w.Reached start d)
    (hdn : Path.normalize d = d) (hn : n ∈ w.shown d) (hmark : isMark n = false)
    (hdir : w.hasDir (Path.join d n) = true) (hl : Path.Leads d n) :
    w.hasFile (child d n) = false := by
  rcases hg.entry_of_shown d n hn hmark with ⟨htree, _, _, hcount⟩
  have hnodup := h.once d hd
  rw [onward, hdn] at hnodup
  -- The name is gone on into once, but it is listed for a file as well.
  have hone := List.nodup_iff_count_le_one.mp ((hnodup.of_map _).of_map _) n
  rw [List.count_filter (by rw [hdir, hmark]; rfl), hcount] at hone
  rw [Path.join_eq_child d n htree hl.ne_nil hl.relative] at hdir
  rw [hdir] at hone
  revert hone
  cases w.hasFile (child d n) <;> decide

/-- In worlds without backslashes, walks unfold trees just if names lead to their own entries. -/
theorem unfolds_iff_straight (hback : ∀ k, w.has k = true → '\\' ∉ k) :
    w.Unfolds start ↔ w.Straight start := by
  have hname : ∀ d n, n ∈ w.shown d → isMark n = false → '\\' ∉ n := fun d n hn hmark hc =>
    hback _ (hg.entry_of_shown d n hn hmark).2.2.1 (List.mem_append_right _ hc)
  constructor
  · intro h
    have hleads : ∀ d, w.Reached start d → Path.normalize d = d → ∀ n ∈ w.shown d,
        isMark n = false → w.hasDir (Path.join d n) = true →
          Path.Leads d n ∧ w.hasFile (child d n) = false := by
      intro d hd hdn n hn hmark hdir
      have hl := h.leads hg start hstart d n hd hdn hn hmark hdir (hname d n hn hmark)
      exact ⟨hl, h.no_file hg start d n hd hdn hn hmark hdir hl⟩
    intro d hd n hn hmark hdir
    -- The first part holds in normal forms, and in those a walk stays because of it.
    have hdn := (reached_of_followed start hstart (fun d hd hdn n hn hmark hdir =>
      followed_of_leads hg d n hdn hn hmark hdir (hleads d hd hdn n hn hmark hdir).1
        (hleads d hd hdn n hn hmark hdir).2) d hd).1
    rcases hleads d hd hdn n hn hmark hdir with ⟨hl, hfile⟩
    exact ⟨Path.join_eq_child d n (hg.entry_of_shown d n hn hmark).1 hl.ne_nil hl.relative, hfile⟩
  · intro h
    refine unfolds_of_followed start hstart (fun d hd hdn n hn hmark hdir => ?_)
    rcases h d hd n hn hmark hdir with ⟨hjoin, hfile⟩
    have hisname := (hg.entry_of_shown d n hn hmark).2.1
    exact followed_of_leads hg d n hdn hn hmark hdir ⟨hisname, hname d n hn hmark,
      Path.relative_of_join d n hisname hjoin⟩ hfile

end

example : ¬ (planted [(['C', ':', 'x', '/', 'f'], []), (['a', '/', 'C', ':', 'x', '/', 'g'], [])]
    []).Unfolds ['a'] := fun h =>
  absurd (h.down ['a'] Relation.ReflTransGen.refl ['C', ':', 'x'] (by decide)).2 (by decide)

end Keyed

end Maskwalk
