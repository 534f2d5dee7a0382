import Maskwalk.Proofs.Mask.Inside

/-!
# Paths without two stars in a row

A mask reaches below the directory where it starts if it holds two stars. No two stars come
together when a path is put into its normal form or a name is joined to it: normal forms are made of
segments of the path with slashes between them, and between a directory and a name there is a slash
as well. So if neither a path nor the names in a world hold two stars, no path does that is made of
these, and no mask is deep that asks for what a directory holds.

## Theorems

* `Text.occursIn_iff`: One text stands in another just if it is a part of it.
* `Mask.isDeep_normalize`: A normal form is not deep if the path is not.
* `Mask.isDeep_join`: Nor is a join of what is not deep.
-/

namespace Maskwalk

theorem Text.occursIn_iff (part t : Text) : occursIn part t = true ↔ part <:+: t := by
  induction t with
  | nil => rw [occursIn, List.isEmpty_iff, List.infix_nil]
  | cons c rest ih =>
      rw [occursIn, Bool.or_eq_true, List.isPrefixOf_iff_prefix, ih, List.infix_cons_iff]

namespace Mask

theorem isDeep_iff (t : Text) : isDeep t = true ↔ ['*', '*'] <:+: t := Text.occursIn_iff _ t

theorem isDeep_of_infix {s t : Text} (h : s <:+: t) (ht : isDeep t = false) : isDeep s = false := by
  refine Bool.eq_false_iff.mpr fun hs => ?_
  rw [(isDeep_iff t).mpr (((isDeep_iff s).mp hs).trans h)] at ht
  exact Bool.false_ne_true ht.symm

/-- Slashes for backslashes make no stars. -/
theorem isDeep_map_forward (p : Path) (h : isDeep p = false) :
    isDeep (p.map Path.forward) = false := by
  refine Bool.eq_false_iff.mpr fun hdeep => ?_
  rcases List.infix_map_iff.mp ((isDeep_iff _).mp hdeep) with ⟨run, hrun, hstars⟩
  -- What has become stars has been stars.
  have hkept : run.map Path.forward = run.map id := by
    refine List.map_congr_left fun c hc => ?_
    have hstar : Path.forward c ∈ ['*', '*'] := by
      rw [hstars]
      exact List.mem_map_of_mem hc
    unfold Path.forward at hstar ⊢
    split
    · rename_i hback
      rw [if_pos hback] at hstar
      exact absurd hstar (by decide)
    · rfl
  rw [hkept, List.map_id] at hstars
  rw [← hstars] at hrun
  rw [(isDeep_iff p).mpr hrun] at h
  exact Bool.false_ne_true h.symm

theorem isDeep_joined (segments : List Text) (h : ∀ s ∈ segments, isDeep s = false) :
    isDeep (Text.joined ['/'] segments) = false := by
  induction segments with
  | nil => rfl
  | cons s more ih =>
      rcases List.forall_mem_cons.mp h with ⟨hs, hmore⟩
      by_cases hne : more = []
      · rw [hne]
        exact hs
      · rw [Text.joined_cons _ _ _ hne, List.append_assoc]
        change isDeep (s ++ '/' :: Text.joined ['/'] more) = false
        rw [isDeep_append_slash, hs, ih hmore]
        rfl

/-- A normal form is not deep if the path is not. -/
theorem isDeep_normalize (p : Path) (h : isDeep p = false) : isDeep (Path.normalize p) = false := by
  by_cases hp : p = []
  · rw [hp]
    rfl
  · have hjoined : isDeep (Text.joined ['/'] (Path.fold (Path.split p).1 (Path.split p).2)) =
        false :=
      isDeep_joined _ fun s hs =>
        isDeep_of_infix (Path.infix_of_mem_fold_split p s hs) (isDeep_map_forward p h)
    rw [Path.normalize_of_ne_nil p hp, Path.render]
    generalize Path.fold (Path.split p).1 (Path.split p).2 = segments at hjoined ⊢
    split
    · rfl
    · cases (Path.split p).1 with
      | relative => exact hjoined
      | rooted => exact (isDeep_cons '/' _ (by decide)).trans hjoined
      | share =>
          exact ((isDeep_cons '/' _ (by decide)).trans (isDeep_cons '/' _ (by decide))).trans
            hjoined

/-- A join is not deep if neither its parts are. -/
theorem isDeep_join (d n : Path) (hd : isDeep d = false) (hn : isDeep n = false) :
    isDeep (Path.join d n) = false := by
  unfold Path.join
  split
  · exact hd
  split
  · exact hn
  split
  -- There is a slash between the two, that of the directory or another one.
  · rename_i hslash
    rw [Path.endsWithSlash, decide_eq_true_eq, List.getLast?_eq_some_iff] at hslash
    rcases hslash with ⟨front, rfl⟩
    rw [isDeep_append_slash, Bool.or_eq_false_iff] at hd
    rw [List.append_assoc]
    change isDeep (front ++ '/' :: n) = false
    rw [isDeep_append_slash, hd.1, hn]
    rfl
  · rw [isDeep_append_slash, hd, hn]
    rfl

end Mask

end Maskwalk
