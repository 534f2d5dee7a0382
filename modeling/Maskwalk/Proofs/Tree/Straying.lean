import Maskwalk.Proofs.Tree.Confinement

/-!
# Removals that stray

A removal that can stray does so in some world. The mask of what the directory holds fits an
ordinary path outside; of all such paths take one with none of them above it, and the chain of
directories that ends in it. In this world the removal finds the end of the chain and nothing else:
whatever is above it is either not fitted by the mask or within the directory, and then the end
would be within as well.

Then the end itself is removed. It holds nothing, and nothing is found for it either, since
everything in the world is above it and has too few slashes for its mask. Whatever comes next makes
nothing new, so the end of the chain stays away.

So a removal stays within its directory, in every ordinary world, just if its path does not stray.

## Main definitions

* `Attempt.Loses`: an attempt after which a key is gone from a tree.

## Theorems

* `holds_end`: For the end of a chain nothing is found.
* `removeTreeWithin_end`: The end of a chain is removed.
* `eq_end_of_holds`, `removeTreeWithin_strays`: It is found, if it is a stray and none is above it.
* `removeTree_confined_iff`: A removal stays within its directory just if the path does not stray.
-/

namespace Maskwalk

open Maskwalk.Path (child Below Within)

namespace Attempt

variable {α β : Type} {t : Path}

/-- An attempt after which a key is gone from a tree. -/
def Loses (a : Attempt α) (w : Keyed) (t : Path) : Prop :=
  (a.ran w).world.Ordinary ∧ (a.ran w).world.has t = false

/-- What is gone stays away when no more keys are made. -/
theorem Loses.bind {a : Attempt α} {f : α → Attempt β} {w : Keyed} (ha : Loses a w t)
    (hf : ∀ x w', w'.Ordinary → Confines (f x) w' (fun _ => True)) : Loses (a >>= f) w t := by
  unfold Loses at *
  rw [world_bind]
  cases (a.ran w).result with
  | ok x =>
      have hrest := hf x _ ha.1
      refine ⟨hrest.ordinary, Bool.eq_false_iff.mpr (fun hk => ?_)⟩
      have hback := hrest.fewer t hk
      rw [ha.2] at hback
      exact Bool.false_ne_true hback
  | error fault => exact ha

theorem Reads.bind_loses {a : Attempt α} {f : α → Attempt β} {w : Keyed} {x : α}
    (ha : Reads a w (.ok x)) (hf : ∀ calls, Loses (f x) { w with calls } t) :
    Loses (a >>= f) w t := by
  rcases ha.world_of_bind (f := f) with ⟨calls, hw⟩
  unfold Loses
  rw [hw]
  exact hf calls

end Attempt

open Attempt

/-- Nothing new is made by a removal. -/
theorem removeTreeWithin_trims (m : Matcher) (depth : Nat) (d : Path) (w : Keyed)
    (hw : w.Ordinary) : Confines (removeTreeWithin m depth d) w (fun _ => True) := by
  refine removeTreeWithin_confines m _ (fun d => Path.normalize d = d) (fun d hd => hd)
    (fun _ _ _ => trivial) (fun d _ w' hw' files c hc => ?_) depth d w hw
    (Path.normalize_normalize d)
  exact (ordinary_of_holds m w' hw' d c files hc).1.normal

/-- Nor by the second half of one. -/
theorem removeEmptied_trims (m : Matcher) (d : Path) (hn : Path.normalize d = d) (w : Keyed)
    (hw : w.Ordinary) : Confines (removeEmptied m d) w (fun _ => True) := by
  refine removeEmptied_confines m _ (fun d => Path.normalize d = d) (fun d hd => hd)
    (fun _ _ _ => trivial) (fun d _ w' hw' files c hc => ?_) w hw d hn
  exact (ordinary_of_holds m w' hw' d c files hc).1.normal

section

variable (m : Matcher) (t : Path) (h0 : t ≠ []) (hr : t ≠ ['/']) (w : Keyed) (hw : w.Ordinary)
  (ht : Path.IsOrdinary t)
  (hchain : ∀ k, w.has k = true → (k = [] ∨ k = ['/']) ∨ Within k t)

include h0 hr hw ht hchain

/-- For the end of a chain nothing is found: whatever there is has too few slashes. -/
theorem holds_end (files : Bool) (c : Path) : c ∉ w.holds m t files := by
  intro hc
  have hhas := Keyed.Ordinary.has_of_kind _ c (hw.isMatch_of_holds m t files c hc).kind
  rcases ordinary_of_holds m w hw t c files hc with ⟨hord, hbelow, hcov, _⟩
  have hshare : t ≠ ['/', '/'] := fun h => ht.no_share (by rw [h])
  rw [insideMask_eq t ht.normal hshare, Path.place_proper t ht.proper] at hcov
  have hne := Path.ne_root_of_below _ c hbelow
  -- What is found would be in the chain, so its text starts that of the end.
  have hct : c <+: t := by
    rcases hchain c hhas with hk | hk
    · exact absurd hk (not_or.mpr hne)
    · rcases hk with hk | hk
      · rw [hk]
      · exact (Path.prefix_into c).trans hk.1
  have hmore := (Mask.count_of_covers _ (Text.sameLetter_slash _) _ c hcov).1
  have hfew := hct.sublist.count_le '/'
  have hmask : (child t ['*']).count '/' = t.count '/' + 1 := by
    rw [child, Path.into_of_ne t h0 hr, List.count_append, List.count_append]
    rfl
  omega

/-- The end of a chain is removed. -/
theorem removeTreeWithin_end (hempty : w.names? t = some []) (hfault : valueOf? t w.faults = none)
    (hfree : Keyed.parent t ∉ w.readonly) (depth : Nat) :
    Loses (removeTreeWithin m (depth + 1) t) w t := by
  have hnone : ∀ (w : Keyed), w.Ordinary →
      (∀ k, w.has k = true → (k = [] ∨ k = ['/']) ∨ Within k t) → ∀ files,
        w.holds m t files = [] := by
    intro w hw hchain files
    exact List.eq_nil_iff_forall_not_mem.mpr (holds_end m t h0 hr w hw ht hchain files)
  unfold removeTreeWithin
  simp only [ht.normal]
  refine Reads.bind_loses (contents_reads m t false w hw) (fun calls => ?_)
  rw [hnone w hw hchain false]
  refine Reads.bind_loses (Reads.pure () _) (fun calls => ?_)
  unfold removeEmptied
  refine Reads.bind_loses (contents_reads m t true _ (hw.with_calls calls)) (fun calls' => ?_)
  rw [hnone _ (hw.with_calls calls) hchain true]
  refine Reads.bind_loses (Reads.pure () _) (fun calls => ?_)
  have hw' := hw.with_calls calls
  have hdone := (hw'.coherent.rmdir_done t ht.normal hfault hempty hfree).1
  -- Nothing was found in it, so it is empty and goes, and the answer changes nothing.
  have hgone : Loses (Attempt.request (.rmdir t)) { w with calls } t := by
    have htrimmed : Confines (Attempt.request (.rmdir t)) { w with calls } (fun _ => True) :=
      Keyed.rmdir_trimmed hw' t ht.normal (fun _ => trivial)
    refine ⟨htrimmed.ordinary, Bool.eq_false_iff.mpr (fun hk => ?_)⟩
    exact ((hdone.has_iff t).mp hk).2 rfl
  refine hgone.bind (fun reply w'' hw'' => ?_)
  have hsame := world_of_answer t reply w''
  cases reply <;> exact (congrArg (w''.Trimmed _) hsame).mpr (Keyed.Trimmed.refl hw'')

end

/-- The end of a chain is found by every mask that fits it, as long as that is deep. -/
theorem end_mem_holds (m : Matcher) (d t : Path) (hdeep : Mask.isDeep (insideMask d) = true)
    (ht : Path.IsOrdinary t) (hbelow : Below (Mask.start (insideMask d)) t)
    (hfits : (Mask.compile (insideMask d) (!m.caseSensitive)).fits t = true) :
    t ∈ (Keyed.bare.addDir t).holds m d false := by
  rcases Keyed.chain_free t with ⟨hdenied, _, hfaults⟩
  have hmay := (Keyed.bare.addDir t).mayList_of_nil hdenied hfaults
  have hdir := (Keyed.hasDir_chain t ht t).mpr (Or.inr (Or.inl rfl))
  refine (Keyed.ordinary_chain t ht).holds_of_isMatch hmay m d false t
    ⟨hdir, hbelow, fun hshallow => ?_, fun e _ _ => leftOut_never _, leftOut_never _, hfits⟩
  exact absurd (hdeep.symm.trans hshallow) Bool.noConfusion

/-- The mask of what a directory holds is deep if the path is. -/
theorem isDeep_insideMask (p : Path) (hdeep : Mask.isDeep (Path.normalize p) = true) :
    Mask.isDeep (insideMask (Path.normalize p)) = true := by
  have hs : '*' ∈ Path.normalize p := by
    by_contra hs
    rw [Mask.isDeep_of_no_star _ hs] at hdeep
    exact Bool.false_ne_true hdeep
  have hpn := Path.normalize_normalize p
  rw [insideMask_eq _ hpn (ne_share_of_star _ hs), place_of_star _ hpn hs, Mask.isDeep_child_star,
    hdeep]

section

variable (m : Matcher) (p t : Path) (ht : IsStray m p t)
  (hleast : ∀ c, Below c t → ¬ IsStray m p c)

include ht hleast

/-- In the chain that ends in a highest stray, nothing but that is found. -/
theorem eq_end_of_holds (c : Path)
    (hc : c ∈ (Keyed.bare.addDir t).holds m (Path.normalize p) false) : c = t := by
  have hw := Keyed.ordinary_chain t ht.ordinary
  have hhas := Keyed.Ordinary.has_of_kind _ c (hw.isMatch_of_holds m _ false c hc).kind
  rcases ordinary_of_holds m _ hw _ c false hc with ⟨hord, hbc, hcov, _⟩
  rcases Keyed.has_chain t ht.ordinary c hhas with hk | hk
  · exact absurd hk (not_or.mpr (Path.ne_root_of_below _ c hbc))
  · -- What is found above the end would be within the place, and the end with it.
    refine (hk.resolve_right (fun hct => ?_)).symm
    have hin : Within (Path.place p) c := by
      by_contra hno
      exact hleast c hct ⟨hord, hbc, (Mask.fits_compile _ _ c).mpr hcov, hno⟩
    exact ht.outside (Path.within_trans _ c t hin (Or.inr hct))

/-- And that is removed. -/
theorem removeTreeWithin_strays (hdeep : Mask.isDeep (Path.normalize p) = true) (depth : Nat) :
    Loses (removeTreeWithin m (depth + 2) p) (Keyed.bare.addDir t) t := by
  have hne := Path.ne_root_of_below _ t ht.below
  have hw := Keyed.ordinary_chain t ht.ordinary
  rcases Keyed.chain_free t with ⟨_, hreadonly, hfaults⟩
  rw [removeTreeWithin]
  refine Reads.bind_loses (contents_reads m (Path.normalize p) false _ hw) (fun calls => ?_)
  refine Loses.bind ?_ (fun _ w' hw' => removeEmptied_trims m _ (Path.normalize_normalize p) w' hw')
  have hend : endsInMarker t = false := by
    cases ht.ordinary.proper with
    | here => exact absurd rfl hne.1
    | root => exact absurd rfl hne.2
    | @child d n _ hl => exact endsInMarker_child d n hl.toIsName
  have hmem : t ∈ ((Keyed.bare.addDir t).holds m (Path.normalize p) false).filter
      (!endsInMarker ·) :=
    List.mem_filter.mpr ⟨end_mem_holds m _ t (isDeep_insideMask p hdeep) ht.ordinary ht.below
      ht.fits, by rw [hend]; rfl⟩
  cases hlist : ((Keyed.bare.addDir t).holds m (Path.normalize p) false).filter
      (!endsInMarker ·) with
  | nil =>
      rw [hlist] at hmem
      exact absurd hmem List.not_mem_nil
  | cons first more =>
      -- The end comes first, since there is nothing else, and whatever comes then makes nothing.
      have hfirst : first ∈ (first :: more) := List.mem_cons_self
      rw [← hlist] at hfirst
      rw [eq_end_of_holds m p t ht hleast first (List.mem_filter.mp hfirst).1]
      refine Loses.bind ?_ (fun _ w' hw' => doEach_confines _ _ w' hw' (fun c _ w'' hw'' => ?_))
      · refine Loses.bind (removeTreeWithin_end m t hne.1 hne.2 _ (hw.with_calls calls) ht.ordinary
          (Keyed.has_chain t ht.ordinary) (Keyed.names_chain_end t ht.ordinary) ?_ ?_ _)
          (fun _ w' hw' => Keyed.Trimmed.refl hw')
        · change valueOf? t (Keyed.bare.addDir t).faults = none
          rw [hfaults]
          rfl
        · change Keyed.parent t ∉ (Keyed.bare.addDir t).readonly
          rw [hreadonly]
          exact List.not_mem_nil
      · exact Confines.bind (removeTreeWithin_trims m _ c w'' hw'')
          (fun _ w₃ hw₃ => Keyed.Trimmed.refl hw₃)

end

/-- A removal that can stray does so in some ordinary world. -/
theorem removed_of_strays (m : Matcher) (p : Path) (h : Strays m p) :
    ∃ w : Keyed, w.Ordinary ∧ ∃ k, w.has k = true ∧
      ((removeTree m p).ran w).world.has k = false ∧ ¬ Within (Path.place p) k := by
  rcases h with ⟨hdeep, t₀, hstray⟩
  -- The chain that ends in a highest stray holds no other, so the removal comes to this one.
  rcases Path.exists_highest (IsStray m p) t₀ hstray with ⟨t, ht, hleast⟩
  have hdir := (Keyed.hasDir_chain t ht.ordinary t).mpr (Or.inr (Or.inl rfl))
  exact ⟨Keyed.bare.addDir t, Keyed.ordinary_chain t ht.ordinary, t, Keyed.has_of_hasDir _ t hdir,
    (removeTreeWithin_strays m p t ht hleast hdeep _).2, ht.outside⟩

/-- The removal of a tree takes away nothing outside the directory, in any ordinary world, whatever
    is denied, read-only or faulty there, just if its path does not stray. -/
theorem removeTree_confined_iff (m : Matcher) (p : Path) :
    (∀ w : Keyed, w.Ordinary → ∀ k, w.has k = true →
      ((removeTree m p).ran w).world.has k = false → Within (Path.place p) k) ↔ ¬ Strays m p := by
  constructor
  · intro hall hstray
    rcases removed_of_strays m p hstray with ⟨w, hw, k, hk, hgone, hout⟩
    exact hout (hall w hw k hk hgone)
  · intro hstay w hw k hk hgone
    by_contra hout
    have hkept := (confines_of_not_strays m p hstay (w.depth + 2) w hw).kept k hk hout
    exact absurd (hkept.symm.trans hgone) Bool.noConfusion

example : Strays ⟨true, none, none⟩ ['*', '*'] :=
  ⟨by decide, ['a', '/', 'f'], ⟨by decide, by decide, by decide⟩, by decide, by decide, by decide⟩

end Maskwalk
