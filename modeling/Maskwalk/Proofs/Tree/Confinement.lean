import Maskwalk.Proofs.Tree.Contents
import Maskwalk.Proofs.World.Planted
import Maskwalk.Proofs.World.Pruned

/-!
# Where a removal stays

A removal asks for what a directory holds by a mask, and the path of the directory is part of it. So
a path that holds stars is read as a mask, and what it fits need not be in the directory.

Most paths are harmless. Without stars the mask starts at the directory itself. A path with stars
that is not deep finds nothing at all: it starts further up, and what lies directly there has too
few slashes for it. Only a deep path can stray, and it does not if the mask of what it holds fits no
ordinary path outside. `Strays` says so without a world. Where a path does not stray, nothing
outside is ever removed, at any depth of the recursion and however it ends.

Of each step only little matters here, that it leaves a tree and takes nothing away but what lies in
a region. The region is kept by the recursion as long as everything found in it is in it.

## Main definitions

* `Keyed.Trimmed`: a world is what another is without some keys of a region.
* `Attempt.Confines`: an attempt that takes away nothing outside a region.
* `IsStray`, `Strays`: what is outside but looked for inside, and paths for which there is some.

## Theorems

* `removeTreeWithin_confines`: What is found decides where a removal stays.
* `holds_share`, `holds_shallow`: Paths that find nothing.
* `within_of_holds_starry`, `within_of_holds_plain`: Paths that find nothing outside.
* `confines_of_not_strays`: A removal that does not stray stays within its directory.
-/

namespace Maskwalk

open Maskwalk.Path (child Below Within)

namespace Keyed

/-- The second world is a tree of keys of the first, among them all that lie outside a region. -/
structure Trimmed (w : Keyed) (region : Path → Prop) (w' : Keyed) : Prop where
  ordinary : w'.Ordinary
  fewer : ∀ k, w'.has k = true → w.has k = true
  kept : ∀ k, w.has k = true → ¬ region k → w'.has k = true

section

variable {w w' w'' : Keyed} {region : Path → Prop}

theorem Trimmed.refl (h : w.Ordinary) : w.Trimmed region w := ⟨h, fun _ hk => hk, fun _ hk _ => hk⟩

theorem Trimmed.trans (h : w.Trimmed region w') (h' : w'.Trimmed region w'') :
    w.Trimmed region w'' :=
  ⟨h'.ordinary, fun k hk => h.fewer k (h'.fewer k hk),
    fun k hk hr => h'.kept k (h.kept k hk hr) hr⟩

theorem Ordinary.isOrdinary (h : w.Ordinary) (k : Path) (hk : w.has k = true) :
    Path.IsOrdinary k :=
  ⟨h.normal k hk, h.no_share k hk, h.plain k hk⟩

/-- A world without one key that has nothing in it. -/
theorem Pruned.trimmed (h : w.Ordinary) (k : Path) (hp : w.Pruned (· = k) w')
    (hempty : ∀ n, Path.Leads k n → w.has (child k n) = false) (hr : region k) :
    w.Trimmed region w' := by
  refine ⟨hp.ordinary h (fun d n hd hk hl => ?_), fun q hq => ((hp.has_iff q).mp hq).1,
    fun q hq hout => (hp.has_iff q).mpr ⟨hq, fun heq => hout (by rw [heq]; exact hr)⟩⟩
  rw [hd] at hk hl
  rw [hempty n hl] at hk
  exact absurd hk Bool.false_ne_true

/-- Removing a directory takes it away or nothing. -/
theorem rmdir_trimmed (h : w.Ordinary) (d : Path) (hn : Path.normalize d = d)
    (hr : w.has d = true → region d) : w.Trimmed region ((Request.rmdir d).settled w).2 := by
  by_cases hgo : valueOf? d w.faults = none ∧ w.names? d = some [] ∧ parent d ∉ w.readonly
  · have hdir : w.hasDir d = true := (w.hasDir_iff d).mpr ⟨[], hgo.2.1⟩
    refine (h.coherent.rmdir_done d hn hgo.1 hgo.2.1 hgo.2.2).1.trimmed h d (fun n hl => ?_)
      (hr (w.has_of_hasDir d hdir))
    rw [Bool.eq_false_iff, ne_eq, ← h.listed_iff d [] n hgo.2.1 hl]
    exact List.not_mem_nil
  · have hwhy : valueOf? d w.faults ≠ none ∨ w.names? d ≠ some [] ∨ parent d ∈ w.readonly := by
      rw [not_and_or, not_and_or, not_not] at hgo
      exact hgo
    rcases h.coherent.rmdir_refused d hn hwhy with ⟨why, calls, hsettled, _⟩
    rw [hsettled]
    exact ⟨h.with_calls calls, fun _ hk => hk, fun _ hk _ => hk⟩

/-- Removing a file takes it away or nothing. -/
theorem remove_trimmed (h : w.Ordinary) (f : Path) (hn : Path.normalize f = f)
    (hr : w.has f = true → region f) : w.Trimmed region ((Request.remove f).settled w).2 := by
  by_cases hgo : valueOf? f w.faults = none ∧ w.hasFile f = true ∧ parent f ∉ w.readonly
  · refine (h.coherent.remove_done f hn hgo.1 hgo.2.1 hgo.2.2).1.trimmed h f (fun n hl => ?_)
      (hr (w.has_of_hasFile f hgo.2.1))
    rw [Bool.eq_false_iff]
    intro hk
    -- A file has nothing in it, for what does is a directory.
    have hbelow := Path.below_self_child f n hl.ne_nil hl.no_slash
    exact h.apart f ⟨h.hasDir_of_below f _ hk hbelow, hgo.2.1⟩
  · have hwhy : valueOf? f w.faults ≠ none ∨ w.hasFile f = false ∨ parent f ∈ w.readonly := by
      rw [not_and_or, not_and_or, not_not, Bool.not_eq_true] at hgo
      exact hgo
    rcases w.remove_refused f hn hwhy with ⟨why, calls, hsettled, _⟩
    rw [hsettled]
    exact ⟨h.with_calls calls, fun _ hk => hk, fun _ hk _ => hk⟩

end

end Keyed

namespace Attempt

variable {α β : Type} {region : Path → Prop}

/-- An attempt that leaves a tree and takes away nothing outside a region. -/
def Confines (a : Attempt α) (w : Keyed) (region : Path → Prop) : Prop :=
  w.Trimmed region (a.ran w).world

theorem Confines.bind {a : Attempt α} {f : α → Attempt β} {w : Keyed} (ha : Confines a w region)
    (hf : ∀ x w', w'.Ordinary → Confines (f x) w' region) : Confines (a >>= f) w region := by
  unfold Confines at *
  rw [world_bind]
  cases (a.ran w).result with
  | ok x => exact ha.trans (hf x _ ha.ordinary)
  | error fault => exact ha

/-- What only reads takes nothing away. -/
theorem Reads.bind_confines {a : Attempt α} {f : α → Attempt β} {w : Keyed} {x : α}
    (ha : Reads a w (.ok x)) (hf : ∀ calls, Confines (f x) { w with calls } region) :
    Confines (a >>= f) w region := by
  rcases ha with ⟨hr, calls, hw⟩
  have hrest := hf calls
  unfold Confines at *
  rw [world_bind, hr, hw]
  exact ⟨hrest.ordinary, hrest.fewer, hrest.kept⟩

end Attempt

open Attempt

/-- Steps in a row stay where each step stays. -/
theorem doEach_confines {region : Path → Prop} (step : Path → Attempt Unit) (paths : List Path) :
    ∀ w : Keyed, w.Ordinary → (∀ p ∈ paths, ∀ w : Keyed, w.Ordinary → Confines (step p) w region) →
      Confines (doEach step paths) w region := by
  induction paths with
  | nil => exact fun w hw _ => Keyed.Trimmed.refl hw
  -- A step leaves a tree, so the next one starts from a tree again.
  | cons p more ih =>
      intro w hw hstep
      refine Confines.bind (hstep p List.mem_cons_self w hw) (fun _ w' hw' => ?_)
      exact ih w' hw' (fun p hp => hstep p (List.mem_cons_of_mem _ hp))

theorem removeOrReport_confines {region : Path → Prop} (w : Keyed) (hw : w.Ordinary) (f : Path)
    (hn : Path.normalize f = f) (hr : region f) : Confines (removeOrReport f) w region := by
  refine Confines.bind (Keyed.remove_trimmed hw f hn (fun _ => hr)) (fun reply w' hw' => ?_)
  cases reply with
  | ok _ => exact Keyed.Trimmed.refl hw'
  | error why =>
      change w'.Trimmed region ((if why.isRefusal then Attempt.notice (.fileLeft f why)
        else throw (.failed why) : Attempt Unit).ran w').world
      cases why.isRefusal <;> exact Keyed.Trimmed.refl hw'

/-- The answer about a directory changes nothing. -/
theorem world_of_answer (d : Path) (reply : Except Failure Unit) (w : Keyed) :
    ((match reply with
      | .ok () => do
        Attempt.notice (.dirRemoved d)
        return .done
      | .error why => do
        if why.isRefusal then Attempt.notice (.dirLeft d why)
        refused d why : Attempt Outcome).ran w).world = w := by
  cases reply with
  | ok _ => rfl
  | error why =>
      simp only [refused]
      cases why.isRefusal <;> rfl

section

variable (m : Matcher) (region : Path → Prop) (start : Path → Prop)
  (hnormal : ∀ d, start d → Path.normalize d = d)
  (hself : ∀ d, start d → Path.IsOrdinary d → region d)
  (hholds : ∀ d, start d → ∀ w : Keyed, w.Ordinary → ∀ files, ∀ c ∈ w.holds m d files, start c)

include hnormal hself hholds

/-- The files in a directory and then the directory itself are removed, and nothing else. -/
theorem removeEmptied_confines (w : Keyed) (hw : w.Ordinary) (d : Path) (hd : start d) :
    Confines (removeEmptied m d) w region := by
  unfold removeEmptied
  refine Reads.bind_confines (contents_reads m d true w hw) (fun calls => ?_)
  refine Confines.bind (doEach_confines _ _ _ (hw.with_calls calls) (fun f hf w' hw' => ?_))
    (fun _ w' hw' => ?_)
  -- A file that was found is still tried, on a world that has lost others since.
  · have hmatch := hw.isMatch_of_holds m d true f hf
    have hfstart := hholds d hd w hw true f hf
    have hford := hw.isOrdinary f (Keyed.Ordinary.has_of_kind _ f hmatch.kind)
    exact removeOrReport_confines w' hw' f (hnormal f hfstart) (hself f hfstart hford)
  · refine Confines.bind (Keyed.rmdir_trimmed hw' d (hnormal d hd)
      (fun hk => hself d hd (hw'.isOrdinary d hk))) (fun reply w'' hw'' => ?_)
    have hsame := world_of_answer d reply w''
    cases reply <;> exact (congrArg (w''.Trimmed region) hsame).mpr (Keyed.Trimmed.refl hw'')

/-- A removal stays in a region if everything that it finds from where it starts is somewhere from
    where it finds nothing else. -/
theorem removeTreeWithin_confines (depth : Nat) : ∀ (d : Path) (w : Keyed), w.Ordinary →
    start (Path.normalize d) → Confines (removeTreeWithin m depth d) w region := by
  induction depth with
  | zero => exact fun d w hw _ => Keyed.Trimmed.refl hw
  | succ depth ih =>
      intro d w hw hd
      unfold removeTreeWithin
      refine Reads.bind_confines (contents_reads m (Path.normalize d) false w hw) (fun calls => ?_)
      refine Confines.bind (doEach_confines _ _ _ (hw.with_calls calls) (fun c hc w' hw' => ?_))
        (fun _ w' hw' => removeEmptied_confines m region start hnormal hself hholds w' hw' _ hd)
      -- What is found is somewhere that the removal may start from, so it stays there as well.
      have hcstart := hholds _ hd w hw false c (List.mem_filter.mp hc).1
      rw [← hnormal c hcstart] at hcstart
      exact Confines.bind (ih c w' hw' hcstart) (fun _ w'' hw'' => Keyed.Trimmed.refl hw'')

end

/-- A stray of a path: an ordinary path that the mask of what the path holds fits, below where the
    mask starts, but that is not within the place that the path stands for. -/
structure IsStray (m : Matcher) (p t : Path) : Prop where
  ordinary : Path.IsOrdinary t
  below : Below (Mask.start (insideMask (Path.normalize p))) t
  fits : (Mask.compile (insideMask (Path.normalize p)) (!m.caseSensitive)).fits t = true
  outside : ¬ Within (Path.place p) t

/-- A path whose removal can stray: it is deep when it is read as a mask, and has a stray. -/
def Strays (m : Matcher) (p : Path) : Prop :=
  Mask.isDeep (Path.normalize p) = true ∧ ∃ t, IsStray m p t

section

variable (m : Matcher) (w : Keyed) (hw : w.Ordinary) (d c : Path) (files : Bool)
  (hc : c ∈ w.holds m d files)

include hw hc

/-- What a directory is found to hold are ordinary paths that its mask fits. -/
theorem ordinary_of_holds : Path.IsOrdinary c ∧ Below (Mask.start (insideMask d)) c ∧
    Mask.Covers (Text.sameLetter (!m.caseSensitive)) (insideMask d) c ∧
    (Mask.isDeep (insideMask d) = false → Keyed.parent c = Mask.start (insideMask d)) := by
  have hmatch := hw.isMatch_of_holds m d files c hc
  have hfits : (Mask.compile (insideMask d) (!m.caseSensitive)).fits c = true := hmatch.fits
  rw [Mask.fits_compile] at hfits
  exact ⟨hw.isOrdinary c (Keyed.Ordinary.has_of_kind _ c hmatch.kind), hmatch.below, hfits,
    hmatch.direct⟩

end

/-- The bare root of shares holds no star. -/
theorem ne_share_of_star (q : Path) (hq : '*' ∈ q) : q ≠ ['/', '/'] := fun h =>
  absurd (by rw [← h]; exact hq) (by decide : '*' ∉ ['/', '/'])

theorem insideMask_eq (d : Path) (hn : Path.normalize d = d) (hshare : d ≠ ['/', '/']) :
    insideMask d = child (Path.place d) ['*'] := by
  have hjoin := Path.join_star d (by rw [hn]; exact hshare)
  rw [hn] at hjoin
  exact hjoin

theorem place_of_star (d : Path) (hn : Path.normalize d = d) (hs : '*' ∈ d) : Path.place d = d := by
  have hne : d ≠ Path.here := fun h =>
    absurd (by rw [← h]; exact hs) (by decide : '*' ∉ Path.here)
  rw [Path.place, hn, if_neg hne]

theorem within_of_place (q d : Path) (hn : Path.normalize d = d) (hs : '*' ∈ q)
    (h : Within q (Path.place d)) : Within q d := by
  -- What is within a starry path has its star, and the current directory has none.
  have hsd : '*' ∈ Path.place d := Path.subset_of_within q _ h hs
  have hplace : Path.place d = d := by
    rw [Path.place] at hsd ⊢
    by_cases hd : Path.normalize d = Path.here
    · rw [if_pos hd] at hsd
      exact absurd hsd List.not_mem_nil
    · rw [if_neg hd, hn]
  rw [← hplace]
  exact h

theorem place_ne_here (p : Path) : Path.place p ≠ Path.here := by
  rw [Path.place]
  by_cases h : Path.normalize p = Path.here
  · rw [if_pos h]
    decide
  · rw [if_neg h]
    exact h

/-- The bare root of shares holds nothing in an ordinary world. -/
theorem holds_share (m : Matcher) (w : Keyed) (hw : w.Ordinary) (files : Bool) (c : Path) :
    c ∉ w.holds m ['/', '/'] files := by
  intro hc
  rcases ordinary_of_holds m w hw ['/', '/'] c files hc with ⟨hord, _, hcov, _⟩
  have hmask : insideMask ['/', '/'] = '/' :: '/' :: ['*'] := by decide
  rw [hmask, Mask.covers_other _ '/' _ c (by decide)] at hcov
  -- Only a slash is taken by a slash, so what is found would start with two.
  rcases hcov with ⟨x, rest, hcx, hx, hcov⟩
  rw [Mask.covers_other _ '/' _ rest (by decide)] at hcov
  rcases hcov with ⟨y, rest', hry, hy, _⟩
  refine hord.no_share ?_
  rw [hcx, hry, (Text.sameLetter_slash _ '/' x hx).mp rfl,
    (Text.sameLetter_slash _ '/' y hy).mp rfl]
  exact List.prefix_append ['/', '/'] rest'

/-- A starry directory that is not deep is found to hold nothing: what lies directly where its mask
    starts has too few slashes. -/
theorem holds_shallow (m : Matcher) (w : Keyed) (hw : w.Ordinary) (d : Path)
    (hn : Path.normalize d = d) (hs : '*' ∈ d) (hdeep : Mask.isDeep d = false) (files : Bool)
    (c : Path) : c ∉ w.holds m d files := by
  intro hc
  rcases ordinary_of_holds m w hw d c files hc with ⟨hord, hbelow, hcov, hdirect⟩
  rw [insideMask_eq d hn (ne_share_of_star d hs), place_of_star d hn hs] at hbelow hcov hdirect
  have hpar := hdirect (by rw [Mask.isDeep_child_star, hdeep])
  have hne := Path.ne_root_of_below _ c hbelow
  cases hord.proper with
  | here => exact hne.1 rfl
  | root => exact hne.2 rfl
  | @child e n he hl =>
      rw [Path.parent_child e n hl.no_slash (Path.proper_ne_here e he)] at hpar
      have hcount := (Mask.count_of_covers _ (Text.sameLetter_slash _) _ _ hcov).1
      have hfew := Mask.count_start_lt d n hs hl.no_slash
      rw [← hpar] at hfew
      omega

/-- A front part of an ordinary path, to its end or to a slash in it, that has all the slashes of
    the mask of a starry path: the path is within it, and it lies below the start of the mask. -/
theorem stem_within (p t c : Path) (hs : '*' ∈ p) (hord : Path.IsOrdinary c)
    (hbelow : Below (Mask.start (child p ['*'])) c) (htc : t = c ∨ t ++ ['/'] <+: c)
    (hslashes : (child p ['*']).count '/' ≤ t.count '/') :
    Within t c ∧ Below (Mask.start (child p ['*'])) t := by
  have hfew := Mask.count_start_lt p [] hs List.not_mem_nil
  have hwithin : Within t c := by
    rcases htc with htc | htc
    · exact Or.inl htc.symm
    · have ht0 : t ≠ [] := fun h => by
        rw [h, List.count_nil] at hslashes
        omega
      have htr : t ≠ ['/'] := fun h => hord.no_share (by rw [h] at htc; exact htc)
      refine Or.inr ⟨by rw [Path.into_of_ne t ht0 htr]; exact htc, fun h => ?_,
        fun h => absurd h ht0⟩
      have hlen := htc.length_le
      rw [h, List.length_append, List.length_singleton] at hlen
      omega
  refine ⟨hwithin, ?_⟩
  -- It has more slashes than the start of the mask, so it is below that and not above.
  have hlong : ¬ t <+: Mask.start (child p ['*']) := by
    intro hpre
    -- The text behind which the entries of the start begin has fewer slashes than the mask.
    have hle := (hpre.trans (Path.prefix_into _)).sublist.count_le '/'
    rw [child, List.append_nil] at hfew
    omega
  rcases Path.within_linear _ t c (Or.inr hbelow) hwithin with h | h
  · exact h.resolve_left (fun heq => hlong (by rw [heq]))
  · exact absurd ((Path.prefix_into t).trans h.1) hlong

/-- What a directory within a starry one is found to hold is within the first, if that does not
    stray. The mask of the first fits whatever the other one's fits, up to the first slash behind
    the part that belongs to the first. -/
theorem within_of_holds_starry (m : Matcher) (p : Path) (hs : '*' ∈ Path.normalize p)
    (hdeep : Mask.isDeep (Path.normalize p) = true) (hstay : ¬ Strays m p) (w : Keyed)
    (hw : w.Ordinary) (d : Path) (hn : Path.normalize d = d)
    (hwithin : Within (Path.normalize p) d) (files : Bool) (c : Path)
    (hc : c ∈ w.holds m d files) : Within (Path.normalize p) c := by
  rcases ordinary_of_holds m w hw d c files hc with ⟨hord, hbelow, hcov, _⟩
  have hpn := Path.normalize_normalize p
  have hplace : Path.place p = Path.normalize p := by
    rw [← place_of_star _ hpn hs, Path.place, Path.place, hpn]
  have hmask := insideMask_eq _ hpn (ne_share_of_star _ hs)
  rw [place_of_star _ hpn hs] at hmask
  -- Every ordinary path below the start that the mask fits is within, as the path does not stray.
  have hstays : ∀ t, Path.IsOrdinary t → Below (Mask.start (insideMask (Path.normalize p))) t →
      Mask.Covers (Text.sameLetter (!m.caseSensitive)) (insideMask (Path.normalize p)) t →
        Within (Path.normalize p) t := by
    intro t ht hbt hct
    by_contra hout
    exact hstay ⟨hdeep, t, ht, hbt, (Mask.fits_compile _ _ t).mpr hct, by rw [hplace]; exact hout⟩
  rcases hwithin with hd | hd
  · rw [hd] at hbelow hcov
    exact hstays c hord hbelow hcov
  -- A mask within the first goes on behind it, so what it fits can be cut at a slash.
  · have hinto := (Mask.child_of_star _ hs).1
    rcases hd.1 with ⟨rest, hrest⟩
    rw [hinto, List.append_assoc] at hrest
    have hsd : '*' ∈ d := by
      rw [← hrest]
      exact List.mem_append_left _ hs
    rw [insideMask_eq d hn (ne_share_of_star d hsd), place_of_star d hn hsd] at hbelow hcov
    rw [Mask.start_of_within _ d hs (Or.inr hd)] at hbelow
    rw [← hrest] at hcov
    rcases Mask.covers_cut _ (Text.sameLetter_slash _) (Text.sameLetter_refl _) _ rest c hs hcov
      with ⟨t, hct, htc⟩
    have hcount := (Mask.count_of_covers _ (Text.sameLetter_slash _) _ t hct).1
    rcases stem_within _ t c hs hord hbelow htc (by omega) with ⟨htwithin, htbelow⟩
    rw [hmask] at hstays
    exact Path.within_trans _ t c (hstays t (hord.of_within c t htwithin) htbelow hct) htwithin

/-- What a directory within one without stars is found to hold is within that. -/
theorem within_of_holds_plain (m : Matcher) (p : Path) (hs : '*' ∉ Path.normalize p) (w : Keyed)
    (hw : w.Ordinary) (d : Path) (hn : Path.normalize d = d) (hshare : d ≠ ['/', '/'])
    (hwithin : Within (Path.place p) (Path.place d)) (files : Bool) (c : Path)
    (hc : c ∈ w.holds m d files) : Within (Path.place p) c := by
  have hbelow := (ordinary_of_holds m w hw d c files hc).2.1
  have hplace : '*' ∉ Path.place p := by
    rw [Path.place]
    by_cases h : Path.normalize p = Path.here
    · rw [if_pos h]
      exact List.not_mem_nil
    · rw [if_neg h]
      exact hs
  rw [insideMask_eq d hn hshare] at hbelow
  have hstart := Mask.within_start (Path.place p) (Path.place d) (place_ne_here p) hplace hwithin
  exact Path.within_trans _ _ c hstart (Or.inr hbelow)

/-- A removal that does not stray stays within its directory. -/
theorem confines_of_not_strays (m : Matcher) (p : Path) (hstay : ¬ Strays m p) (depth : Nat)
    (w : Keyed) (hw : w.Ordinary) :
    Confines (removeTreeWithin m depth p) w (Within (Path.place p)) := by
  have hpn := Path.normalize_normalize p
  by_cases hnothing : Path.normalize p = ['/', '/'] ∨
      ('*' ∈ Path.normalize p ∧ Mask.isDeep (Path.normalize p) = false)
  · -- Nothing is found, so nothing but the directory itself is tried.
    have hplace : Path.place p = Path.normalize p := by
      refine if_neg (fun hhere => ?_)
      rw [hhere] at hnothing
      revert hnothing
      decide
    refine removeTreeWithin_confines m _ (· = Path.normalize p) (fun d hd => by rw [hd, hpn])
      (fun d hd _ => Or.inl (by rw [hd, hplace])) (fun d hd w' hw' files c hc => ?_) depth p w hw
      rfl
    rw [hd] at hc
    rcases hnothing with hshare | ⟨hs, hdeep⟩
    · rw [hshare] at hc
      exact absurd hc (holds_share m w' hw' files c)
    · exact absurd hc (holds_shallow m w' hw' _ hpn hs hdeep files c)
  -- Otherwise everything that is found, from wherever within the place, is within it.
  · rw [not_or, not_and, Bool.not_eq_false] at hnothing
    have hplace : Path.place (Path.normalize p) = Path.place p := by
      rw [Path.place, Path.place, hpn]
    have hproper : ∀ k, Path.IsOrdinary k → k ≠ ['/', '/'] ∧ Path.place k = k := fun k hk =>
      ⟨fun h => hk.no_share (by rw [h]), Path.place_proper k hk.proper⟩
    refine removeTreeWithin_confines m _
      (fun d => Path.normalize d = d ∧ d ≠ ['/', '/'] ∧ Within (Path.place p) (Path.place d))
      (fun d hd => hd.1) (fun d hd hk => by rw [← (hproper d hk).2]; exact hd.2.2)
      (fun d hd w' hw' files c hc => ?_) depth p w hw
      ⟨hpn, hnothing.1, Or.inl hplace⟩
    have hord := (ordinary_of_holds m w' hw' d c files hc).1
    refine ⟨hord.normal, (hproper c hord).1, ?_⟩
    rw [(hproper c hord).2]
    by_cases hs : '*' ∈ Path.normalize p
    · have hpq : Path.place p = Path.normalize p := by
        rw [← hplace, place_of_star _ hpn hs]
      have hd' : Within (Path.normalize p) d :=
        within_of_place _ d hd.1 hs (by rw [← hpq]; exact hd.2.2)
      rw [hpq]
      exact within_of_holds_starry m p hs (hnothing.2 hs) hstay w' hw' d hd.1 hd' files c hc
    · exact within_of_holds_plain m p hs w' hw' d hd.1 hd.2.1 hd.2.2 files c hc

end Maskwalk
