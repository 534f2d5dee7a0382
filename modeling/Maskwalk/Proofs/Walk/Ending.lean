import Maskwalk.Proofs.Path.Joining
import Maskwalk.Proofs.Walk.Descent

/-!
# Walks that end

A walk is given up when it goes deeper than the world says a descent can be. In a world of any kind,
whatever its names lead to, this happens only to walks that would never end: a walk that ends at
some depth ends at the depth of the world, with the same tour.

A walk that needs just so many steps of depth has a way of that length on which each directory needs
one step less than the one before. So no two of them can be the same for a walk; that is, they
differ in their normal forms, for these decide what is shown and where a name leads. Every directory
on the way shows a name and so is a key of the world, and there are not more of these than the depth
counts. A single backslash may stand on the way too, and once only. The depth counts the names as
well, of which there is one at least, and that makes up for it.

## Main definitions

* `bearing`: what a walk depends on in a path.
* `Keyed.Ends`: a walk comes to an end within a depth.

## Theorems

* `bearing_join`: What a walk depends on is passed on.
* `tour_mono`: A tour is the same at any depth that suffices.
* `long_way`: A walk that needs a depth has a way of that length.
* `Ends.within_depth`: The depth of a world suffices if any depth does.
-/

namespace Maskwalk

open Attempt

/-- What a walk depends on in a path: its normal form, unless it is a single backslash. -/
def bearing (p : Path) : Path := if p = ['\\'] then p else Path.normalize p

theorem bearing_of_ne (p : Path) (h : p ≠ ['\\']) : bearing p = Path.normalize p := if_neg h

theorem bearing_eq_backslash (p : Path) (h : bearing p = ['\\']) : p = ['\\'] := by
  by_contra hne
  rw [bearing_of_ne p hne] at h
  exact Path.no_backslash_normalize p (by rw [h]; exact List.mem_singleton_self _)

/-- Paths that are the same for a walk either are single backslashes or have one normal form. -/
theorem bearing_cases (p q : Path) (h : bearing p = bearing q) :
    p = q ∨ p ≠ ['\\'] ∧ q ≠ ['\\'] ∧ Path.normalize p = Path.normalize q := by
  by_cases hp : p = ['\\']
  · rw [hp] at h ⊢
    exact Or.inl (bearing_eq_backslash q h.symm).symm
  · by_cases hq : q = ['\\']
    · rw [hq] at h
      exact absurd (bearing_eq_backslash p h) hp
    · rw [bearing_of_ne p hp, bearing_of_ne q hq] at h
      exact Or.inr ⟨hp, hq, h⟩

theorem normalize_of_bearing (p q : Path) (h : bearing p = bearing q) :
    Path.normalize p = Path.normalize q := by
  rcases bearing_cases p q h with h | h
  · rw [h]
  · exact h.2.2

/-- Joining makes a single backslash of nothing but that. -/
theorem join_ne_backslash (p n : Path) (hp : p ≠ ['\\']) (hn : n ≠ ['\\']) :
    Path.join p n ≠ ['\\'] := by
  by_cases h0 : n = []
  · rw [Path.join, if_pos h0]
    exact hp
  by_cases hn' : p = [] ∨ p = Path.here ∨ Path.isAbsolute n
  · rw [Path.join, if_neg h0, if_pos hn']
    exact hn
  · rw [not_or, not_or, Bool.not_eq_true] at hn'
    rcases Path.join_behind p n hn'.1 hn'.2.1 h0 hn'.2.2 with ⟨lead, hjoin, _⟩
    rw [hjoin]
    intro h
    have hslash : '/' ∈ lead ++ '/' :: n := List.mem_append_right _ List.mem_cons_self
    rw [h] at hslash
    exact absurd hslash (by decide)

/-- A name leads from paths that are the same for a walk to paths that are so again. -/
theorem bearing_join (p q n : Path) (h : bearing p = bearing q) :
    bearing (Path.join p n) = bearing (Path.join q n) := by
  rcases bearing_cases p q h with h | ⟨hp, hq, h⟩
  · rw [h]
  by_cases hn : n = ['\\']
  · have habs : ∀ d, Path.join d ['\\'] = ['\\'] := fun d => by
      rw [Path.join, if_neg (by decide), if_pos (Or.inr (Or.inr (by decide)))]
    rw [hn, habs, habs]
  · rw [bearing_of_ne _ (join_ne_backslash p n hp hn),
      bearing_of_ne _ (join_ne_backslash q n hq hn), ← Path.normalize_join_normalize p n hp, h,
      Path.normalize_join_normalize q n hq]

/-- A tour is the same at any depth that suffices. -/
theorem Selection.tour_mono (s : Selection) (entries : Path → List Entry) (depth : Nat) :
    ∀ (more : Nat), depth ≤ more → ∀ dir dirs, s.tour entries depth dir = some dirs →
      s.tour entries more dir = some dirs := by
  induction depth with
  | zero =>
      intro more _ dir dirs h
      exact absurd h (by simp only [tour, reduceCtorEq, not_false_eq_true])
  | succ depth ih =>
      intro more hle dir dirs h
      cases more with
      | zero => exact absurd hle (Nat.not_succ_le_zero depth)
      | succ more =>
          have hstep := ih more (Nat.le_of_succ_le_succ hle)
          unfold tour at h ⊢
          by_cases hd : s.deep = true
          · rw [if_pos hd, Option.map_eq_some_iff] at h ⊢
            rcases h with ⟨below, hbelow, hdirs⟩
            rw [together_eq_some_iff] at hbelow
            refine ⟨below, (together_eq_some_iff _ _ _).mpr ⟨fun c hc => ?_, ?_⟩, hdirs⟩
            · rcases Option.isSome_iff_exists.mp (hbelow.1 c hc) with ⟨ds, hds⟩
              rw [hstep c ds hds]
              rfl
            · rw [hbelow.2]
              refine List.flatMap_congr (fun c hc => ?_)
              rcases Option.isSome_iff_exists.mp (hbelow.1 c hc) with ⟨ds, hds⟩
              rw [hds, hstep c ds hds]
          · rw [if_neg hd] at h ⊢
            exact h

namespace Keyed

/-- A walk from a directory comes to an end within a depth. -/
def Ends (w : Keyed) (s : Selection) (depth : Nat) (dir : Path) : Prop :=
  ∃ dirs, s.tour w.entriesAt depth dir = some dirs

variable {w : Keyed} {s : Selection}

theorem not_ends_zero (dir : Path) : ¬ w.Ends s 0 dir := by
  rintro ⟨dirs, h⟩
  exact absurd h (by simp only [Selection.tour, reduceCtorEq, not_false_eq_true])

theorem Ends.mono {depth more : Nat} (hle : depth ≤ more) {dir : Path} (h : w.Ends s depth dir) :
    w.Ends s more dir := by
  rcases h with ⟨dirs, h⟩
  exact ⟨dirs, s.tour_mono _ depth more hle dir dirs h⟩

/-- A walk ends if all do that it goes on to. -/
theorem ends_succ (depth : Nat) (dir : Path) : w.Ends s (depth + 1) dir ↔
    (s.deep = true → ∀ c ∈ w.entered s dir, w.Ends s depth c) :=
  s.tour_succ_iff w.entriesAt depth dir

/-- Whether a walk ends within a depth is the same for paths that are so for a walk. -/
theorem ends_of_bearing (depth : Nat) : ∀ p q, bearing p = bearing q → w.Ends s depth p →
    w.Ends s depth q := by
  induction depth with
  | zero => exact fun p _ _ h => absurd h (not_ends_zero p)
  | succ depth ih =>
      intro p q hpq h
      rw [ends_succ] at h ⊢
      intro hd c hc
      rcases (w.mem_entered s q c).mp hc with ⟨n, hn, henters, hcn⟩
      have hnormal := normalize_of_bearing p q hpq
      rw [hcn]
      refine ih (Path.join p n) _ (bearing_join p q n hpq) (h hd _ ?_)
      exact (w.mem_entered s p _).mpr ⟨n, by rw [hnormal]; exact hn, by rw [hnormal]; exact henters,
        rfl⟩

/-- A walk that needs a depth has a way of that length, which goes on at each of its directories and
    does not come to the same one twice. -/
theorem long_way (depth : Nat) : ∀ dir, w.Ends s (depth + 1) dir → ¬ w.Ends s depth dir →
    ∃ way : List Path, way.length = depth ∧ (way.map bearing).Nodup ∧
      ∀ d ∈ way, w.Ends s (depth + 1) d ∧ ∃ c, c ∈ w.entered s d := by
  induction depth with
  | zero => exact fun _ _ _ => ⟨[], rfl, List.nodup_nil, fun d hd => absurd hd List.not_mem_nil⟩
  | succ depth ih =>
      intro dir hends hno
      rw [ends_succ] at hends hno
      push Not at hno
      rcases hno with ⟨hd, c, hc, hlong⟩
      rcases ih c (hends hd c hc) hlong with ⟨way, hlen, hnodup, hway⟩
      refine ⟨dir :: way, by rw [List.length_cons, hlen], ?_, fun d hmem => ?_⟩
      · rw [List.map_cons, List.nodup_cons]
        refine ⟨fun hmem => hlong ?_, hnodup⟩
        -- Were the directory on the way, it would not need the depth that it does.
        rcases List.mem_map.mp hmem with ⟨d, hd', heq⟩
        have hends' := ends_of_bearing (depth + 1) d dir heq (hway d hd').1
        exact (ends_succ depth dir).mp hends' hd c hc
      · rcases List.mem_cons.mp hmem with hmem | hmem
        · rw [hmem]
          exact ⟨(ends_succ _ dir).mpr hends, c, hc⟩
        · exact ⟨(hway d hmem).1.mono (Nat.le_succ _), (hway d hmem).2⟩

/-- The depth of a world counts every directory, and every name besides. -/
theorem length_dirs_lt_depth (d : Path) (names : List Text) (hd : w.names? d = some names)
    (hne : names ≠ []) : w.dirs.length < w.depth := by
  have hcount : w.dirs.length = (w.dirs.map fun _ => 1).sum := by
    rw [List.map_const', List.sum_replicate_nat, Nat.mul_one]
  rw [w.depth_eq_sum, hcount]
  refine List.sum_lt_sum _ _ (fun entry _ => by omega)
    ⟨(d, names), mem_of_valueOf? d names w.dirs hd, ?_⟩
  have hpos := List.length_pos_of_ne_nil hne
  simp only
  omega

/-- The depth of a world suffices for a walk if any depth does. -/
theorem Ends.within_depth {depth : Nat} {dir : Path} (h : w.Ends s depth dir) :
    w.Ends s (w.depth + 1) dir := by
  by_contra hno
  -- Somewhere above the depth of the world is the least depth that the walk needs.
  have hleast : ∃ least, w.depth + 1 ≤ least ∧ w.Ends s (least + 1) dir ∧
      ¬ w.Ends s least dir := by
    induction depth with
    | zero => exact absurd h (not_ends_zero dir)
    | succ depth ih =>
        by_cases hd : w.Ends s depth dir
        · exact ih hd
        · refine ⟨depth, ?_, h, hd⟩
          by_contra hlt
          exact hno (h.mono (by omega))
  rcases hleast with ⟨least, hle, hends, hlong⟩
  rcases long_way least dir hends hlong with ⟨way, hlen, hnodup, hway⟩
  have hshown : ∀ d ∈ way, ∃ names, w.names? (Path.normalize d) = some names ∧ names ≠ [] := by
    intro d hd
    rcases (hway d hd).2 with ⟨c, hc⟩
    rcases (w.mem_entered s d c).mp hc with ⟨n, hn, _⟩
    rcases w.names_of_shown _ n hn with ⟨names, hnames, hmem⟩
    exact ⟨names, hnames, List.ne_nil_of_mem hmem⟩
  have hsub : way.map bearing ⊆ ['\\'] :: w.dirs.map (·.1) := by
    intro p hp
    rcases List.mem_map.mp hp with ⟨d, hd, hdp⟩
    by_cases hb : d = ['\\']
    · rw [← hdp, bearing, if_pos hb, hb]
      exact List.mem_cons_self
    · rcases hshown d hd with ⟨names, hnames, _⟩
      rw [← hdp, bearing_of_ne d hb]
      exact List.mem_cons_of_mem _ (List.mem_map_of_mem (mem_of_valueOf? _ names w.dirs hnames))
  have hfew := List.Nodup.length_le_of_subset hnodup hsub
  rw [List.length_map, List.length_cons, List.length_map, hlen] at hfew
  cases way with
  | nil =>
      rw [List.length_nil] at hlen
      omega
  | cons d more =>
      rcases hshown d List.mem_cons_self with ⟨names, hnames, hne⟩
      have := length_dirs_lt_depth _ names hnames hne
      omega

/-- A walk that is not given up at some depth ends within it, if its start can be listed. -/
theorem ends_of_walk (depth : Nat) (dir : Path) (entries : List Entry)
    (hopen : w.opened true dir = .ok entries)
    (h : ((walk s depth true dir).ran w).result ≠ .error .endless) : w.Ends s depth dir := by
  cases depth with
  | zero => exact absurd rfl h
  | succ depth =>
      rw [(walk_start_reads s w depth dir).result, hopen] at h
      cases ht : s.tour w.entriesAt (depth + 1) dir with
      | none =>
          rw [ht] at h
          exact absurd rfl h
      | some dirs => exact ⟨dirs, ht⟩

end Keyed

end Maskwalk
