import Maskwalk.Proofs.Mask.Inside
import Maskwalk.Proofs.Walk.Descent

/-!
# What a mask matches

In an ordinary world where everything may be listed, a match finds just what it should: the keys of
the wanted kind below the directory where the mask starts that the mask fits, with no directory on
the way that the rule for directories leaves out. A shallow match finds them in that directory
itself. Nothing is found twice, and the order is that of the listings: what a directory holds comes
before what is further down, and whatever is below one entry comes before all that is below a
later one.

Both halves come from the tour. A key is in a directory of the tour just if no directory above it is
left out, by induction on the key: the tour is closed under going into entries, and reaches
nothing else. The order is an induction on the tour itself.

## Main definitions

* `Keyed.hits`: whether a key has the wanted kind and name, and the mask fits it.
* `Keyed.IsMatch`: what a selection should find from a directory on.
* `Keyed.Before`: the order in which results should come.

## Theorems

* `Ordinary.keptAt_eq`: The results in a directory are the entries that are hits.
* `Ordinary.way_of_mem_tour`, `Ordinary.mem_tour_of_way`: The directories that a deep tour visits.
* `Ordinary.isMatch_of_found`, `Ordinary.found_of_isMatch`: What a tour finds.
* `Ordinary.ne_of_before`, `Ordinary.found_before`: Results come in order, and only once.
* `Ordinary.matched_exact`: What a selection comes to.
* `matching_exact`: What a match of a mask is.
-/

namespace Maskwalk

open Maskwalk.Path (Below Within child)

namespace Keyed

/-- Whether a key has the wanted kind and name, and the mask fits it. -/
def hits (w : Keyed) (s : Selection) (p : Path) : Bool :=
  (if s.files then w.hasFile p && !leftOut s.fileRule (name p)
    else w.hasDir p && !leftOut s.dirRule (name p)) && s.mask.fits p

/-- What a selection should find from a directory on: a key of the wanted kind below it, directly
    in it unless the selection is deep, with no directory on the way that is left out, whose own
    name is not left out, and that the mask fits. -/
structure IsMatch (w : Keyed) (s : Selection) (start p : Path) : Prop where
  kind : (if s.files then w.hasFile p else w.hasDir p) = true
  below : Below start p
  direct : s.deep = false → parent p = start
  onTheWay : ∀ d, Below start d → Below d p → leftOut s.dirRule (name d) = false
  own : leftOut (if s.files then s.fileRule else s.dirRule) (name p) = false
  fits : s.mask.fits p = true

/-- The order in which results should come: entries of a directory as it lists them, entries of a
    directory before all that is below an entry, and what is below an entry before what is below
    a later one. -/
inductive Before (w : Keyed) : Path → Path → Prop
  | siblings {d : Path} {names : List Text} {n₁ n₂ : Text} (listed : w.names? d = some names)
      (order : [n₁, n₂].Sublist names) : Before w (child d n₁) (child d n₂)
  | above {d : Path} {names : List Text} {n c : Text} {q : Path} (listed : w.names? d = some names)
      (entry : n ∈ names) (dir : c ∈ names) (below : Below (child d c) q) : Before w (child d n) q
  | apart {d : Path} {names : List Text} {c₁ c₂ : Text} {p q : Path}
      (listed : w.names? d = some names) (order : [c₁, c₂].Sublist names)
      (below₁ : Below (child d c₁) p) (below₂ : Below (child d c₂) q) : Before w p q

namespace Ordinary

variable {w : Keyed}

/-- The results in a directory are those of its entries that are hits. -/
theorem keptAt_eq (h : w.Ordinary) (s : Selection) (d : Path) (hd : Path.normalize d = d) :
    w.keptAt s d = (w.kids d).filter (w.hits s) := by
  rw [keptAt, Selection.kept, entriesAt_eq, hd, List.filter_map, List.map_map, kids,
    List.filter_map]
  -- What a walk is told of a name is true of the key that the name leads to.
  have hfilter : (w.shown d).filter (s.keeps d ∘ w.entryOf d)
      = (w.shown d).filter (w.hits s ∘ child d) := by
    refine List.filter_congr (fun n hn => ?_)
    have hl := (h.shown_leads d n hn).2
    rw [Function.comp_apply, Function.comp_apply, Selection.keeps, Selection.wants, hits,
      w.entryOf_name, h.entryOf_eq d n hn, h.join_eq d n hn, Path.name_child d n hl.no_slash]
  rw [hfilter]
  refine List.map_congr_left (fun n hn => ?_)
  rw [Function.comp_apply, w.entryOf_name]
  exact h.join_eq d n (List.mem_filter.mp hn).1

/-- The entries that a directory shows are the keys whose directory it is. -/
theorem mem_kids_iff (h : w.Ordinary) (d c : Path) (hmay : w.mayList d = true) (hc : c ≠ [])
    (hr : c ≠ ['/']) : c ∈ w.kids d ↔ w.has c = true ∧ parent c = d := by
  rw [mem_kids]
  constructor
  · rintro ⟨n, hn, hcn⟩
    rcases w.names_of_shown d n hn with ⟨names, hnames, hmem⟩
    rcases h.entry_of_mem d names n hnames hmem with ⟨hl, hhas⟩
    have hd := (h.shown_leads d n hn).1
    rw [hcn]
    exact ⟨hhas, Path.parent_child d n hl.no_slash (Path.proper_ne_here d hd)⟩
  · rintro ⟨hhas, hpar⟩
    rcases h.entry_of_key c hhas hc hr with ⟨names, hcn, _, _, hnames, hcount⟩
    rw [hpar] at hnames hcn
    have hmem : name c ∈ names := List.count_pos_iff.mp (by omega)
    have hshown : w.shown d = names := by rw [shown, if_pos hmay, hnames, Option.getD_some]
    exact ⟨name c, by rw [hshown]; exact hmem, hcn⟩

/-- Between the start of a tour and a directory that it visits, no name is left out: going back from
    the directory, each one on the way was entered. -/
theorem way_of_mem_tour (h : w.Ordinary) (s : Selection) (depth : Nat) (start : Path)
    (dirs : List Path) (hn : Path.normalize start = start)
    (ht : s.tour w.entriesAt depth start = some dirs) (d : Path) (hd : d ∈ dirs) :
    d = start ∨ (s.deep = true ∧ w.hasDir d = true ∧ Below start d ∧
      ∀ e, Below start e → Within e d → leftOut s.dirRule (name e) = false) := by
  have horigin := (w.tour_origin s depth start dirs ht).2
  have hnormal := (h.descends s).normalize_of_mem_tour depth start dirs hn ht
  -- By induction on the length: a directory was entered from one with a shorter key.
  induction hlen : d.length using Nat.strongRecOn generalizing d with
  | ind len ih =>
    rcases horigin d hd with h0 | ⟨hs, d', hd', hentered⟩
    · exact Or.inl h0
    · right
      rw [h.entered_eq s d' (hnormal d' hd'), List.mem_filter, goesInto, Bool.and_eq_true,
        Bool.not_eq_true'] at hentered
      rcases hentered with ⟨hkid, hgoes⟩
      rcases (w.mem_kids d' d).mp hkid with ⟨n, hn', hdn⟩
      have hl := (h.shown_leads d' n hn').2
      have hshort := Path.below_length d' d (h.below_kid d' d hkid)
      have hup := ih d'.length (by omega) d' hd' rfl
      refine ⟨hs, hgoes.1, ?_, fun e he hed => ?_⟩
      · rw [hdn, Path.below_child start d' n hl.ne_nil hl.no_slash]
        exact hup.imp Eq.symm (·.2.2.1)
      · rw [hdn, Path.within_child e d' n hl.ne_nil hl.no_slash, ← hdn] at hed
        rcases hed with hed | hed
        · rw [← hed]
          exact hgoes.2
        · rcases hup with hup | hup
          · rw [hup] at hed
            exact absurd hed (Path.not_within_of_below start e he)
          · exact hup.2.2.2 e he hed

/-- Where everything may be listed, a deep tour comes to every directory below its start with no
    name on the way that is left out: the one above it is visited, so it is entered from there. -/
theorem mem_tour_of_way (h : w.Ordinary) (hmay : ∀ d, w.mayList d = true) (s : Selection)
    (hs : s.deep = true) (depth : Nat) (start : Path) (dirs : List Path)
    (ht : s.tour w.entriesAt depth start = some dirs) (d : Path) (hdir : w.hasDir d = true)
    (hbelow : Below start d)
    (hway : ∀ e, Below start e → Within e d → leftOut s.dirRule (name e) = false) :
    d ∈ dirs := by
  have hclosed := w.tour_closed s depth start dirs ht hs
  have hproper := h.proper d (w.has_of_hasDir d hdir)
  induction hproper with
  | here => exact absurd rfl (Path.ne_root_of_below start [] hbelow).1
  | root => exact absurd rfl (Path.ne_root_of_below start ['/'] hbelow).2
  | @child d' n hd' hl ih =>
      have hkid : child d' n ∈ w.kids d' := by
        have hne := Path.ne_root_of_below start _ hbelow
        rw [h.mem_kids_iff d' _ (hmay d') hne.1 hne.2]
        exact ⟨w.has_of_hasDir _ hdir,
          Path.parent_child d' n hl.no_slash (Path.proper_ne_here d' hd')⟩
      have hgoes : w.goesInto s (child d' n) = true := by
        rw [goesInto, hdir, hway _ hbelow (Or.inl rfl)]
        rfl
      have hdir' := w.hasDir_of_kid d' _ hkid
      -- The directory above is visited as well, and from there this one is entered.
      refine hclosed.2 d' ?_ _ ?_
      · rcases (Path.below_child start d' n hl.ne_nil hl.no_slash).mp hbelow with hup | hup
        · rw [← hup]
          exact hclosed.1
        · refine ih hdir' hup (fun e he hed => hway e he ?_)
          exact (Path.within_child e d' n hl.ne_nil hl.no_slash).mpr (Or.inr hed)
      · rw [h.entered_eq s d' (h.normal d' (w.has_of_hasDir d' hdir'))]
        exact List.mem_filter.mpr ⟨hkid, hgoes⟩

theorem hits_iff (w : Keyed) (s : Selection) (p : Path) : w.hits s p = true ↔
    (if s.files then w.hasFile p else w.hasDir p) = true ∧
      leftOut (if s.files then s.fileRule else s.dirRule) (name p) = false ∧
        s.mask.fits p = true := by
  unfold hits
  cases s.files <;> simp only [Bool.false_eq_true, if_false, if_true, Bool.and_eq_true,
    Bool.not_eq_true', and_assoc]

theorem has_of_kind (s : Selection) (p : Path)
    (h : (if s.files then w.hasFile p else w.hasDir p) = true) : w.has p = true := by
  cases hf : s.files with
  | true => exact w.has_of_hasFile p (by rw [hf] at h; exact h)
  | false => exact w.has_of_hasDir p (by rw [hf] at h; exact h)

/-- Whatever a tour finds is to be found. -/
theorem isMatch_of_found (h : w.Ordinary) (s : Selection) (depth : Nat) (start : Path)
    (dirs : List Path) (hn : Path.normalize start = start)
    (ht : s.tour w.entriesAt depth start = some dirs) (p : Path)
    (hp : p ∈ dirs.flatMap (w.keptAt s)) : w.IsMatch s start p := by
  rcases List.mem_flatMap.mp hp with ⟨d, hd, hp⟩
  have hdn := (h.descends s).normalize_of_mem_tour depth start dirs hn ht d hd
  rw [h.keptAt_eq s d hdn, List.mem_filter, hits_iff] at hp
  rcases hp with ⟨hkid, hkind, hown, hfits⟩
  rcases (w.mem_kids d p).mp hkid with ⟨n, hn', hpn⟩
  rcases h.shown_leads d n hn' with ⟨hdp, hl⟩
  have hpar : parent p = d := by
    rw [hpn]
    exact Path.parent_child d n hl.no_slash (Path.proper_ne_here d hdp)
  have hway := h.way_of_mem_tour s depth start dirs hn ht d hd
  refine ⟨hkind, ?_, fun hs => ?_, fun e he hep => ?_, hown, hfits⟩
  · rw [hpn, Path.below_child start d n hl.ne_nil hl.no_slash]
    exact hway.imp Eq.symm (·.2.2.1)
  · rcases hway with hway | hway
    · rw [hpar, hway]
    · exact absurd hway.1 (by rw [hs]; exact Bool.false_ne_true)
  · rw [hpn, Path.below_child e d n hl.ne_nil hl.no_slash] at hep
    rcases hway with hway | hway
    · -- Nothing lies between the start and its own entries.
      rw [hway] at hep
      exact absurd (hep.imp_left Eq.symm) (Path.not_within_of_below start e he)
    · exact hway.2.2.2 e he (hep.imp_left Eq.symm)

/-- A tour that may list everything finds what is to be found. -/
theorem found_of_isMatch (h : w.Ordinary) (hmay : ∀ d, w.mayList d = true) (s : Selection)
    (depth : Nat) (start : Path) (dirs : List Path) (hn : Path.normalize start = start)
    (ht : s.tour w.entriesAt depth start = some dirs) (p : Path) (hp : w.IsMatch s start p) :
    p ∈ dirs.flatMap (w.keptAt s) := by
  rcases hp with ⟨hkind, hbelow, hdirect, hway, hown, hfits⟩
  have hhas := has_of_kind s p hkind
  have hne := Path.ne_root_of_below start p hbelow
  have habove := fun e => h.below_iff e p hhas hne.1 hne.2
  rcases h.entry_of_key p hhas hne.1 hne.2 with ⟨names, _, _, _, hnames, _⟩
  have hstart := (w.tour_origin s depth start dirs ht).1
  -- It is found in its directory, so the tour has to come there.
  have hmem : parent p ∈ dirs := by
    cases hs : s.deep with
    | false =>
        rw [hdirect hs]
        exact hstart
    | true =>
        rcases (habove start).mp hbelow with hbelow | hbelow
        · rw [hbelow]
          exact hstart
        · refine h.mem_tour_of_way hmay s hs depth start dirs ht _
            ((w.hasDir_iff _).mpr ⟨names, hnames⟩) hbelow (fun e he hed => hway e he ?_)
          exact (habove e).mpr hed
  refine List.mem_flatMap.mpr ⟨parent p, hmem, ?_⟩
  have hdn := (h.descends s).normalize_of_mem_tour depth start dirs hn ht _ hmem
  rw [h.keptAt_eq s _ hdn, List.mem_filter, hits_iff, h.mem_kids_iff _ p (hmay _) hne.1 hne.2]
  exact ⟨⟨hhas, rfl⟩, hkind, hown, hfits⟩

/-- What comes before a key is another key. -/
theorem ne_of_before (h : w.Ordinary) (p q : Path) (hb : w.Before p q) : p ≠ q := by
  -- No directory lists a name before the same name.
  have htwice : ∀ d names (n : Text), w.names? d = some names → ¬ [n, n].Sublist names :=
    fun d names n hd => List.nodup_iff_sublist.mp (h.nodup d names hd) n
  cases hb with
  | @siblings d names n₁ n₂ listed order =>
      intro heq
      rw [Path.child_inj_name d n₁ n₂ heq] at order
      exact htwice d names n₂ listed order
  | @above d names n c _ listed entry dir below =>
      intro heq
      have hl := h.leads d names n listed entry
      have hc := h.leads d names c listed dir
      -- An entry of a directory is not below another entry.
      rw [← heq, Path.below_child _ d n hl.ne_nil hl.no_slash] at below
      exact Path.not_within_of_below d _ (Path.below_self_child d c hc.ne_nil hc.no_slash)
        (below.imp_left Eq.symm)
  | @apart d names c₁ c₂ _ _ listed order below₁ below₂ =>
      intro heq
      have hl₁ := h.leads d names c₁ listed (order.subset List.mem_cons_self)
      have hl₂ := h.leads d names c₂ listed
        (order.subset (List.mem_cons_of_mem _ List.mem_cons_self))
      rw [heq] at below₁
      -- A key below two entries makes them the same, but they are listed one after the other.
      have hc := Path.within_children_disjoint d c₁ c₂ q hl₁.ne_nil hl₂.ne_nil hl₁.no_slash
        hl₂.no_slash (Or.inr below₁) (Or.inr below₂)
      rw [hc] at order
      exact htwice d names c₂ listed order

/-- Two entries in the order of a directory are named in that order. -/
theorem order_of_kids (w : Keyed) (d c₁ c₂ : Path) (hc : [c₁, c₂].Sublist (w.kids d)) :
    ∃ names n₁ n₂, w.names? d = some names ∧ [n₁, n₂].Sublist names ∧ c₁ = child d n₁ ∧
      c₂ = child d n₂ := by
  rcases List.sublist_map_iff.mp hc with ⟨l, hl, heq⟩
  rcases w.shown_cases d with h0 | ⟨names, hnames, hshown⟩
  · rw [h0, List.sublist_nil] at hl
    rw [hl] at heq
    exact absurd heq (by simp only [List.map_nil, reduceCtorEq, not_false_eq_true])
  · rw [hshown] at hl
    match l, heq with
    | [n₁, n₂], heq =>
        simp only [List.map_cons, List.map_nil, List.cons.injEq, and_true] at heq
        exact ⟨names, n₁, n₂, hnames, hl, heq.1, heq.2⟩

theorem keptAt_sublist (h : w.Ordinary) (s : Selection) (dir : Path)
    (hdir : Path.normalize dir = dir) : (w.keptAt s dir).Sublist (w.kids dir) := by
  rw [h.keptAt_eq s dir hdir]
  exact List.filter_sublist

/-- The results in one directory come in its order. -/
theorem keptAt_before (h : w.Ordinary) (s : Selection) (dir : Path)
    (hdir : Path.normalize dir = dir) : (w.keptAt s dir).Pairwise w.Before := by
  rw [List.pairwise_iff_forall_sublist]
  intro p q hpq
  rcases order_of_kids w dir p q (hpq.trans (h.keptAt_sublist s dir hdir)) with
    ⟨names, n₁, n₂, hnames, horder, hp, hq⟩
  rw [hp, hq]
  exact Before.siblings hnames horder

/-- A tour finds its results in order. -/
theorem found_before (h : w.Ordinary) (s : Selection) (depth : Nat) (start : Path)
    (dirs : List Path) (hn : Path.normalize start = start)
    (ht : s.tour w.entriesAt depth start = some dirs) :
    (dirs.flatMap (w.keptAt s)).Pairwise w.Before := by
  have hown := fun dir hdir => h.keptAt_sublist s dir hdir
  -- The results of a tour are below its start; this tells the rounds of two entries apart.
  refine ((h.descends s).tour_induction (fun dir dirs => Path.normalize dir = dir →
    (∀ p ∈ dirs.flatMap (w.keptAt s), Below dir p) ∧
      (dirs.flatMap (w.keptAt s)).Pairwise w.Before)
    (fun _ dir hdir => ?_) (fun _ dir round hdir ih _ => ?_) depth start dirs hn ht hn).2
  · rw [List.flatMap_singleton]
    exact ⟨fun p hp => h.below_kid dir p ((hown dir hdir).subset hp), h.keptAt_before s dir hdir⟩
  · rw [h.entered_eq s dir hdir] at ih ⊢
    have hround : ∀ c ∈ (w.kids dir).filter (w.goesInto s),
        (∀ p ∈ (round c).flatMap (w.keptAt s), Below c p) ∧
          ((round c).flatMap (w.keptAt s)).Pairwise w.Before := by
      intro c hc
      have hgoes := (List.mem_filter.mp hc).2
      rw [goesInto, Bool.and_eq_true] at hgoes
      exact ih c hc (h.normal c (w.has_of_hasDir c hgoes.1))
    rw [List.flatMap_cons, List.flatMap_assoc]
    constructor
    · intro p hp
      rcases List.mem_append.mp hp with hp | hp
      · exact h.below_kid dir p ((hown dir hdir).subset hp)
      · rcases List.mem_flatMap.mp hp with ⟨c, hc, hpc⟩
        exact Path.below_trans dir c p (h.below_kid dir c (List.mem_filter.mp hc).1)
          ((hround c hc).1 p hpc)
    · rw [List.pairwise_append, List.pairwise_flatMap]
      -- Results of the directory come first, and then those of one entry after the other.
      refine ⟨h.keptAt_before s dir hdir, ⟨fun c hc => (hround c hc).2, ?_⟩, fun p hp q hq => ?_⟩
      · rw [List.pairwise_iff_forall_sublist]
        intro c₁ c₂ hc p hp q hq
        have hc₁ := (hround c₁ (hc.subset List.mem_cons_self)).1 p hp
        have hc₂ := (hround c₂ (hc.subset (List.mem_cons_of_mem _ List.mem_cons_self))).1 q hq
        rcases order_of_kids w dir c₁ c₂ (hc.trans List.filter_sublist) with
          ⟨names, n₁, n₂, hnames, horder, hcn₁, hcn₂⟩
        rw [hcn₁] at hc₁
        rw [hcn₂] at hc₂
        exact Before.apart hnames horder hc₁ hc₂
      · rcases List.mem_flatMap.mp hq with ⟨c, hc, hqc⟩
        have hcq := (hround c hc).1 q hqc
        rcases w.named_of_kid dir p ((hown dir hdir).subset hp) with ⟨names, n, hnames, hmem, hpn⟩
        rcases w.named_of_kid dir c (List.mem_filter.mp hc).1 with ⟨names', n', hnames', hmem', hcn⟩
        rw [hnames, Option.some.injEq] at hnames'
        rw [hcn] at hcq
        rw [hpn]
        exact Before.above hnames hmem (by rw [hnames']; exact hmem') hcq

/-- A selection in a world where everything may be listed comes to what is to be found, each key
    once and in order. -/
theorem matched_exact (h : w.Ordinary) (hmay : ∀ d, w.mayList d = true) (s : Selection)
    (start : Path) (hn : Path.normalize start = start) :
    ∃ found, w.matched s start = .ok found ∧ (∀ p, p ∈ found ↔ w.IsMatch s start p) ∧
      found.Nodup ∧ found.Pairwise w.Before := by
  rcases (h.descends s).matched_cases start hn with ⟨dirs, ht, hm⟩ | ⟨hno, _⟩
  · have hbefore := h.found_before s _ start dirs hn ht
    exact ⟨_, hm, fun p => ⟨h.isMatch_of_found s _ start dirs hn ht p,
      h.found_of_isMatch hmay s _ start dirs hn ht p⟩, hbefore.imp (h.ne_of_before _ _), hbefore⟩
  · exact absurd (hmay start) (by rw [hno]; exact Bool.false_ne_true)

end Ordinary

/-- Where nothing is denied or faulty, everything may be listed. -/
theorem mayList_of_nil (w : Keyed) (hdenied : w.denied = []) (hfaults : w.faults = []) (d : Path) :
    w.mayList d = true := by
  rw [mayList, hdenied, hfaults]
  rfl

end Keyed

section

variable (w : Keyed) (m : Matcher) (mask : Path) (files : Bool) (dirRule fileRule : Option Rule)
  (rd rf : Option Regex)

/-- A match of a mask in an ordinary world where nothing is denied or faulty: it comes to a result,
    which holds just the keys that it should, each once, in the order of the listings. -/
theorem matching_exact (hw : w.Ordinary) (hdenied : w.denied = []) (hfaults : w.faults = [])
    (hd : Rule.inForce m.dirRule dirRule = .ok rd)
    (hf : Rule.inForce m.fileRule fileRule = .ok rf) :
    ∃ found, ((m.matching mask files dirRule fileRule).ran w).result = .ok found ∧
      (∀ p, p ∈ found ↔ w.IsMatch (m.selection (Path.normalize mask) files rd rf)
        (Mask.start (Path.normalize mask)) p) ∧
      found.Nodup ∧ found.Pairwise w.Before := by
  rw [(m.matching_reads mask files dirRule fileRule rd rf w hd hf).result]
  exact hw.matched_exact (w.mayList_of_nil hdenied hfaults) _ _ (Mask.normalize_start mask)

end

theorem matching_exact_grove : Keyed.grove.Ordinary ∧
    ∃ found, (((⟨true, none, none⟩ : Matcher).matching ['a', '/', '*', '*'] true none
        (some .nothing)).ran Keyed.grove).result = .ok found ∧
      (∀ p, p ∈ found ↔ Keyed.grove.IsMatch ((⟨true, none, none⟩ : Matcher).selection
        ['a', '/', '*', '*'] true none (some Regex.never)) ['a'] p) ∧
      found.Nodup ∧ found.Pairwise Keyed.grove.Before :=
  ⟨Keyed.ordinary_grove, matching_exact Keyed.grove ⟨true, none, none⟩ ['a', '/', '*', '*'] true
    none (some .nothing) none (some Regex.never) Keyed.ordinary_grove rfl rfl rfl rfl⟩

end Maskwalk
