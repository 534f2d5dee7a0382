import Maskwalk.Proofs.Path.Proper

/-!
# What a path means

A path can be read as a walk. It starts at one of three places, as its first characters say, and
its segments are steps: a name goes down, `..` goes up, and the rest stays. Seen from a base, the
place where the walk ends is all that the text of a path means. The walk knows nothing of normal
forms: it takes every `..` as it comes, at a root and behind a name with a star as well.

A normal form means what its path means, for all paths. The converse is that of a canonical form:
two paths that mean the same from every base have one normal form. Stars have to be left out there,
since a `..` behind a star is kept, although the walk goes up. Without stars a normal form is some
times `..` and names behind them, and two bases tell its parts apart. From the empty base the
names alone are left, and from a base that is long enough the length shows how far it goes up.

## Main definitions

* `kind`: where a path starts, as its text shows.
* `enter`: one segment further.
* `meaning`: the kind of a path and the place it leads to.

## Theorems

* `foldl_enter_fold`: What a fold leaves of some segments leads where they lead.
* `meaning_normalize`: A normal form means what its path means.
* `shape_of_piled`: A stack in order without stars goes up first and then down.
* `eq_of_foldl_enter_eq`: The places it leads to tell how far up, and to which names.
* `normalize_decides_meaning`: Normal forms tell by the text whether two paths mean the same.
-/

namespace Maskwalk

namespace Path

/-- Where a path starts, as its first characters show. -/
def kind (p : Path) : Root :=
  if ['/', '/'] <+: p.map forward then .share
  else if ['/'] <+: p.map forward then .rooted
  else .relative

/-- The place one segment further, a place being the names that lead there. -/
def enter (place : List Text) (segment : Text) : List Text :=
  if segment = [] ∨ segment = dot then place
  else if segment = dotDot then place.dropLast
  else place ++ [segment]

/-- The place a walk starts at: a relative path starts at the base. -/
def origin (root : Root) (base : List Text) : List Text :=
  if root = .relative then base else []

/-- What a path means, seen from a base: its kind, and the place it leads to. -/
def meaning (base : List Text) (p : Path) : Root × List Text :=
  (kind p, (segments (p.map forward)).foldl enter (origin (kind p) base))

theorem enter_skip (place : List Text) (s : Text) (h : s = [] ∨ s = dot) :
    enter place s = place := by
  rw [enter, if_pos h]

theorem enter_dotDot (place : List Text) : enter place dotDot = place.dropLast := by
  rw [enter, if_neg (by decide), if_pos rfl]

theorem enter_name (place : List Text) (s : Text) (h : ¬ (s = [] ∨ s = dot)) (hd : s ≠ dotDot) :
    enter place s = place ++ [s] := by
  rw [enter, if_neg h, if_neg hd]

theorem rootOf_cases (t : Path) :
    t = '/' :: '/' :: (rootOf t).2 ∧ (rootOf t).1 = .share ∨
    t = '/' :: (rootOf t).2 ∧ (rootOf t).1 = .rooted ∧ ¬ ['/', '/'] <+: t ∨
    t = (rootOf t).2 ∧ (rootOf t).1 = .relative ∧ ¬ ['/'] <+: t := by
  unfold rootOf
  split
  · exact Or.inl ⟨rfl, rfl⟩
  · rename_i rest hno
    refine Or.inr (Or.inl ⟨rfl, rfl, ?_⟩)
    rintro ⟨more, hmore⟩
    exact hno more (List.cons.inj hmore).2.symm
  · rename_i hno
    refine Or.inr (Or.inr ⟨rfl, rfl, ?_⟩)
    rintro ⟨more, hmore⟩
    exact hno more hmore.symm

/-- A path starts where its root and segments do. -/
theorem kind_eq_split (p : Path) : kind p = (split p).1 := by
  have hsplit : (split p).1 = (rootOf (p.map forward)).1 := rfl
  rw [hsplit, kind]
  rcases rootOf_cases (p.map forward) with ⟨ht, hr⟩ | ⟨ht, hr, hshare⟩ | ⟨_, hr, hroot⟩
  · rw [if_pos ⟨_, ht.symm⟩, hr]
  · rw [if_neg hshare, if_pos ⟨_, ht.symm⟩, hr]
  · have hshare : ¬ ['/', '/'] <+: p.map forward := fun h =>
      hroot ((List.prefix_append ['/'] ['/']).trans h)
    rw [if_neg hshare, if_neg hroot, hr]

/-- The slashes at the start of a path have only empty segments in front of them. -/
theorem foldl_split {α : Type} (f : α → Text → α) (hempty : ∀ a, f a [] = a) (a : α) (p : Path) :
    (split p).2.foldl f a = (segments (p.map forward)).foldl f a := by
  have hsplit : (split p).2 = segments (rootOf (p.map forward)).2 := rfl
  have hfirst : ∀ rest : Text, segments ('/' :: rest) = [] :: segments rest := fun rest =>
    Text.pieces_sep_cons '/' rest rfl
  rw [hsplit]
  rcases rootOf_cases (p.map forward) with ⟨ht, _⟩ | ⟨ht, _⟩ | ⟨ht, _⟩
  · nth_rewrite 2 [ht]
    rw [hfirst, hfirst, List.foldl_cons, List.foldl_cons, hempty, hempty]
  · nth_rewrite 2 [ht]
    rw [hfirst, List.foldl_cons, hempty]
  · nth_rewrite 2 [ht]
    rfl

/-- The walk of a path is that of its root and its segments. -/
theorem meaning_eq_split (base : List Text) (p : Path) :
    meaning base p = ((split p).1, (split p).2.foldl enter (origin (split p).1 base)) := by
  rw [meaning, kind_eq_split, foldl_split enter fun place => enter_skip place [] (Or.inl rfl)]

/-- A stack that one more segment is pushed on leads one segment further. -/
theorem foldl_enter_push (root : Root) (base stack : List Text) (s : Text)
    (h : Piled root stack) :
    (push root stack s).reverse.foldl enter (origin root base)
      = enter (stack.reverse.foldl enter (origin root base)) s := by
  by_cases hskip : s = [] ∨ s = dot
  · rw [push_skip root stack s hskip, enter_skip _ s hskip]
  by_cases hup : s = dotDot
  · rw [hup]
    cases stack with
    -- At a root there is no name to go up from.
    | nil =>
        rw [push_dotDot_nil]
        by_cases hr : root = .relative
        · rw [if_pos hr]
          rfl
        · rw [if_neg hr, origin, if_neg hr]
          rfl
    | cons top below =>
        rw [push_dotDot_cons]
        by_cases hy : yields top = true
        -- What yields is a name, and going up takes it back.
        · have hname : ¬ (top = [] ∨ top = dot) := by
            rintro (h0 | h0)
            · exact h.1.ne_nil h0
            · exact h.1.ne_dot h0
          have hdd : top ≠ dotDot := by
            intro h0
            rw [h0] at hy
            exact absurd hy (by decide)
          rw [if_pos hy, List.reverse_cons, List.foldl_append, List.foldl_cons, List.foldl_nil,
            enter_name _ top hname hdd, enter_dotDot, List.dropLast_concat]
        · rw [if_neg hy, List.reverse_cons, List.foldl_append, List.foldl_cons, List.foldl_nil]
  · rw [push_name root stack s hskip hup, List.reverse_cons, List.foldl_append, List.foldl_cons,
      List.foldl_nil]

theorem foldl_enter_foldl_push (root : Root) (base segs stack : List Text)
    (hs : ∀ s ∈ segs, '/' ∉ s ∧ '\\' ∉ s) (h : Piled root stack) :
    (segs.foldl (push root) stack).reverse.foldl enter (origin root base)
      = segs.foldl enter (stack.reverse.foldl enter (origin root base)) := by
  induction segs generalizing stack with
  | nil => rfl
  | cons s more ih =>
      have hhead := hs s List.mem_cons_self
      rw [List.foldl_cons, List.foldl_cons,
        ih _ (fun t ht => hs t (List.mem_cons_of_mem _ ht))
          (push_piled root stack s hhead.1 hhead.2 h),
        foldl_enter_push root base stack s h]

/-- What a fold leaves of some segments leads where they lead. -/
theorem foldl_enter_fold (root : Root) (base segs : List Text)
    (hs : ∀ s ∈ segs, '/' ∉ s ∧ '\\' ∉ s) :
    (fold root segs).foldl enter (origin root base) = segs.foldl enter (origin root base) :=
  foldl_enter_foldl_push root base segs [] hs trivial

/-- What a root and segments mean is read back off their text. -/
theorem meaning_render (root : Root) (base segs : List Text) (h : Piled root segs.reverse) :
    meaning base (render root segs) = (root, segs.foldl enter (origin root base)) := by
  have hseg := segments_of_piled root segs h
  by_cases hw : written root segs = []
  -- Nothing is written of a relative path that stays where it is.
  · rcases List.append_eq_nil_iff.mp hw with ⟨hr, hj⟩
    have hrel : root = .relative := by
      cases root with
      | relative => rfl
      | rooted => exact absurd hr (List.cons_ne_nil _ _)
      | share => exact absurd hr (List.cons_ne_nil _ _)
    have hnil := (Text.joined_eq_nil_iff _ _ (fun s hs => (hseg s hs).ne_nil)).mp hj
    rw [hrel, hnil]
    rfl
  · rw [render_of_written root segs hw, meaning_eq_split, split_written root segs hseg]
    by_cases hne : segs = []
    · rw [hne]
      rfl
    · rw [Text.pieces_joined '/' rfl segs hne
        (fun s hs => free_of_no_slash s (hseg s hs).no_slash)]

/-- A normal form means what its path means, wherever it is seen from. -/
theorem meaning_normalize (base : List Text) (p : Path) :
    meaning base (normalize p) = meaning base p := by
  by_cases hp : p = []
  · rw [hp]
    rfl
  · rw [normalize_of_ne_nil p hp, meaning_render _ base _ (fold_split_piled p),
      foldl_enter_fold _ base _ (segments_of_split p), meaning_eq_split]

/-- Going down by names. -/
theorem foldl_enter_names (place names : List Text)
    (h : ∀ n ∈ names, IsSegment n ∧ n ≠ dotDot) :
    names.foldl enter place = place ++ names := by
  induction names generalizing place with
  | nil => exact (List.append_nil place).symm
  | cons n more ih =>
      have hn := h n List.mem_cons_self
      have hname : ¬ (n = [] ∨ n = dot) := by
        rintro (h0 | h0)
        · exact hn.1.ne_nil h0
        · exact hn.1.ne_dot h0
      rw [List.foldl_cons, enter_name place n hname hn.2,
        ih _ (fun m hm => h m (List.mem_cons_of_mem _ hm)), List.append_assoc,
        List.singleton_append]

/-- Going up, as far as there is something above. -/
theorem length_foldl_enter_dotDots (place : List Text) (k : Nat) :
    ((List.replicate k dotDot).foldl enter place).length = place.length - k := by
  induction k generalizing place with
  | zero => rfl
  | succ k ih =>
      rw [List.replicate_succ, List.foldl_cons, enter_dotDot, ih, List.length_dropLast]
      omega

/-- Without stars a `..` lies on others only, and all of them lie on a base. -/
theorem dotDots_of_piled (root : Root) (below : List Text) (h : Piled root (dotDot :: below))
    (hstar : ∀ s ∈ below, '*' ∉ s) :
    root = .relative ∧ below = List.replicate below.length dotDot := by
  induction below with
  | nil =>
      have hpush := h.2.1
      rw [push_dotDot_nil] at hpush
      by_cases hr : root = .relative
      · exact ⟨hr, rfl⟩
      · rw [if_neg hr] at hpush
        exact absurd hpush.symm (List.cons_ne_nil _ _)
  | cons next rest ih =>
      have hpush := h.2.1
      rw [push_dotDot_cons] at hpush
      by_cases hy : yields next = true
      · rw [if_pos hy] at hpush
        exact absurd (congrArg List.length hpush) (by simp only [List.length_cons]; omega)
      -- Only a star and another `..` do not yield to it.
      · have hnext : next = dotDot := by
          by_contra hne
          exact hy ((yields_iff next).mpr ⟨hne, hstar next List.mem_cons_self⟩)
        have hpiled := h.2.2
        rw [hnext] at hpiled ⊢
        have hrest := ih hpiled (fun s hs => hstar s (List.mem_cons_of_mem _ hs))
        refine ⟨hrest.1, ?_⟩
        rw [List.length_cons, List.replicate_succ, ← hrest.2]

/-- A stack in order without stars goes up first and then down, and up only from a base. -/
theorem shape_of_piled (root : Root) (stack : List Text) (h : Piled root stack)
    (hstar : ∀ s ∈ stack, '*' ∉ s) :
    ∃ k names, stack.reverse = List.replicate k dotDot ++ names ∧
      (∀ n ∈ names, IsSegment n ∧ n ≠ dotDot) ∧ (root ≠ .relative → k = 0) := by
  induction stack with
  | nil => exact ⟨0, [], rfl, fun n hn => absurd hn List.not_mem_nil, fun _ => rfl⟩
  | cons top below ih =>
      have hbelow : ∀ s ∈ below, '*' ∉ s := fun s hs => hstar s (List.mem_cons_of_mem _ hs)
      by_cases hup : top = dotDot
      · rw [hup] at h ⊢
        have hall := dotDots_of_piled root below h hbelow
        refine ⟨below.length + 1, [], ?_, fun n hn => absurd hn List.not_mem_nil,
          fun hr => absurd hall.1 hr⟩
        rw [List.append_nil, hall.2, List.length_replicate, ← List.replicate_succ,
          List.reverse_replicate]
      · rcases ih h.2.2 hbelow with ⟨k, names, hshape, hnames, hk⟩
        refine ⟨k, names ++ [top], ?_, fun n hn => ?_, hk⟩
        · rw [List.reverse_cons, hshape, List.append_assoc]
        · rcases List.mem_append.mp hn with hn | hn
          · exact hnames n hn
          · rw [List.mem_singleton.mp hn]
            exact ⟨h.1, hup⟩

/-- What a path without stars keeps of its segments goes up first and then down. -/
theorem shape_of_fold (p : Path) (h : '*' ∉ p) :
    ∃ k names, fold (split p).1 (split p).2 = List.replicate k dotDot ++ names ∧
      (∀ n ∈ names, IsSegment n ∧ n ≠ dotDot) ∧ ((split p).1 ≠ .relative → k = 0) := by
  have hstar : ∀ s ∈ (fold (split p).1 (split p).2).reverse, '*' ∉ s := by
    intro s hs hc
    rcases mem_of_mem_fold_split p s (List.mem_reverse.mp hs) '*' hc with h0 | h0
    · exact h h0
    · exact absurd h0 (by decide)
  have hshape := shape_of_piled _ _ (fold_split_piled p) hstar
  rw [List.reverse_reverse] at hshape
  exact hshape

/-- Ways that go up and then down are told apart by the places they lead to from bases of names. -/
theorem eq_of_foldl_enter_eq (root : Root) (k₁ k₂ : Nat) (names₁ names₂ : List Text)
    (h₁ : ∀ n ∈ names₁, IsSegment n ∧ n ≠ dotDot) (h₂ : ∀ n ∈ names₂, IsSegment n ∧ n ≠ dotDot)
    (hk₁ : root ≠ .relative → k₁ = 0) (hk₂ : root ≠ .relative → k₂ = 0)
    (h : ∀ base : List Text, (∀ n ∈ base, IsName n ∧ '\\' ∉ n) →
      (List.replicate k₁ dotDot ++ names₁).foldl enter (origin root base)
        = (List.replicate k₂ dotDot ++ names₂).foldl enter (origin root base)) :
    k₁ = k₂ ∧ names₁ = names₂ := by
  simp only [List.foldl_append, foldl_enter_names _ _ h₁, foldl_enter_names _ _ h₂] at h
  -- From the empty base there is nothing to go up from, and the names are left.
  have hnames : names₁ = names₂ := by
    have hnil := h [] (fun n hn => absurd hn List.not_mem_nil)
    have hnone : ∀ k, (List.replicate k dotDot).foldl enter (origin root []) = [] := by
      intro k
      have horigin : origin root [] = [] := by rw [origin, ite_self]
      rw [horigin, ← List.length_eq_zero_iff, length_foldl_enter_dotDots]
      exact Nat.zero_sub k
    rwa [hnone, hnone, List.nil_append, List.nil_append] at hnil
  refine ⟨?_, hnames⟩
  by_cases hr : root = .relative
  -- From a base that reaches far enough, the length of the place shows how far it goes up.
  · have hlong := h (List.replicate (k₁ + k₂) ['x']) (fun n hn => by
      rw [List.eq_of_mem_replicate hn]
      exact ⟨by constructor <;> decide, by decide⟩)
    have hlen := congrArg List.length hlong
    rw [hnames, List.length_append, List.length_append, length_foldl_enter_dotDots,
      length_foldl_enter_dotDots, origin, if_pos hr, List.length_replicate] at hlen
    omega
  · rw [hk₁ hr, hk₂ hr]

/-- Paths without stars that mean the same from every base have one normal form. -/
theorem normalize_eq_of_meaning (p q : Path) (hp : p ≠ []) (hq : q ≠ []) (hps : '*' ∉ p)
    (hqs : '*' ∉ q)
    (h : ∀ base : List Text, (∀ n ∈ base, IsName n ∧ '\\' ∉ n) → meaning base p = meaning base q) :
    normalize p = normalize q := by
  have hroot : (split p).1 = (split q).1 := by
    have hnil := h [] (fun n hn => absurd hn List.not_mem_nil)
    rw [meaning_eq_split, meaning_eq_split] at hnil
    exact (Prod.mk.inj hnil).1
  rcases shape_of_fold p hps with ⟨k₁, names₁, hshape₁, h₁, hk₁⟩
  rcases shape_of_fold q hqs with ⟨k₂, names₂, hshape₂, h₂, hk₂⟩
  have hsame := eq_of_foldl_enter_eq (split q).1 k₁ k₂ names₁ names₂ h₁ h₂
    (by rw [← hroot]; exact hk₁) hk₂ (fun base hbase => by
      have hplace := congrArg Prod.snd (h base hbase)
      rw [meaning_eq_split, meaning_eq_split, ← foldl_enter_fold _ base _ (segments_of_split p),
        ← foldl_enter_fold _ base _ (segments_of_split q), hshape₁, hshape₂, hroot] at hplace
      exact hplace)
  rw [normalize_of_ne_nil p hp, normalize_of_ne_nil q hq, hshape₁, hshape₂, hsame.1, hsame.2, hroot]

/-- A normal form means what its path means, from every base. And two paths without stars have one
    normal form exactly if they mean the same from every base of names, so that normal forms decide
    whether paths are equal as walks. -/
theorem normalize_decides_meaning :
    (∀ (p : Path) (base : List Text), meaning base (normalize p) = meaning base p) ∧
    ∀ p q : Path, p ≠ [] → q ≠ [] → '*' ∉ p → '*' ∉ q →
      (normalize p = normalize q ↔
        ∀ base : List Text, (∀ n ∈ base, IsName n ∧ '\\' ∉ n) →
          meaning base p = meaning base q) := by
  refine ⟨fun p base => meaning_normalize base p, fun p q hp hq hps hqs => ⟨?_, ?_⟩⟩
  · intro h base _
    rw [← meaning_normalize base p, h, meaning_normalize base q]
  · exact normalize_eq_of_meaning p q hp hq hps hqs

/-- Two ways to write one path mean the same, and going up once more means something else. -/
theorem normalize_decides_meaning_up :
    (∀ base : List Text, (∀ n ∈ base, IsName n ∧ '\\' ∉ n) →
      meaning base ("..\\a/./b/../c".toList) = meaning base ("./../a//c/".toList)) ∧
    ¬ ∀ base : List Text, (∀ n ∈ base, IsName n ∧ '\\' ∉ n) →
      meaning base ("../a".toList) = meaning base ("../../a".toList) :=
  ⟨(normalize_decides_meaning.2 "..\\a/./b/../c".toList "./../a//c/".toList (by decide)
      (by decide) (by decide) (by decide)).mp (by decide),
    fun h => absurd ((normalize_decides_meaning.2 "../a".toList "../../a".toList (by decide)
      (by decide) (by decide) (by decide)).mpr h) (by decide)⟩

end Path

end Maskwalk
