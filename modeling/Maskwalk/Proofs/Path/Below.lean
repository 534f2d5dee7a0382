import Maskwalk.World.Keyed
import Mathlib.Data.List.Infix

/-!
# Paths below a directory

The order of paths in a tree, read off their texts. An entry `n` of a directory `d` has the key
`child d n`, and a path is below `d` if it goes on behind what all entries of `d` start with
(`into d`). The current directory is the empty key: below it are the relative paths, and below the
root the rooted ones.

Everything about this order comes from one equation, `below_child`: what is above an entry is its
directory and what is above that. From it the order is transitive, a path below has a longer text,
and two entries of one directory have nothing in common.

## Main definitions

* `IsName`: a name that an entry of a directory can have.
* `into`: what the keys of the entries of a directory start with.
* `child`: the key of an entry.
* `Below`, `Within`: strictly below a directory, and that or the directory itself.

## Theorems

* `below_child`: What is above an entry.
* `below_trans`, `below_length`, `below_irrefl`: Being below is a strict order.
* `not_within_of_below`: What is below does not hold what is above.
* `within_linear`: What a path is within lies in one line.
* `within_children_disjoint`: Two entries have nothing in common.
* `parent_child`, `name_child`: The directory and the name of an entry are read off its key.
-/

namespace Maskwalk

namespace Path

/-- A name that an entry of a directory can have. -/
structure IsName (n : Text) : Prop where
  ne_nil : n ≠ []
  no_slash : '/' ∉ n
  ne_dot : n ≠ dot
  ne_dotDot : n ≠ dotDot

/-- What the keys of the entries of a directory start with. -/
def into (dir : Path) : Text :=
  if dir = [] then [] else if dir = ['/'] then ['/'] else dir ++ ['/']

/-- The key of an entry of a directory. -/
def child (dir : Path) (n : Text) : Path := into dir ++ n

/-- Strictly below a directory: below the current directory are the relative paths, below the root
    the rooted ones. -/
def Below (dir p : Path) : Prop := into dir <+: p ∧ p ≠ dir ∧ (dir = [] → p.head? ≠ some '/')

instance (dir p : Path) : Decidable (Below dir p) :=
  inferInstanceAs (Decidable (_ ∧ _ ∧ _))

/-- A directory itself, or below it. -/
def Within (dir p : Path) : Prop := p = dir ∨ Below dir p

instance (dir p : Path) : Decidable (Within dir p) := inferInstanceAs (Decidable (_ ∨ _))

theorem into_nil : into [] = [] := rfl

theorem into_root : into ['/'] = ['/'] := rfl

theorem into_of_ne (dir : Path) (h : dir ≠ []) (hr : dir ≠ ['/']) : into dir = dir ++ ['/'] := by
  rw [into, if_neg h, if_neg hr]

/-- Only the current directory has entries whose keys start with nothing. -/
theorem into_eq_nil_iff (dir : Path) : into dir = [] ↔ dir = [] := by
  unfold into
  constructor
  · intro h
    by_cases hd : dir = []
    · exact hd
    · rw [if_neg hd] at h
      by_cases hr : dir = ['/']
      · rw [if_pos hr] at h
        exact absurd h (List.cons_ne_nil _ _)
      · rw [if_neg hr] at h
        exact absurd (List.append_eq_nil_iff.mp h).1 hd
  · intro h
    rw [if_pos h]

theorem into_getLast (dir : Path) (h : dir ≠ []) : ∃ lead, into dir = lead ++ ['/'] := by
  by_cases hr : dir = ['/']
  · exact ⟨[], by rw [hr]; rfl⟩
  · exact ⟨dir, into_of_ne dir h hr⟩

theorem slash_mem_into (d : Path) (h : d ≠ []) : '/' ∈ into d := by
  rcases into_getLast d h with ⟨lead, hlead⟩
  rw [hlead]
  exact List.mem_append_right _ (List.mem_singleton_self '/')

/-- The key of an entry is made of its directory, its name, and slashes. -/
theorem mem_child (d n : Text) (c : Char) :
    c ∈ child d n ↔ c ∈ d ∨ (c = '/' ∧ d ≠ []) ∨ c ∈ n := by
  rw [child, List.mem_append, into]
  by_cases h : d = []
  · simp only [h, if_true, List.not_mem_nil, ne_eq, not_true_eq_false, and_false, false_or]
  · by_cases hr : d = ['/']
    · simp only [hr, if_true, if_false, List.mem_singleton, ne_eq, List.cons_ne_nil,
        not_false_eq_true, and_true, ← or_assoc, or_self]
    · simp only [h, hr, if_false, List.mem_append, List.mem_singleton, ne_eq, not_false_eq_true,
        and_true, or_assoc]

/-- Entries have longer keys than their directory. -/
theorem length_lt_child (d n : Text) (hn : n ≠ []) : d.length < (child d n).length := by
  have hpos := List.length_pos_iff.mpr hn
  rw [child, List.length_append]
  by_cases hd : d = []
  · rw [hd]
    simp only [List.length_nil]
    omega
  · by_cases hr : d = ['/']
    · rw [hr, into_root]
      omega
    · rw [into_of_ne d hd hr, List.length_append]
      omega

theorem child_ne_nil (d n : Text) (hn : n ≠ []) : child d n ≠ [] := by
  have h := length_lt_child d n hn
  intro hc
  rw [hc, List.length_nil] at h
  omega

theorem child_ne_root (d n : Text) (hn : n ≠ []) (hs : '/' ∉ n) : child d n ≠ ['/'] := by
  intro hc
  -- The last character of the key is one of the name.
  have hmem : n.getLast hn ∈ n := List.getLast_mem hn
  have hlast : (child d n).getLast? = some (n.getLast hn) := by
    rw [child, List.getLast?_append, List.getLast?_eq_some_getLast hn]
    rfl
  rw [hc] at hlast
  have hslash : '/' = n.getLast hn := by
    simpa only [List.getLast?_singleton, Option.some.injEq] using hlast
  rw [← hslash] at hmem
  exact hs hmem

theorem into_child (d n : Text) (hn : n ≠ []) (hs : '/' ∉ n) :
    into (child d n) = child d n ++ ['/'] :=
  into_of_ne _ (child_ne_nil d n hn) (child_ne_root d n hn hs)

/-- Names without slashes and the directories they are in are determined by their keys. -/
theorem child_inj_name (d n₁ n₂ : Text) (h : child d n₁ = child d n₂) : n₁ = n₂ :=
  List.append_cancel_left h

/-- What starts with text up to a slash and ends in a name has that text in front of the name. -/
theorem prefix_of_prefix_append (lead d n : Text) (hs : '/' ∉ n)
    (h : lead ++ ['/'] <+: d ++ n) : lead ++ ['/'] <+: d := by
  rcases Nat.lt_or_ge d.length (lead ++ ['/']).length with hlt | hge
  · exfalso
    rcases h with ⟨rest, hrest⟩
    rw [List.length_append, List.length_singleton] at hlt
    -- Otherwise the slash would stand in the name.
    have hget : (d ++ n)[lead.length]? = some '/' := by
      rw [← hrest, List.append_assoc, List.getElem?_append_right (Nat.le_refl _), Nat.sub_self]
      rfl
    rw [List.getElem?_append_right (by omega)] at hget
    exact hs (List.mem_of_getElem? hget)
  · exact List.prefix_of_prefix_length_le h (List.prefix_append d n) hge

theorem into_inj (a d : Path) (h : into a = into d) : a = d := by
  by_cases ha : a = []
  · rw [ha, into_nil, eq_comm, into_eq_nil_iff] at h
    rw [ha, h]
  · have hd : d ≠ [] := fun hd => ha ((into_eq_nil_iff a).mp (by rw [h, hd, into_nil]))
    by_cases har : a = ['/']
    -- Every other directory is longer than the root, so its entries start with more.
    · by_cases hdr : d = ['/']
      · rw [har, hdr]
      · have hlen := congrArg List.length h
        rw [har, into_root, into_of_ne d hd hdr, List.length_append] at hlen
        have := List.length_pos_iff.mpr hd
        simp only [List.length_singleton] at hlen
        omega
    · by_cases hdr : d = ['/']
      · have hlen := congrArg List.length h
        rw [hdr, into_root, into_of_ne a ha har, List.length_append] at hlen
        have := List.length_pos_iff.mpr ha
        simp only [List.length_singleton] at hlen
        omega
      · rw [into_of_ne a ha har, into_of_ne d hd hdr] at h
        exact List.append_cancel_right h

/-- The text in front of the entries of one directory starts that of another just if it is the
    same directory, or starts that directory's own key. -/
theorem into_prefix_into (a d : Path) : into a <+: into d ↔ a = d ∨ into a <+: d := by
  by_cases hd : d = []
  · rw [hd, into_nil, List.prefix_nil, into_eq_nil_iff, or_self]
  · by_cases hr : d = ['/']
    · rw [hr, into_root]
      constructor
      · exact Or.inr
      · rintro (h | h)
        · rw [h, into_root]
        · exact h
    · rw [into_of_ne d hd hr, List.prefix_concat_iff, ← into_of_ne d hd hr]
      constructor
      · rintro (h | h)
        · exact Or.inl (into_inj a d h)
        · exact Or.inr h
      · rintro (h | h)
        · exact Or.inl (by rw [h])
        · exact Or.inr h

theorem into_prefix_child (a d n : Text) (ha : a ≠ []) (hs : '/' ∉ n) :
    into a <+: child d n ↔ a = d ∨ into a <+: d := by
  rw [← into_prefix_into]
  constructor
  · intro h
    rcases into_getLast a ha with ⟨lead, hlead⟩
    rw [hlead] at h ⊢
    exact prefix_of_prefix_append lead (into d) n hs h
  · intro h
    exact h.trans (List.prefix_append _ _)

/-- The head of a key is that of its directory, unless that is the current one. -/
theorem head?_child (d n : Text) (hd : d ≠ []) : (child d n).head? = d.head? := by
  rw [child]
  by_cases hr : d = ['/']
  · rw [hr]
    rfl
  · rw [into_of_ne d hd hr, List.append_assoc, List.head?_append_of_ne_nil _ hd]

theorem below_nil (p : Path) : Below [] p ↔ p ≠ [] ∧ p.head? ≠ some '/' := by
  simp only [Below, into_nil, List.nil_prefix, true_and, forall_const]

theorem below_of_ne (a p : Path) (ha : a ≠ []) : Below a p ↔ into a <+: p ∧ p ≠ a := by
  simp only [Below, ha, false_implies, and_true]

theorem below_length (a p : Path) (h : Below a p) : a.length < p.length := by
  by_cases ha : a = []
  · rw [ha, below_nil] at h
    rw [ha]
    exact List.length_pos_iff.mpr h.1
  · rw [below_of_ne a p ha] at h
    rcases h with ⟨hpre, hne⟩
    have hle := hpre.length_le
    by_cases hr : a = ['/']
    · rw [hr, into_root] at hpre hle
      -- Text as long as the root that starts with it is the root.
      rcases Nat.lt_or_ge a.length p.length with hlt | hge
      · exact hlt
      · refine absurd (hpre.eq_of_length ?_).symm (by rw [← hr]; exact hne)
        rw [hr] at hge
        omega
    · rw [into_of_ne a ha hr, List.length_append, List.length_singleton] at hle
      omega

/-- What is below a directory does not hold it. -/
theorem not_within_of_below (a b : Path) (h : Below a b) : ¬ Within b a := by
  have hlen := below_length a b h
  rintro (hba | hba)
  · rw [hba] at hlen
    exact Nat.lt_irrefl _ hlen
  · exact Nat.lt_asymm hlen (below_length b a hba)

theorem below_irrefl (a : Path) : ¬ Below a a := fun h => Nat.lt_irrefl _ (below_length a a h)

/-- What is above an entry is its directory, and what is above that. -/
theorem below_child (a d n : Text) (hn : n ≠ []) (hs : '/' ∉ n) :
    Below a (child d n) ↔ a = d ∨ Below a d := by
  by_cases ha : a = []
  · rw [ha, below_nil, below_nil]
    by_cases hd : d = []
    · rw [hd]
      refine iff_of_true ⟨child_ne_nil _ n hn, fun hh => ?_⟩ (Or.inl rfl)
      exact hs (List.mem_of_mem_head? hh)
    · rw [head?_child d n hd]
      simp only [child_ne_nil d n hn, hd, Ne.symm hd, ne_eq, not_false_eq_true, true_and, false_or]
  · rw [below_of_ne a _ ha, below_of_ne a d ha, into_prefix_child a d n ha hs]
    constructor
    · rintro ⟨h | h, hne⟩
      · exact Or.inl h
      · by_cases had : d = a
        · exact Or.inl had.symm
        · exact Or.inr ⟨h, had⟩
    · intro h
      -- The directory cannot be the entry itself, which is longer than all that is above it.
      have hle : a.length ≤ d.length := by
        rcases h with h | h
        · exact Nat.le_of_eq (congrArg List.length h)
        · exact Nat.le_of_lt (below_length a d ((below_of_ne a d ha).mpr h))
      have hlt := length_lt_child d n hn
      refine ⟨h.imp_right (·.1), fun hc => ?_⟩
      rw [hc] at hlt
      omega

theorem below_self_child (d n : Text) (hn : n ≠ []) (hs : '/' ∉ n) : Below d (child d n) :=
  (below_child d d n hn hs).mpr (Or.inl rfl)

theorem within_child (a d n : Text) (hn : n ≠ []) (hs : '/' ∉ n) :
    Within a (child d n) ↔ child d n = a ∨ Within a d := by
  rw [Within, Within, below_child a d n hn hs, eq_comm (a := a) (b := d)]

theorem prefix_into (d : Path) : d <+: into d := by
  by_cases hd : d = []
  · rw [hd]
    exact List.nil_prefix
  · by_cases hr : d = ['/']
    · rw [hr, into_root]
    · rw [into_of_ne d hd hr]
      exact List.prefix_append _ _

/-- What is within a directory has all the characters of its path. -/
theorem subset_of_within (a p : Path) (h : Within a p) : a ⊆ p := by
  rcases h with h | h
  · rw [h]
    exact List.Subset.refl a
  · exact ((prefix_into a).trans h.1).subset

/-- Below what is below a directory is below that directory. -/
theorem below_trans (a b c : Path) (hab : Below a b) (hbc : Below b c) : Below a c := by
  have hb : b ≠ [] := by
    intro hb
    have := below_length a b hab
    rw [hb, List.length_nil] at this
    omega
  rw [below_of_ne b c hb] at hbc
  have hpre : b <+: c := (prefix_into b).trans hbc.1
  have hlt : a.length < c.length := Nat.lt_of_lt_of_le (below_length a b hab) hpre.length_le
  refine ⟨hab.1.trans hpre, fun hc => Nat.lt_irrefl _ (hc ▸ hlt), fun ha => ?_⟩
  -- Relative paths are below the current directory, and the head is that of the path between.
  rcases hpre with ⟨rest, hrest⟩
  rw [← hrest, List.head?_append_of_ne_nil _ hb]
  exact hab.2.2 ha

/-- What is below another path is no root. -/
theorem ne_root_of_below (a p : Path) (h : Below a p) : p ≠ [] ∧ p ≠ ['/'] := by
  have hlen := below_length a p h
  refine ⟨fun hp => ?_, fun hp => ?_⟩
  · rw [hp, List.length_nil] at hlen
    omega
  · rw [hp, List.length_singleton] at hlen
    have ha : a = [] := List.length_eq_zero_iff.mp (by omega)
    rw [ha, below_nil, hp] at h
    exact h.2 rfl

theorem within_here (q : Path) : Within q [] ↔ q = [] :=
  ⟨fun h => (h.resolve_right (fun hb => (ne_root_of_below q [] hb).1 rfl)).symm,
    fun h => Or.inl h.symm⟩

theorem within_root (q : Path) : Within q ['/'] ↔ q = ['/'] :=
  ⟨fun h => (h.resolve_right (fun hb => (ne_root_of_below q ['/'] hb).2 rfl)).symm,
    fun h => Or.inl h.symm⟩

theorem within_trans (a b c : Path) (hab : Within a b) (hbc : Within b c) : Within a c := by
  rcases hbc with rfl | hbc
  · exact hab
  · rcases hab with rfl | hab
    · exact Or.inr hbc
    · exact Or.inr (below_trans a b c hab hbc)

/-- If there are paths of a kind, there is one with no other of them above it. -/
theorem exists_highest (kind : Path → Prop) (t : Path) (h : kind t) :
    ∃ top, kind top ∧ ∀ c, Below c top → ¬ kind c := by
  -- What is above a path is shorter, so going up ends.
  induction hlen : t.length using Nat.strongRecOn generalizing t with
  | ind len ih =>
    by_cases hup : ∃ c, Below c t ∧ kind c
    · rcases hup with ⟨c, hct, hc⟩
      have hshort := below_length c t hct
      exact ih c.length (by omega) c hc rfl
    · exact ⟨t, h, fun c hct hc => hup ⟨c, hct, hc⟩⟩

theorem below_of_within (a b c : Path) (hab : Within a b) (hbc : Below b c) : Below a c := by
  rcases hab with hab | hab
  · rw [← hab]
    exact hbc
  · exact below_trans a b c hab hbc

/-- Of two directories above a path, the one whose text goes on behind the other is below it. -/
theorem below_of_into_starts (a b q : Path) (ha : Below a q) (hb : Below b q) (h : into a <+: b)
    (hne : b ≠ a) : Below a b := by
  refine ⟨h, hne, fun ha0 => ?_⟩
  have hb0 : b ≠ [] := fun hb0 => hne (by rw [hb0, ha0])
  rcases (prefix_into b).trans hb.1 with ⟨rest, hrest⟩
  have hhead : q.head? = b.head? := by
    rw [← hrest, List.head?_append_of_ne_nil _ hb0]
  rw [← hhead]
  exact ha.2.2 ha0

/-- Of two directories that a path is within, one is within the other. -/
theorem within_linear (a b q : Path) (ha : Within a q) (hb : Within b q) :
    Within a b ∨ Below b a := by
  rcases ha with ha | ha
  · rw [ha] at hb
    rcases hb with hb | hb
    · exact Or.inl (Or.inl hb.symm)
    · exact Or.inr hb
  · rcases hb with hb | hb
    · rw [hb] at ha
      exact Or.inl (Or.inr ha)
    · by_cases hne : b = a
      · exact Or.inl (Or.inl hne)
      -- Both texts start the path, so the shorter of them starts the other.
      · rcases List.prefix_or_prefix_of_prefix ha.1 hb.1 with h | h
        · rcases (into_prefix_into a b).mp h with h | h
          · exact absurd h.symm hne
          · exact Or.inl (Or.inr (below_of_into_starts a b q ha hb h hne))
        · rcases (into_prefix_into b a).mp h with h | h
          · exact absurd h hne
          · exact Or.inr (below_of_into_starts b a q hb ha h (Ne.symm hne))

/-- A path is within an entry just if, with a slash behind both, the one starts the other. -/
theorem within_child_iff (d n q : Text) (hn : n ≠ []) (hs : '/' ∉ n) :
    Within (child d n) q ↔ child d n ++ ['/'] <+: q ++ ['/'] := by
  rw [List.prefix_concat_iff, Within, below_of_ne _ _ (child_ne_nil d n hn), into_child d n hn hs]
  constructor
  · rintro (h | h)
    · exact Or.inl (by rw [h])
    · exact Or.inr h.1
  · rintro (h | h)
    · exact Or.inl (List.append_cancel_right h).symm
    -- The path cannot be the entry, for the slash makes the entry's text longer.
    · refine Or.inr ⟨h, fun hq => ?_⟩
      have hlen := h.length_le
      rw [hq, List.length_append, List.length_singleton] at hlen
      omega

/-- Two entries of one directory have nothing in common. -/
theorem within_children_disjoint (d n₁ n₂ q : Text) (hn₁ : n₁ ≠ []) (hn₂ : n₂ ≠ [])
    (hs₁ : '/' ∉ n₁) (hs₂ : '/' ∉ n₂) (h₁ : Within (child d n₁) q) (h₂ : Within (child d n₂) q) :
    n₁ = n₂ := by
  -- A key with its slash cannot start the key of a sibling: the slash would lie in a name.
  have hstep : ∀ m₁ m₂ : Text, m₁ ≠ [] → '/' ∉ m₂ →
      child d m₁ ++ ['/'] <+: child d m₂ ++ ['/'] → m₁ = m₂ := by
    intro m₁ m₂ hm₁ hs h
    rcases List.prefix_concat_iff.mp h with h | h
    · exact child_inj_name d m₁ m₂ (List.append_cancel_right h)
    · have hpre := prefix_of_prefix_append (child d m₁) (into d) m₂ hs h
      have hlen := hpre.length_le
      -- The first name would have to end before its own first character.
      have hpos := List.length_pos_iff.mpr hm₁
      rw [child, List.length_append, List.length_append, List.length_singleton] at hlen
      omega
  rw [within_child_iff d _ q hn₁ hs₁] at h₁
  rw [within_child_iff d _ q hn₂ hs₂] at h₂
  rcases List.prefix_or_prefix_of_prefix h₁ h₂ with h | h
  · exact hstep n₁ n₂ hn₁ hs₂ h
  · exact (hstep n₂ n₁ hn₂ hs₁ h).symm

/-- The text up to the last slash of a key is what the keys of its directory start with. -/
theorem upToSlash_child (d n : Text) (hs : '/' ∉ n) : upToSlash (child d n) = into d := by
  -- From the end, the name is dropped and the slash in front of it stops that.
  have hdrop : ∀ t : Text, '/' ∉ t → (t.reverse ++ (into d).reverse).dropWhile (!isSlash ·)
      = (into d).reverse := by
    intro t ht
    rw [List.dropWhile_append_of_pos]
    · by_cases hd : d = []
      · rw [hd, into_nil]
        rfl
      · rcases into_getLast d hd with ⟨lead, hlead⟩
        rw [hlead, List.reverse_append, List.reverse_singleton, List.singleton_append]
        rfl
    · intro c hc
      have hne : c ≠ '/' := fun h => ht (by rw [← h]; exact List.mem_reverse.mp hc)
      simp only [isSlash, hne, decide_false, Bool.not_false]
  rw [upToSlash, child, List.reverse_append, hdrop n hs, List.reverse_reverse]

/-- The directory of an entry is read off its key. -/
theorem parent_child (d n : Text) (hs : '/' ∉ n) (hd : d ≠ here) :
    Keyed.parent (child d n) = d := by
  have hdir : directory (child d n) = if d = [] then here else d := by
    rw [directory, upToSlash_child d n hs]
    by_cases h : d = []
    · rw [if_pos h, h]
      rfl
    · rw [if_neg h]
      by_cases hr : d = ['/']
      · rw [hr]
        rfl
      · rw [into_of_ne d h hr]
        cases d with
        | nil => exact absurd rfl h
        | cons c rest =>
            cases rest with
            | nil => rfl
            | cons c' rest =>
                change (c :: c' :: rest ++ ['/']).dropLast = c :: c' :: rest
                exact List.dropLast_concat
  rw [Keyed.parent, hdir]
  by_cases h : d = []
  · rw [if_pos h, h]
    rfl
  · rw [if_neg h, if_neg hd]

/-- The name of an entry is read off its key. -/
theorem name_child (d n : Text) (hs : '/' ∉ n) : Keyed.name (child d n) = n := by
  -- From the end, the name is taken and the slash in front of it stops that.
  have htake : ∀ t : Text, '/' ∉ t → (t.reverse ++ (into d).reverse).takeWhile (!isSlash ·)
      = t.reverse := by
    intro t ht
    rw [List.takeWhile_append_of_pos]
    · by_cases hd : d = []
      · rw [hd, into_nil]
        exact List.append_nil _
      · rcases into_getLast d hd with ⟨lead, hlead⟩
        rw [hlead, List.reverse_append, List.reverse_singleton, List.singleton_append]
        exact List.append_nil _
    · intro c hc
      have hne : c ≠ '/' := fun h => ht (by rw [← h]; exact List.mem_reverse.mp hc)
      simp only [isSlash, hne, decide_false, Bool.not_false]
  rw [Keyed.name, baseName, child, List.reverse_append, htake n hs, List.reverse_reverse]

end Path

end Maskwalk
