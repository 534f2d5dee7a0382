import Maskwalk.Proofs.Mask.Fitting
import Maskwalk.Proofs.Path.Proper

/-!
# The mask of what a directory holds

What a directory holds is asked for by a mask: the directory's own path with a star behind it. As
long as the path holds no star, that is right: the mask starts at the directory, is not deep, and
fits every entry. A path that holds stars is read as a mask of its own. It starts at some directory
above, and where it is not deep it fits nothing there, since what lies directly in that directory
has too few slashes.

The mask is put into its normal form on the way, which changes nothing: a star is a segment like
any other. Only the two slashes of a bare share root stand in its way, since a third one behind
them would be dropped.

## Main definitions

* `Path.place`: the key that a path stands for.

## Theorems

* `Path.join_name`, `Path.join_star`: The mask of what a directory holds.
* `Mask.start_child`: It starts at the directory, unless that holds a star.
* `Mask.covers_child_star`: It fits all entries, unless the directory holds a star.
* `Mask.isDeep_child_star`: It is deep just if the directory's own path is.
* `Mask.within_start`, `Mask.start_of_within`: Where it starts if the path holds stars.
* `Mask.covers_cut`: What the mask of a directory within a starry one fits.
* `Mask.count_start_lt`: The entries of the directory where a starry mask starts have too few
  slashes for it.
-/

namespace Maskwalk

namespace Path

/-- The key that a path stands for: its normal form, and the empty key for the current directory. -/
def place (p : Path) : Path := if normalize p = here then [] else normalize p

theorem place_inTree (p : Path) (hn : normalize p = p) (h : InTree p) : place p = p := by
  rw [place, hn, if_neg (InTree.ne_here p h)]

theorem place_proper (p : Path) (h : Proper p) : place p = p :=
  place_inTree p (normalize_proper p h) h.inTree

theorem leads_star (d : Path) : Leads d ['*'] where
  ne_nil := by decide
  no_slash := by decide
  ne_dot := by decide
  ne_dotDot := by decide
  no_backslash := by decide
  relative := fun _ => by decide

/-- Only the two roots end in a slash. -/
theorem root_of_ends_with_slash (root : Root) (segments : List Text)
    (h : ∀ s ∈ segments, IsSegment s) (hs : endsWithSlash (written root segments) = true) :
    segments = [] := by
  cases segments using List.reverseRecOn with
  | nil => rfl
  | append_singleton pre s =>
      exfalso
      have hseg := h s (List.mem_append_right _ (List.mem_singleton_self s))
      -- What is written ends in its last segment, and there is no slash in that.
      have hlast : ∃ front, written root (pre ++ [s]) = front ++ s := by
        by_cases hne : pre = []
        · exact ⟨root.text, by rw [hne]; rfl⟩
        · refine ⟨root.text ++ (Text.joined ['/'] pre ++ ['/']), ?_⟩
          rw [written, Text.joined_append_singleton _ _ _ hne]
          simp only [List.append_assoc]
      rcases hlast with ⟨front, hfront⟩
      rw [hfront, endsWithSlash, decide_eq_true_eq, List.getLast?_append,
        List.getLast?_eq_some_getLast hseg.ne_nil, Option.some_or, Option.some.injEq] at hs
      exact hseg.no_slash (by rw [← hs]; exact List.getLast_mem hseg.ne_nil)

/-- A name joined to a path in normal form leads to the entry of the place of that path. -/
theorem join_place (p : Path) (n : Text) (hn : n ≠ []) (ha : isAbsolute n = false)
    (h : normalize p ≠ ['/', '/']) : join (normalize p) n = child (place p) n := by
  rcases normalize_cases p with hp | hp | ⟨root, segments, hpiled, hnil, hp⟩
  · rw [place, hp, if_neg (by decide), join, if_neg hn, if_pos (Or.inl rfl)]
    rfl
  · rw [place, hp, if_pos rfl, join, if_neg hn, if_pos (Or.inr (Or.inl rfl))]
    rfl
  · have hseg := segments_of_piled root segments hpiled
    have hhere := written_ne_here root segments hseg
    rw [place, hp, if_neg hhere, join, if_neg hn,
      if_neg (by simp only [hnil, hhere, ha, Bool.false_eq_true, or_self, not_false_eq_true])]
    by_cases he : endsWithSlash (written root segments) = true
    -- Only the root ends in a slash.
    · have hs := root_of_ends_with_slash root segments hseg he
      rw [if_pos he, hs]
      rw [hs] at hnil hp
      cases root with
      | relative => exact absurd rfl hnil
      | rooted => rfl
      | share => exact absurd hp h
    · rw [if_neg he, child, into_of_ne _ hnil (fun hr => he (by rw [hr]; decide)),
        List.append_assoc]
      rfl

/-- A name joined to a path in normal form is the key of an entry, in normal form. -/
theorem join_name (p : Path) (n : Text) (hn : IsName n) (hb : '\\' ∉ n) (ha : isAbsolute n = false)
    (h : normalize p ≠ ['/', '/']) : normalize (join (normalize p) n) = child (place p) n := by
  have halone : normalize (child [] n) = child [] n :=
    normalize_proper _ (Proper.child Proper.here ⟨hn, hb, fun _ => ha⟩)
  rw [join_place p n hn.ne_nil ha h]
  rcases normalize_cases p with hp | hp | ⟨root, segments, hpiled, hnil, hp⟩
  · rw [place, hp, if_neg (by decide), halone]
  · rw [place, hp, if_pos rfl, halone]
  -- The name is one more segment, and the pile stays in order.
  · have hseg := segments_of_piled root segments hpiled
    have hroot : root ≠ .share ∨ segments ≠ [] := by
      by_cases hr : root = .share
      · refine Or.inr (fun hs => h ?_)
        rw [hp, hr, hs]
        rfl
      · exact Or.inl hr
    rw [place, hp, if_neg (written_ne_here root segments hseg),
      ← written_append_singleton root segments n hseg hroot]
    refine normalize_written root _ ?_
    rw [List.reverse_append]
    exact piled_cons_name root _ n hn hb hpiled

/-- A name without backslashes joined to a path in normal form is in normal form, also if it looks
    absolute. -/
theorem normalize_join (d : Path) (n : Text) (hd : normalize d = d) (hn : IsName n)
    (hb : '\\' ∉ n) : normalize (join d n) = join d n := by
  by_cases ha : isAbsolute n = true
  · rw [join_absolute d n hn.ne_nil ha]
    exact normalize_proper _ (Proper.child Proper.here ⟨hn, hb, fun h => absurd rfl h⟩)
  · rw [Bool.not_eq_true] at ha
    by_cases hs : d = ['/', '/']
    -- Behind the root of shares the name is the first segment.
    · have hjoin : join d n = written .share [n] := by
        rw [hs, join, if_neg hn.ne_nil, if_neg (by rw [ha]; decide), if_pos (by decide)]
        rfl
      rw [hjoin]
      exact normalize_written .share [n] (piled_cons_name .share [] n hn hb trivial)
    · have hns : normalize d ≠ ['/', '/'] := by rwa [hd]
      have hkey := join_name d n hn hb ha hns
      rw [← join_place d n hn.ne_nil ha hns, hd] at hkey
      exact hkey

/-- A name leads from a key in normal form to one in normal form. -/
theorem normalize_child (d n : Path) (hd : normalize d = d) (ht : InTree d) (hl : Leads d n) :
    normalize (child d n) = child d n := by
  by_cases h0 : d = []
  · rw [h0] at hl ⊢
    exact normalize_proper _ (Proper.child Proper.here hl)
  · have hkey := join_name d n hl.toIsName hl.no_backslash (hl.relative h0)
      (by rw [hd]; exact InTree.ne_share d ht)
    rw [hd, join_eq_child d n ht hl.ne_nil hl.relative, place_inTree d hd ht] at hkey
    exact hkey

/-- The mask of what a directory holds is the key of an entry named by a star. -/
theorem join_star (p : Path) (h : normalize p ≠ ['/', '/']) :
    normalize (join (normalize p) ['*']) = child (place p) ['*'] :=
  join_name p ['*'] (leads_star []).toIsName (by decide) (by decide) h

end Path

namespace Mask

open Maskwalk.Path (child into)

theorem isDeep_append_slash (back front : Text) :
    isDeep (front ++ '/' :: back) = (isDeep front || isDeep back) := by
  induction front using star_induction with
  | nil =>
      rw [List.nil_append, isDeep_cons '/' back (by decide)]
      rfl
  | two rest ih =>
      simp only [isDeep, List.cons_append, Text.occursIn, List.isPrefixOf, beq_self_eq_true,
        Bool.true_and, Bool.true_or]
  | one rest hhead ih =>
      rw [List.cons_append, isDeep_one _ (single_star_append_slash rest back hhead),
        isDeep_one rest hhead, ih]
  | other c rest hc ih => rw [List.cons_append, isDeep_cons c _ hc, isDeep_cons c rest hc, ih]

theorem isDeep_of_no_star (t : Text) (h : '*' ∉ t) : isDeep t = false := by
  induction t with
  | nil => rfl
  | cons c rest ih =>
      rw [List.mem_cons, not_or] at h
      rw [isDeep_cons c rest (Ne.symm h.1)]
      exact ih h.2

/-- The keys of entries go on behind the directory and a slash, but in the two roots. -/
theorem child_cases (d : Path) :
    d = [] ∨ d = ['/'] ∨ (into d = d ++ ['/'] ∧ ∀ n, child d n = d ++ '/' :: n) := by
  by_cases h : d = []
  · exact Or.inl h
  · by_cases hr : d = ['/']
    · exact Or.inr (Or.inl hr)
    · have hinto := Path.into_of_ne d h hr
      refine Or.inr (Or.inr ⟨hinto, fun n => ?_⟩)
      rw [child, hinto, List.append_assoc]
      rfl

/-- A starry directory is no root. -/
theorem child_of_star (d : Path) (hs : '*' ∈ d) :
    into d = d ++ ['/'] ∧ ∀ n, child d n = d ++ '/' :: n := by
  rcases child_cases d with h | h | hchild
  · rw [h] at hs
    exact absurd hs List.not_mem_nil
  · rw [h] at hs
    exact absurd hs (by decide)
  · exact hchild

/-- The mask of what a directory holds is deep just if the directory's own path is. -/
theorem isDeep_child_star (d : Path) : isDeep (child d ['*']) = isDeep d := by
  rcases child_cases d with h | h | ⟨hinto, hchild⟩
  · rw [h]
    decide
  · rw [h]
    decide
  · rw [hchild, isDeep_append_slash, show isDeep ['*'] = false from by decide, Bool.or_false]

theorem no_star_into (d : Path) (hs : '*' ∉ d) : '*' ∉ into d := by
  rcases child_cases d with h | h | ⟨hinto, _⟩
  · rw [h]
    decide
  · rw [h]
    decide
  · rw [hinto, List.mem_append, not_or]
    exact ⟨hs, by decide⟩

theorem takeWhile_append_of_no_star (front back : Text) (hs : '*' ∉ front) :
    (front ++ back).takeWhile (· ≠ '*') = front ++ back.takeWhile (· ≠ '*') := by
  refine List.takeWhile_append_of_pos (fun c hc => ?_)
  rw [decide_eq_true_eq]
  intro h
  exact hs (by rw [← h]; exact hc)

/-- A mask starts at a directory in normal form. -/
theorem normalize_start (mask : Path) :
    Path.normalize (start (Path.normalize mask)) = start (Path.normalize mask) :=
  Path.normalize_parent_of_prefix mask ((Path.normalize mask).takeWhile (· ≠ '*'))
    (List.takeWhile_prefix _)

theorem no_star_takeWhile (mask : Text) : '*' ∉ mask.takeWhile (· ≠ '*') := by
  intro h
  exact absurd (List.all_eq_true.mp List.all_takeWhile _ h) (by decide)

/-- There is no star in the path of the directory at which a mask starts. -/
theorem no_star_start (mask : Text) : '*' ∉ start mask := by
  have hdir : ∀ p : Path, '*' ∉ p → '*' ∉ Path.directory p := by
    intro p hp
    have hup : '*' ∉ Path.upToSlash p := fun h => hp ((Path.upToSlash_starts p).subset h)
    rw [Path.directory]
    split
    · decide
    · rename_i slash heq
      rw [← heq]
      exact hup
    · exact fun h => hup (List.dropLast_subset _ h)
  rw [start]
  by_cases hhere : Path.directory (mask.takeWhile (· ≠ '*')) = Path.here
  · rw [if_pos hhere]
    exact List.not_mem_nil
  · rw [if_neg hhere]
    exact hdir _ (no_star_takeWhile mask)

/-- Behind a star nothing matters to where a mask starts. -/
theorem takeWhile_append_of_star (front back : Text) (hs : '*' ∈ front) :
    (front ++ back).takeWhile (· ≠ '*') = front.takeWhile (· ≠ '*') := by
  rw [List.takeWhile_append]
  refine if_neg (fun hlen => ?_)
  -- Otherwise there would be no star in the text in front.
  have heq := (List.takeWhile_prefix (· ≠ '*')).eq_of_length hlen
  have hall := List.all_eq_true.mp List.all_takeWhile _ (by rw [heq]; exact hs)
  exact absurd hall (by decide)

theorem start_append (front back : Text) (hs : '*' ∈ front) :
    start (front ++ back) = start front := by
  unfold start
  rw [takeWhile_append_of_star front back hs]

/-- A mask with its first star behind a directory starts there. -/
theorem start_child (d back : Path) (hs : '*' ∉ d) (hd : d ≠ Path.here) :
    start (child d ('*' :: back)) = d := by
  have htake : (child d ('*' :: back)).takeWhile (· ≠ '*') = child d [] := by
    rw [child, child, takeWhile_append_of_no_star _ _ (no_star_into d hs)]
    rfl
  change Keyed.parent ((child d ('*' :: back)).takeWhile (· ≠ '*')) = d
  rw [htake]
  exact Path.parent_child d [] List.not_mem_nil hd

/-- The mask of what a directory holds fits all its entries, unless the directory holds a star. -/
theorem covers_child_star (same : Char → Char → Bool)
    (hslash : ∀ a c, same a c = true → (a = '/' ↔ c = '/')) (hrefl : ∀ c, same c c = true)
    (d n : Text) (hs : '*' ∉ d) (hn : '/' ∉ n) : Covers same (child d ['*']) (child d n) := by
  rcases child_cases d with h | h | ⟨hinto, hchild⟩
  · rw [h]
    exact (covers_star same n).mpr hn
  · rw [h]
    exact (covers_append_slash same hslash (hrefl '/') ['*'] [] _).mpr
      ⟨[], n, rfl, (covers_nil same []).mpr rfl, (covers_star same n).mpr hn⟩
  · rw [hchild, hchild]
    exact (covers_append_slash same hslash (hrefl '/') ['*'] d _).mpr
      ⟨d, n, rfl, covers_self same hrefl d hs, (covers_star same n).mpr hn⟩

/-- What the mask of a directory further down fits goes on behind what the mask of a starry
    directory fits, the part of the text in front of some slash. -/
theorem covers_cut (same : Char → Char → Bool)
    (hslash : ∀ a c, same a c = true → (a = '/' ↔ c = '/')) (hrefl : ∀ c, same c c = true)
    (q rest c : Text) (hs : '*' ∈ q) (h : Covers same (child (q ++ '/' :: rest) ['*']) c) :
    ∃ t, Covers same (child q ['*']) t ∧ (t = c ∨ t ++ ['/'] <+: c) := by
  have hstar : '*' ∈ q ++ '/' :: rest := List.mem_append_left _ hs
  rw [(child_of_star _ hstar).2, List.append_assoc] at h
  change Covers same (q ++ '/' :: (rest ++ '/' :: ['*'])) c at h
  rcases (covers_append_slash same hslash (hrefl '/') _ q c).mp h with ⟨u, v, hc, hu, _⟩
  -- The star behind the starry directory fits the first segment of what is left.
  refine ⟨u ++ '/' :: v.takeWhile (· ≠ '/'), ?_, ?_⟩
  · rw [(child_of_star q hs).2]
    refine (covers_append_slash same hslash (hrefl '/') _ q _).mpr
      ⟨u, _, rfl, hu, (covers_star same _).mpr (fun hmem => ?_)⟩
    have hall := List.all_eq_true.mp List.all_takeWhile _ hmem
    exact absurd hall (by decide)
  · -- Behind the first segment of what is left there is nothing, or another slash.
    have hv := List.takeWhile_append_dropWhile (p := (· ≠ '/')) (l := v)
    rw [hc]
    cases hd : v.dropWhile (· ≠ '/') with
    | nil =>
        rw [hd, List.append_nil] at hv
        exact Or.inl (by rw [hv])
    | cons x more =>
        have hx := List.head?_dropWhile_not (· ≠ '/') v
        rw [hd] at hx
        have hxs : x = '/' := by
          simpa only [List.head?_cons, decide_not, Bool.not_eq_false', decide_eq_true_eq] using hx
        rw [hd, hxs] at hv
        refine Or.inr ⟨more, ?_⟩
        rw [List.append_assoc, List.append_assoc, List.cons_append]
        exact congrArg (u ++ '/' :: ·) hv

theorem count_into (d : Path) : (into d).count '/' ≤ d.count '/' + 1 := by
  rcases child_cases d with h | h | ⟨hinto, _⟩
  · rw [h]
    decide
  · rw [h]
    decide
  · rw [hinto, List.count_append]
    exact Nat.le_refl _

/-- The directory of a text has no more slashes, the one behind it included. -/
theorem count_into_parent (p : Path) : (into (Keyed.parent p)).count '/' ≤ p.count '/' := by
  rcases Path.upToSlash_cases p with hup | ⟨front, hup⟩
  · have hpar : Keyed.parent p = [] := by
      rw [Keyed.parent, Path.directory, hup]
      rfl
    rw [hpar]
    exact Nat.zero_le _
  · have hcount : front.count '/' + 1 ≤ p.count '/' := by
      have hle := (Path.upToSlash_starts p).sublist.count_le '/'
      rw [hup, List.count_append] at hle
      exact hle
    by_cases hf : front = Path.here
    · have hpar : Keyed.parent p = [] := by
        rw [Keyed.parent, Path.directory, hup, hf]
        rfl
      rw [hpar]
      exact Nat.zero_le _
    · rw [Path.parent_of_upToSlash p front hup hf]
      by_cases h0 : front = []
      · rw [if_pos h0]
        exact Nat.le_trans (Nat.le_add_left 1 _) hcount
      · rw [if_neg h0]
        exact Nat.le_trans (count_into front) hcount

/-- The mask of what a directory holds starts within every directory above that holds no star. -/
theorem within_start (a d : Path) (ha : a ≠ Path.here) (hs : '*' ∉ a) (h : Path.Within a d) :
    Path.Within a (start (child d ['*'])) := by
  -- The mask is the key of an entry of the directory, so all that is above lies above it.
  have hbelow : Path.Below a (child d ['*']) :=
    (Path.below_child a d ['*'] (by decide) (by decide)).mpr (h.imp_left Eq.symm)
  have htake : into a <+: (child d ['*']).takeWhile (· ≠ '*') := by
    rcases hbelow.1 with ⟨rest, hrest⟩
    rw [← hrest, takeWhile_append_of_no_star _ _ (no_star_into a hs)]
    exact List.prefix_append _ _
  refine Path.within_parent a _ ha htake (fun ha0 hhead => hbelow.2.2 ha0 ?_)
  rcases List.takeWhile_prefix (· ≠ '*') (l := child d ['*']) with ⟨rest, hrest⟩
  rw [← hrest, List.head?_append, hhead, Option.some_or]

/-- Within a starry directory, the mask of what a directory holds starts where that of the first
    does. -/
theorem start_of_within (q d : Path) (hs : '*' ∈ q) (h : Path.Within q d) :
    start (child d ['*']) = start (child q ['*']) := by
  -- Its text goes on behind that of the starry directory, where nothing matters any more.
  have hd : ∃ rest, d = q ++ rest := by
    rcases h with h | h
    · exact ⟨[], by rw [h, List.append_nil]⟩
    · rcases (Path.prefix_into q).trans h.1 with ⟨rest, hrest⟩
      exact ⟨rest, hrest.symm⟩
  rcases hd with ⟨rest, hrest⟩
  have hsd : '*' ∈ d := by
    rw [hrest]
    exact List.mem_append_left _ hs
  rw [(child_of_star d hsd).2, (child_of_star q hs).2, start_append d _ hsd, start_append q _ hs,
    hrest, start_append q _ hs]

/-- Where the mask of a starry directory starts, the entries have too few slashes for it. -/
theorem count_start_lt (d n : Text) (hs : '*' ∈ d) (hn : '/' ∉ n) :
    (child (start (child d ['*'])) n).count '/' < (child d ['*']).count '/' := by
  have hchild := (child_of_star d hs).2 ['*']
  -- The mask starts somewhere in the directory's own text, and has one slash more than that.
  have htake : (child d ['*']).takeWhile (· ≠ '*') <+: d := by
    rw [hchild, takeWhile_append_of_star d _ hs]
    exact List.takeWhile_prefix _
  have hstart := count_into_parent ((child d ['*']).takeWhile (· ≠ '*'))
  change (into (Keyed.parent ((child d ['*']).takeWhile (· ≠ '*'))) ++ n).count '/' < _
  rw [List.count_append, List.count_eq_zero_of_not_mem hn, hchild, List.count_append] at *
  have hle := htake.sublist.count_le '/'
  have hone : ('/' :: ['*']).count '/' = 1 := by decide
  omega

end Mask

end Maskwalk
