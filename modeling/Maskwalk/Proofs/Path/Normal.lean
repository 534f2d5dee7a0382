import Maskwalk.Proofs.Path.Below
import Maskwalk.Proofs.Text.Pieces

/-!
# What normal forms look like

A path is put into its normal form by folding its segments over a stack. The stack is never in
disorder: every segment on it was pushed on what lies under it, and pushing it there again would
give the same stack. `Piled` says this of a stack, `push_piled` that a fold keeps it, and
`foldl_piled` that reading such a stack from the bottom builds it again. So a normal form is its
own normal form, and so is every directory that stands in front of one of its segments.

The last fact is about masks. A walk starts at the directory in front of a mask's first star, and
`normalize_parent_of_prefix` says that this directory is in its normal form, as the world writes
it.

## Main definitions

* `IsSegment`: a segment that a normal form can have.
* `Piled`: a stack of segments that a fold leaves as it is.
* `written`: the text of a root and segments, empty if there is neither.

## Theorems

* `push_piled`: Reading one more segment keeps the order of a stack.
* `foldl_piled`: A stack in order is built again by its segments.
* `normalize_written`: A path written from a stack in order is normal.
* `normalize_cases`: Every normal form is empty, the current directory, or so written.
* `mem_of_mem_normalize`: What a normal form is spelled with.
* `normalize_normalize`: A normal form is its own normal form.
* `normalize_parent_of_prefix`: So is the directory of any text that starts one.
-/

namespace Maskwalk

namespace Path

/-- A segment that a normal form can have. -/
structure IsSegment (s : Text) : Prop where
  ne_nil : s ≠ []
  ne_dot : s ≠ dot
  no_slash : '/' ∉ s
  no_backslash : '\\' ∉ s

/-- A stack that a fold leaves as it is: every segment would be pushed on those under it. -/
def Piled (root : Root) : List Text → Prop
  | [] => True
  | top :: below => IsSegment top ∧ push root below top = top :: below ∧ Piled root below

/-- The text of a root and segments. -/
def written (root : Root) (segments : List Text) : Path :=
  root.text ++ Text.joined ['/'] segments

theorem piled_of_append (root : Root) (upper lower : List Text)
    (h : Piled root (upper ++ lower)) : Piled root lower := by
  induction upper with
  | nil => exact h
  | cons top rest ih => exact ih h.2.2

theorem isSegment_of_piled (root : Root) (stack : List Text) (h : Piled root stack) :
    ∀ s ∈ stack, IsSegment s := by
  induction stack with
  | nil =>
      intro s hs
      exact absurd hs List.not_mem_nil
  | cons top below ih =>
      intro s hs
      rcases List.mem_cons.mp hs with rfl | hs
      · exact h.1
      · exact ih h.2.2 s hs

/-- What a stack in order is written as are segments. -/
theorem segments_of_piled (root : Root) (segments : List Text) (h : Piled root segments.reverse) :
    ∀ s ∈ segments, IsSegment s := fun s hs =>
  isSegment_of_piled root _ h s (List.mem_reverse.mpr hs)

/-- A text that does not start with two slashes is not written on a share. -/
theorem ne_share_of_written (root : Root) (segments : List Text)
    (h : ¬ ['/', '/'] <+: written root segments) : root ≠ .share := by
  intro hr
  rw [hr] at h
  exact h (List.prefix_append ['/', '/'] _)

theorem isSegment_dotDot : IsSegment dotDot := by
  constructor <;> decide

theorem push_skip (root : Root) (stack : List Text) (s : Text) (h : s = [] ∨ s = dot) :
    push root stack s = stack := by
  unfold push
  rw [if_pos h]

theorem push_name (root : Root) (stack : List Text) (s : Text) (h : ¬ (s = [] ∨ s = dot))
    (hd : s ≠ dotDot) : push root stack s = s :: stack := by
  unfold push
  rw [if_neg h, if_neg hd]

theorem push_dotDot_nil (root : Root) :
    push root [] dotDot = if root = .relative then [dotDot] else [] := by
  unfold push
  rw [if_neg (by decide), if_pos rfl]

theorem push_dotDot_cons (root : Root) (top : Text) (below : List Text) :
    push root (top :: below) dotDot
      = if yields top = true then below else dotDot :: top :: below := by
  unfold push
  rw [if_neg (by decide), if_pos rfl]

/-- A name gives way to a `..` unless it has a star. -/
theorem yields_iff (s : Text) : yields s = true ↔ s ≠ dotDot ∧ '*' ∉ s := by
  rw [yields, Bool.and_eq_true, decide_eq_true_eq, Bool.not_eq_true', ← Bool.not_eq_true,
    List.elem_iff]

/-- Reading one more segment keeps a stack in order. -/
theorem push_piled (root : Root) (stack : List Text) (s : Text) (hs : '/' ∉ s) (hb : '\\' ∉ s)
    (h : Piled root stack) : Piled root (push root stack s) := by
  by_cases hskip : s = [] ∨ s = dot
  · rw [push_skip root stack s hskip]
    exact h
  by_cases hup : s = dotDot
  · rw [hup]
    cases stack with
    -- Only a relative path keeps a `..` it has no segment for.
    | nil =>
        have hpush := push_dotDot_nil root
        by_cases hr : root = .relative
        · rw [if_pos hr] at hpush
          rw [hpush]
          exact ⟨isSegment_dotDot, hpush, trivial⟩
        · rw [if_neg hr] at hpush
          rw [hpush]
          trivial
    | cons top below =>
        have hpush := push_dotDot_cons root top below
        -- A name gives way to `..`, and another `..` does not, which then lies below it.
        by_cases hy : yields top = true
        · rw [hpush, if_pos hy]
          exact h.2.2
        · rw [if_neg hy] at hpush
          rw [hpush]
          exact ⟨isSegment_dotDot, hpush, h⟩
  -- A name goes on top, and reading it again does just that.
  · have hpush := push_name root stack s hskip hup
    rw [hpush]
    exact ⟨⟨fun h0 => hskip (Or.inl h0), fun h0 => hskip (Or.inr h0), hs, hb⟩, hpush, h⟩

/-- A name goes on top of any stack in order. -/
theorem piled_cons_name (root : Root) (stack : List Text) (n : Text) (hn : IsName n)
    (hb : '\\' ∉ n) (h : Piled root stack) : Piled root (n :: stack) := by
  have hskip : ¬ (n = [] ∨ n = dot) := by
    rintro (h0 | h0)
    · exact hn.ne_nil h0
    · exact hn.ne_dot h0
  exact ⟨⟨hn.ne_nil, hn.ne_dot, hn.no_slash, hb⟩, push_name root stack n hskip hn.ne_dotDot, h⟩

theorem foldl_push_piled (root : Root) (segments stack : List Text)
    (hs : ∀ s ∈ segments, '/' ∉ s ∧ '\\' ∉ s) (h : Piled root stack) :
    Piled root (segments.foldl (push root) stack) := by
  induction segments generalizing stack with
  | nil => exact h
  | cons s more ih =>
      have hhead := hs s List.mem_cons_self
      exact ih (push root stack s) (fun t ht => hs t (List.mem_cons_of_mem _ ht))
        (push_piled root stack s hhead.1 hhead.2 h)

/-- A stack in order is built again by its segments, read from the bottom. -/
theorem foldl_piled (root : Root) (stack : List Text) (h : Piled root stack) :
    stack.reverse.foldl (push root) [] = stack := by
  induction stack with
  | nil => rfl
  | cons top below ih =>
      rw [List.reverse_cons, List.foldl_append, ih h.2.2, List.foldl_cons, List.foldl_nil]
      exact h.2.1

theorem isSlash_eq_false_iff (c : Char) : isSlash c = false ↔ c ≠ '/' := by
  simp only [isSlash, decide_eq_false_iff_not, ne_eq]

theorem free_of_no_slash (s : Text) (h : '/' ∉ s) : ∀ c ∈ s, isSlash c = false := by
  intro c hc
  rw [isSlash_eq_false_iff]
  intro h0
  exact h (by rw [← h0]; exact hc)

theorem joined_head (segments : List Text) (h : ∀ s ∈ segments, IsSegment s) :
    (Text.joined ['/'] segments).head? ≠ some '/' := by
  cases segments with
  | nil => simp only [Text.joined, List.head?_nil, ne_eq, reduceCtorEq, not_false_eq_true]
  | cons s more =>
      have hs := h s List.mem_cons_self
      have hhead : (Text.joined ['/'] (s :: more)).head? = s.head? := by
        by_cases hm : more = []
        · rw [hm]
          rfl
        · rw [Text.joined_cons _ _ _ hm, List.append_assoc, List.head?_append_of_ne_nil _ hs.ne_nil]
      rw [hhead]
      intro h0
      exact hs.no_slash (List.mem_of_mem_head? h0)

/-- The root of a text is read back off it, if what follows does not start with a slash. -/
theorem rootOf_text_append (root : Root) (t : Text) (h : t.head? ≠ some '/') :
    rootOf (root.text ++ t) = (root, t) := by
  have hne : ∀ rest, t ≠ '/' :: rest := by
    intro rest ht
    exact h (by rw [ht]; rfl)
  cases root with
  | share => rfl
  | rooted =>
      -- A third slash would belong to the text, which does not start with one.
      change rootOf ('/' :: t) = (Root.rooted, t)
      unfold rootOf
      split
      · rename_i rest heq
        exact absurd (List.cons.inj heq).2 (hne rest)
      · rename_i heq
        rw [(List.cons.inj heq).2]
      · rename_i hno
        exact absurd rfl (hno t)
  | relative =>
      change rootOf t = (Root.relative, t)
      unfold rootOf
      split
      · exact absurd rfl (hne _)
      · exact absurd rfl (hne _)
      · rfl

theorem map_forward (t : Text) (h : '\\' ∉ t) : t.map forward = t := by
  rw [List.map_congr_left (g := id), List.map_id]
  intro c hc
  have hne : c ≠ '\\' := fun h0 => h (by rw [← h0]; exact hc)
  rw [forward, if_neg hne, id]

theorem no_backslash_written (root : Root) (segments : List Text)
    (h : ∀ s ∈ segments, IsSegment s) : '\\' ∉ written root segments := by
  intro hc
  rcases List.mem_append.mp hc with hc | hc
  · cases root <;> exact absurd hc (by decide)
  · rcases Text.mem_joined _ _ _ hc with hc | ⟨s, hs, hc⟩
    · exact absurd hc (by decide)
    · exact (h s hs).no_backslash hc

theorem split_written (root : Root) (segments : List Text) (h : ∀ s ∈ segments, IsSegment s) :
    split (written root segments) = (root, (Text.joined ['/'] segments).pieces isSlash) := by
  unfold split
  rw [map_forward _ (no_backslash_written root segments h), written,
    rootOf_text_append root _ (joined_head segments h)]

/-- The pieces of a join are read as the segments that were joined. -/
theorem fold_joined (root : Root) (segments : List Text) (h : Piled root segments.reverse) :
    fold root ((Text.joined ['/'] segments).pieces isSlash) = segments := by
  have hseg := segments_of_piled root segments h
  by_cases hne : segments = []
  · rw [hne]
    rfl
  · rw [Text.pieces_joined '/' rfl segments hne
      (fun s hs => free_of_no_slash s (hseg s hs).no_slash), fold]
    -- The stack is the segments from the end, so reading them from the start builds it again.
    have hfold := foldl_piled root segments.reverse h
    rw [List.reverse_reverse] at hfold
    rw [hfold, List.reverse_reverse]

theorem render_of_written (root : Root) (segments : List Text) (h : written root segments ≠ []) :
    render root segments = written root segments := by
  unfold render
  split
  · rename_i heq
    exact absurd heq h
  · rfl

/-- A path written from a stack in order is in its normal form. -/
theorem normalize_written (root : Root) (segments : List Text) (h : Piled root segments.reverse) :
    normalize (written root segments) = written root segments := by
  have hseg := segments_of_piled root segments h
  by_cases hne : written root segments = []
  · rw [hne]
    rfl
  · unfold normalize
    rw [if_neg hne, split_written root segments hseg]
    change render root (fold root _) = _
    rw [fold_joined root segments h, render_of_written root segments hne]

theorem rootOf_suffix (t : Text) : (rootOf t).2 <:+ t := by
  unfold rootOf
  split
  · exact List.suffix_append ['/', '/'] _
  · exact List.suffix_append ['/'] _
  · exact List.suffix_rfl

theorem segments_of_split (p : Path) : ∀ s ∈ (split p).2, '/' ∉ s ∧ '\\' ∉ s := by
  intro s hs
  have hpieces : s ∈ (rootOf (p.map forward)).2.pieces isSlash := hs
  refine ⟨fun hc => ?_, fun hc => ?_⟩
  · exact absurd (Text.pieces_free _ s hpieces '/' hc) (by decide)
  · have hmem := (rootOf_suffix _).subset (Text.mem_of_mem_pieces _ s _ hpieces hc)
    rcases List.mem_map.mp hmem with ⟨c, _, hc⟩
    by_cases h : c = '\\'
    · rw [forward, if_pos h] at hc
      exact absurd hc (by decide)
    · rw [forward, if_neg h] at hc
      exact h hc

/-- What is read of a path is kept in order. -/
theorem fold_split_piled (p : Path) :
    Piled (split p).1 (fold (split p).1 (split p).2).reverse := by
  rw [fold, List.reverse_reverse]
  exact foldl_push_piled _ _ [] (segments_of_split p) trivial

theorem normalize_of_ne_nil (p : Path) (h : p ≠ []) :
    normalize p = render (split p).1 (fold (split p).1 (split p).2) := by
  unfold normalize
  rw [if_neg h]

/-- Every normal form is empty, the current directory, or written from a stack in order. -/
theorem normalize_cases (p : Path) : normalize p = [] ∨ normalize p = here ∨
    ∃ root segments, Piled root segments.reverse ∧ written root segments ≠ [] ∧
      normalize p = written root segments := by
  by_cases hp : p = []
  · exact Or.inl (by rw [hp]; rfl)
  · rw [normalize_of_ne_nil p hp]
    refine Or.inr ?_
    by_cases hw : written (split p).1 (fold (split p).1 (split p).2) = []
    · left
      unfold render
      unfold written at hw
      rw [hw]
    · exact Or.inr ⟨_, _, fold_split_piled p, hw, render_of_written _ _ hw⟩

theorem mem_push (root : Root) (stack : List Text) (s t : Text) (h : t ∈ push root stack s) :
    t ∈ stack ∨ t = s := by
  by_cases hskip : s = [] ∨ s = dot
  · rw [push_skip root stack s hskip] at h
    exact Or.inl h
  by_cases hup : s = dotDot
  · rw [hup] at h ⊢
    cases stack with
    | nil =>
        rw [push_dotDot_nil] at h
        split at h
        · exact Or.inr (List.mem_singleton.mp h)
        · exact absurd h List.not_mem_nil
    | cons top below =>
        rw [push_dotDot_cons] at h
        split at h
        · exact Or.inl (List.mem_cons_of_mem _ h)
        · exact (List.mem_cons.mp h).symm
  · rw [push_name root stack s hskip hup] at h
    exact (List.mem_cons.mp h).symm

/-- A fold leaves segments that it has read. -/
theorem mem_foldl_push (root : Root) (segments stack : List Text) :
    ∀ t ∈ segments.foldl (push root) stack, t ∈ stack ∨ t ∈ segments := by
  induction segments generalizing stack with
  | nil => exact fun t ht => Or.inl ht
  | cons s more ih =>
      intro t ht
      rcases ih (push root stack s) t ht with h | h
      · exact (mem_push root stack s t h).imp_right (fun heq => by
          rw [heq]
          exact List.mem_cons_self)
      · exact Or.inr (List.mem_cons_of_mem _ h)

/-- A segment that is left stands somewhere in the path, with slashes for backslashes. -/
theorem infix_of_mem_fold_split (p : Path) (s : Text) (hs : s ∈ fold (split p).1 (split p).2) :
    s <:+: p.map forward := by
  rw [fold, List.mem_reverse] at hs
  rcases mem_foldl_push _ _ [] s hs with hs | hs
  · exact absurd hs List.not_mem_nil
  · exact (Text.infix_of_mem_pieces _ s hs).trans (rootOf_suffix _).isInfix

/-- So it holds characters of the path, and slashes. -/
theorem mem_of_mem_fold_split (p : Path) (s : Text) (hs : s ∈ fold (split p).1 (split p).2)
    (c : Char) (hc : c ∈ s) : c ∈ p ∨ c = '/' := by
  rcases List.mem_map.mp ((infix_of_mem_fold_split p s hs).subset hc) with ⟨x, hx, hxc⟩
  rw [← hxc, forward]
  split
  · exact Or.inr rfl
  · exact Or.inl hx

/-- A normal form is spelled with the characters of its path, with slashes and with dots. -/
theorem mem_of_mem_normalize (p : Path) (c : Char) (h : c ∈ normalize p) :
    c ∈ p ∨ c = '/' ∨ c = '.' := by
  have hwritten : c ∈ written (split p).1 (fold (split p).1 (split p).2) → c ∈ p ∨ c = '/' := by
    intro hc
    rcases List.mem_append.mp hc with hc | hc
    · right
      revert hc
      cases (split p).1 with
      | relative => exact fun hc => absurd hc List.not_mem_nil
      | rooted => exact fun hc => List.mem_singleton.mp hc
      | share => exact fun hc => (List.mem_cons.mp hc).elim id List.mem_singleton.mp
    · rcases Text.mem_joined _ _ _ hc with hc | ⟨s, hs, hc⟩
      · exact Or.inr (List.mem_singleton.mp hc)
      · exact mem_of_mem_fold_split p s hs c hc
  by_cases hp : p = []
  · rw [hp] at h
    exact absurd h List.not_mem_nil
  · rw [normalize_of_ne_nil p hp] at h
    unfold render at h
    split at h
    · exact Or.inr (Or.inr (List.mem_singleton.mp h))
    · exact (hwritten h).imp_right Or.inl

/-- There are no backslashes in a normal form. -/
theorem no_backslash_normalize (p : Path) : '\\' ∉ normalize p := by
  rcases normalize_cases p with h | h | ⟨root, segments, hp, _, h⟩
  · rw [h]
    exact List.not_mem_nil
  · rw [h]
    decide
  · rw [h]
    exact no_backslash_written root segments
      (segments_of_piled root segments hp)

/-- The normal form of a normal form is that form. -/
theorem normalize_normalize (p : Path) : normalize (normalize p) = normalize p := by
  rcases normalize_cases p with h | h | ⟨root, segments, hp, _, h⟩
  · rw [h]
    rfl
  · rw [h]
    decide
  · rw [h, normalize_written root segments hp]

/-- Text in front of a slash of a join is a join itself. -/
theorem prefix_joined (segments : List Text) (lead : Text) (h : ∀ s ∈ segments, '/' ∉ s)
    (hp : lead ++ ['/'] <+: Text.joined ['/'] segments) :
    ∃ front back, segments = front ++ back ∧ front ≠ [] ∧ lead = Text.joined ['/'] front := by
  induction segments generalizing lead with
  | nil =>
      rw [Text.joined, List.prefix_nil] at hp
      exact absurd (List.append_eq_nil_iff.mp hp).2 (List.cons_ne_nil _ _)
  | cons s more ih =>
      have hs := h s List.mem_cons_self
      by_cases hm : more = []
      · rw [hm] at hp
        exact absurd (hp.subset (List.mem_append_right _ List.mem_cons_self)) hs
      · rw [Text.joined_cons _ _ _ hm] at hp
        -- The slash lies in the first segment, behind it, or further on.
        rcases Nat.lt_trichotomy lead.length s.length with hlt | heq | hgt
        -- A slash in the first segment is none, for segments hold no slash.
        · exfalso
          have hpre : lead ++ ['/'] <+: s := by
            rw [List.append_assoc] at hp
            refine List.prefix_of_prefix_length_le hp (List.prefix_append _ _) ?_
            rw [List.length_append, List.length_singleton]
            omega
          exact hs (hpre.subset (List.mem_append_right _ List.mem_cons_self))
        · have hpre : lead ++ ['/'] <+: s ++ ['/'] := by
            refine List.prefix_of_prefix_length_le hp (List.prefix_append _ _) ?_
            simp only [List.length_append, List.length_singleton]
            omega
          have hls := hpre.eq_of_length (by simp only [List.length_append]; omega)
          exact ⟨[s], more, rfl, List.cons_ne_nil _ _, List.append_cancel_right hls⟩
        · have hpre : s ++ ['/'] <+: lead := by
            refine List.prefix_of_prefix_length_le (List.prefix_append _ _)
              ((List.prefix_append lead ['/']).trans hp) ?_
            rw [List.length_append, List.length_singleton]
            omega
          -- Without the first segment and its slash it is text in front of a slash of the rest.
          rcases hpre with ⟨rest, hrest⟩
          rw [← hrest, List.append_assoc, List.prefix_append_right_inj] at hp
          rcases ih rest (fun t ht => h t (List.mem_cons_of_mem _ ht)) hp with
            ⟨front, back, hfb, hne, hj⟩
          refine ⟨s :: front, back, by rw [hfb]; rfl, List.cons_ne_nil _ _, ?_⟩
          rw [Text.joined_cons _ _ _ hne, ← hrest, hj]

theorem upToSlash_starts (p : Path) : upToSlash p <+: p := by
  have h := List.dropWhile_suffix (l := p.reverse) (!isSlash ·)
  rw [← List.reverse_prefix, List.reverse_reverse] at h
  exact h

theorem upToSlash_cases (p : Path) : upToSlash p = [] ∨ ∃ lead, upToSlash p = lead ++ ['/'] := by
  rw [upToSlash]
  cases hd : p.reverse.dropWhile (!isSlash ·) with
  | nil => exact Or.inl rfl
  | cons c rest =>
      have hc := List.head?_dropWhile_not (!isSlash ·) p.reverse
      rw [hd] at hc
      have hslash : c = '/' := by
        simpa only [List.head?_cons, Bool.not_eq_false', isSlash, decide_eq_true_eq] using hc
      exact Or.inr ⟨rest.reverse, by rw [List.reverse_cons, hslash]⟩

/-- The directory of a text up to a slash is that text without the slash, and the root if that
    leaves nothing. -/
theorem parent_of_upToSlash (p : Path) (lead : Text) (h : upToSlash p = lead ++ ['/'])
    (hd : lead ≠ here) : Keyed.parent p = if lead = [] then ['/'] else lead := by
  have hdir : directory p = if lead = [] then ['/'] else lead := by
    rw [directory, h]
    cases lead with
    | nil => rfl
    | cons c rest =>
        rw [if_neg (List.cons_ne_nil _ _)]
        cases rest with
        | nil => rfl
        | cons c' rest =>
            change (c :: c' :: rest ++ ['/']).dropLast = c :: c' :: rest
            exact List.dropLast_concat
  rw [Keyed.parent, hdir]
  by_cases hl : lead = []
  · rw [if_pos hl]
    rfl
  · rw [if_neg hl, if_neg hd]

theorem upToSlash_append_baseName (p : Path) : upToSlash p ++ baseName p = p := by
  rw [upToSlash, baseName, ← List.reverse_append, List.takeWhile_append_dropWhile,
    List.reverse_reverse]

theorem no_slash_baseName (p : Path) : '/' ∉ baseName p := by
  intro h
  have hall := List.all_eq_true.mp List.all_takeWhile _ (List.mem_reverse.mp h)
  exact absurd hall (by decide)

theorem takeWhile_reverse_of_no_slash (n front : Text) (hs : '/' ∉ n) :
    (n.reverse ++ front).takeWhile (!isSlash ·) = n.reverse ++ front.takeWhile (!isSlash ·) := by
  refine List.takeWhile_append_of_pos (fun c hc => ?_)
  rw [Bool.not_eq_true', free_of_no_slash n hs c (List.mem_reverse.mp hc)]

theorem baseName_of_no_slash (n : Text) (hs : '/' ∉ n) : baseName n = n := by
  have hall := takeWhile_reverse_of_no_slash n [] hs
  rw [List.takeWhile_nil, List.append_nil] at hall
  rw [baseName, hall, List.reverse_reverse]

/-- What stands behind the last slash is read off a text. -/
theorem baseName_behind (lead n : Text) (hs : '/' ∉ n) : baseName (lead ++ '/' :: n) = n := by
  rw [baseName, List.reverse_append, List.reverse_cons, List.append_assoc,
    takeWhile_reverse_of_no_slash n _ hs]
  change (n.reverse ++ []).reverse = n
  rw [List.append_nil, List.reverse_reverse]

theorem eq_of_into (a lead : Path) (h : into a = lead ++ ['/']) : lead = [] ∨ lead = a := by
  by_cases h0 : a = []
  · rw [h0, into_nil] at h
    exact absurd h.symm (List.append_ne_nil_of_right_ne_nil _ (List.cons_ne_nil _ _))
  · by_cases hr : a = ['/']
    · rw [hr, into_root] at h
      exact Or.inl (List.append_cancel_right (h : [] ++ ['/'] = lead ++ ['/'])).symm
    · rw [into_of_ne a h0 hr] at h
      exact Or.inr (List.append_cancel_right h).symm

/-- Whatever the entries of a directory start with has its slash in front of the last name. -/
theorem into_prefix_upToSlash (a p : Path) (h : into a <+: p) : into a <+: upToSlash p := by
  by_cases h0 : a = []
  · rw [h0]
    exact List.nil_prefix
  · rcases into_getLast a h0 with ⟨lead, hlead⟩
    rw [hlead] at h ⊢
    -- The slash at the end of the start cannot lie in the last name, which has none.
    rw [← upToSlash_append_baseName p] at h
    exact prefix_of_prefix_append lead _ _ (no_slash_baseName p) h

/-- The current directory by its name is no key, and only the empty key goes there. -/
theorem eq_nil_of_into_here (a : Path) (ha : a ≠ here) (h : into a <+: here ++ ['/']) : a = [] := by
  by_contra h0
  rcases List.prefix_concat_iff.mp h with h | h
  · exact ha (into_inj a here (by rw [h]; rfl))
  · exact absurd (h.subset (slash_mem_into a h0)) (by decide)

/-- The directory of a text is within every directory whose entries all start like the text. -/
theorem within_parent (a p : Path) (ha : a ≠ here) (h : into a <+: p)
    (hrel : a = [] → p.head? ≠ some '/') : Within a (Keyed.parent p) := by
  have hup := into_prefix_upToSlash a p h
  rcases upToSlash_cases p with h0 | ⟨lead, hlead⟩
  -- Text without a slash has the empty directory, and so has what its start leads into.
  · have hpar : Keyed.parent p = [] := by
      rw [Keyed.parent, directory, h0]
      rfl
    rw [h0, List.prefix_nil, into_eq_nil_iff] at hup
    exact Or.inl (by rw [hpar, hup])
  · rw [hlead] at hup
    by_cases hl : lead = here
    -- The current directory by its name is the empty key.
    · have hpar : Keyed.parent p = [] := by
        rw [Keyed.parent, directory, hlead, hl]
        rfl
      rw [hl] at hup
      exact Or.inl (by rw [hpar, eq_nil_of_into_here a ha hup])
    · rw [List.prefix_concat_iff] at hup
      rw [parent_of_upToSlash p lead hlead hl]
      have hlp : lead <+: p := by
        have hstarts := upToSlash_starts p
        rw [hlead] at hstarts
        exact (List.prefix_append lead _).trans hstarts
      by_cases hl0 : lead = []
      · -- The text starts with its only slash, so it is not relative.
        rw [if_pos hl0]
        have hhead : p.head? = some '/' := by
          rw [← upToSlash_append_baseName p, hlead, hl0]
          rfl
        rw [hl0, List.prefix_nil] at hup
        rcases hup with hup | hup
        · exact Or.inl (into_inj ['/'] a hup.symm)
        · exact absurd hhead (hrel ((into_eq_nil_iff a).mp hup))
      · rw [if_neg hl0]
        -- Otherwise the directory is the text up to the slash, at or below what it starts with.
        by_cases hal : lead = a
        · exact Or.inl hal
        · refine Or.inr ⟨?_, hal, fun h0 hhead => hrel h0 ?_⟩
          · refine hup.resolve_left (fun heq => hal ?_)
            exact (eq_of_into a lead heq).resolve_left hl0
          · rcases hlp with ⟨rest, hrest⟩
            rw [← hrest, List.head?_append_of_ne_nil _ hl0]
            exact hhead

/-- What stands in front of a slash of a written path is a root or a written path. -/
theorem prefix_written (root : Root) (segments : List Text) (lead : Text)
    (h : ∀ s ∈ segments, '/' ∉ s) (hp : lead ++ ['/'] <+: written root segments) :
    lead = [] ∨ lead = ['/'] ∨ ∃ front back, segments = front ++ back ∧ front ≠ [] ∧
      lead = written root front := by
  cases root with
  | relative => exact Or.inr (Or.inr (prefix_joined segments lead h hp))
  | rooted =>
      cases lead with
      | nil => exact Or.inl rfl
      | cons c rest =>
          change c :: (rest ++ ['/']) <+: '/' :: Text.joined ['/'] segments at hp
          rw [List.cons_prefix_cons] at hp
          rcases prefix_joined segments rest h hp.2 with ⟨front, back, hfb, hne, hj⟩
          exact Or.inr (Or.inr ⟨front, back, hfb, hne, by rw [hp.1, hj]; rfl⟩)
  -- Between the two slashes of a share lies the root, and behind them the segments.
  | share =>
      cases lead with
      | nil => exact Or.inl rfl
      | cons c rest =>
          change c :: (rest ++ ['/']) <+: '/' :: '/' :: Text.joined ['/'] segments at hp
          rw [List.cons_prefix_cons] at hp
          cases rest with
          | nil => exact Or.inr (Or.inl (by rw [hp.1]))
          | cons c' rest =>
              have hp' := hp.2
              rw [List.cons_append, List.cons_prefix_cons] at hp'
              rcases prefix_joined segments rest h hp'.2 with ⟨front, back, hfb, hne, hj⟩
              exact Or.inr (Or.inr ⟨front, back, hfb, hne, by rw [hp.1, hp'.1, hj]; rfl⟩)

theorem written_ne_here (root : Root) (segments : List Text) (h : ∀ s ∈ segments, IsSegment s) :
    written root segments ≠ here := by
  intro hw
  have hsplit := split_written root segments h
  rw [hw] at hsplit
  have hpieces : [dot] = (Text.joined ['/'] segments).pieces isSlash := congrArg Prod.snd hsplit
  -- Read again, it would have the segment `.`, which a stack in order does not hold.
  by_cases hne : segments = []
  · rw [hne] at hpieces
    exact absurd hpieces (by decide)
  · rw [Text.pieces_joined '/' rfl segments hne
      (fun s hs => free_of_no_slash s (h s hs).no_slash)] at hpieces
    exact (h dot (by rw [← hpieces]; exact List.mem_singleton_self _)).ne_dot rfl

/-- What stands in front of a slash of a normal form is in its normal form, and no current directory
    by its name. -/
theorem normalize_of_prefix_normalize (p lead : Path) (h : lead ++ ['/'] <+: normalize p) :
    normalize lead = lead ∧ lead ≠ here := by
  rcases normalize_cases p with hn | hn | ⟨root, segments, hpiled, _, hn⟩
  · rw [hn, List.prefix_nil] at h
    exact absurd (List.append_eq_nil_iff.mp h).2 (List.cons_ne_nil _ _)
  · rw [hn] at h
    exact absurd (h.subset (List.mem_append_right _ List.mem_cons_self)) (by decide)
  · rw [hn] at h
    have hseg := segments_of_piled root segments hpiled
    -- It is a root, or written from the first of the segments.
    rcases prefix_written root segments lead (fun s hs => (hseg s hs).no_slash) h with
      hl | hl | ⟨front, back, hfb, _, hl⟩
    · rw [hl]
      decide
    · rw [hl]
      decide
    · rw [hfb, List.reverse_append] at hpiled
      rw [hl]
      exact ⟨normalize_written root front (piled_of_append root _ _ hpiled),
        written_ne_here root front (fun s hs => hseg s (by
          rw [hfb]
          exact List.mem_append_left _ hs))⟩

/-- Whatever part of a normal form is cut off at its end, the directory of what is left is in its
    normal form. -/
theorem normalize_parent_of_prefix (p lead : Path) (h : lead <+: normalize p) :
    normalize (Keyed.parent lead) = Keyed.parent lead := by
  rcases upToSlash_cases lead with hup | ⟨front, hup⟩
  · have hpar : Keyed.parent lead = [] := by
      rw [Keyed.parent, directory, hup]
      rfl
    rw [hpar]
    rfl
  · have hpre : front ++ ['/'] <+: normalize p := by
      rw [← hup]
      exact (upToSlash_starts lead).trans h
    rcases normalize_of_prefix_normalize p front hpre with ⟨hfront, hhere⟩
    rw [parent_of_upToSlash lead front hup hhere]
    by_cases h0 : front = []
    · rw [if_pos h0]
      decide
    · rw [if_neg h0]
      exact hfront

end Path

end Maskwalk
