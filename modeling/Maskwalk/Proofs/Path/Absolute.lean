import Maskwalk.Proofs.Path.Meaning

/-!
# Whether a normal form is absolute

A path is absolute if it starts at a root, a drive or a variable. The root is kept apart from the
segments, and no `..` takes it away. A drive and a variable are segments like any other, and a `..`
does take them away: the normal form of `C:/..` is that of the current directory.

What goes away from the start of a path is a run of segments that cancel: every name in it is taken
away by a `..` of its own, like an opening bracket by a closing one. So each path can be cut behind
the longest such run at its start, and the segment behind the cut is the first one of its normal
form. This decides whether the normal form of a relative spelling is absolute.

That a run cancels if nothing is left of it is shown by following the fold: the segments on the
stack are the ones whose bracket is still open, and whatever lies between two of them cancels
(`Leaves`).

## Main definitions

* `Cancels`: segments that take each other away.
* `Leaves`: the segments on a stack, and what lies between them.
* `CutAt`: segments cut behind the longest run at their start that cancels.

## Theorems

* `cancels_iff`: Segments cancel if a fold leaves nothing of them.
* `CutAt.head?_fold`: The first segment that a fold leaves stands behind the cut.
* `isAbsolute_render`: A normal form is absolute if its first segment is.
* `isAbsolute_normalize_iff`: Whether a normal form is absolute.
* `absolute_unless_cancelled`: When the normal form of an absolute path is absolute.
-/

namespace Maskwalk

namespace Path

/-- Segments that take each other away: empty ones and dots, and names that a `..` of their own
    takes away, with whatever stands between the two. -/
inductive Cancels : List Text → Prop where
  | nil : Cancels []
  | skip {s : Text} {more : List Text} (blank : s = [] ∨ s = dot) (rest : Cancels more) :
      Cancels (s :: more)
  | pair {n : Text} {inner more : List Text} (name : ¬ (n = [] ∨ n = dot)) (gives : yields n = true)
      (inside : Cancels inner) (rest : Cancels more) : Cancels (n :: (inner ++ dotDot :: more))

/-- Segments cut behind the longest run at their start that cancels. -/
structure CutAt (segs front back : List Text) : Prop where
  cut : segs = front ++ back
  gone : Cancels front
  longest : ∀ more, more ≠ [] → more <+: back → ¬ Cancels (front ++ more)

theorem Cancels.append {front back : List Text} (hf : Cancels front) (hb : Cancels back) :
    Cancels (front ++ back) := by
  induction hf with
  | nil => exact hb
  | skip blank _ ih => exact .skip blank ih
  | pair name gives inside _ _ ih =>
      rw [List.cons_append, List.append_assoc, List.cons_append]
      exact .pair name gives inside ih

/-- Reading segments that cancel leaves a stack as it is. -/
theorem foldl_push_of_cancels (root : Root) (run : List Text) (h : Cancels run) :
    ∀ stack, run.foldl (push root) stack = stack := by
  induction h with
  | nil => exact fun stack => rfl
  | skip blank _ ih =>
      intro stack
      rw [List.foldl_cons, push_skip root stack _ blank, ih]
  | @pair n inner more name gives _ _ ihInner ihMore =>
      intro stack
      -- The name goes on top, and is on top again when its own `..` comes.
      rw [List.foldl_cons, push_name root stack n name (((yields_iff n).mp gives).1),
        List.foldl_append, ihInner, List.foldl_cons, push_dotDot_cons, if_pos gives, ihMore]

/-- Segments and the stack that they leave: the segments on it, the last one first, with runs that
    cancel in front of them and behind. -/
inductive Leaves : List Text → List Text → Prop where
  | nothing {front : List Text} (gone : Cancels front) : Leaves front []
  | one {segs stack behind : List Text} {s : Text} (under : Leaves segs stack)
      (name : ¬ (s = [] ∨ s = dot)) (gone : Cancels behind) :
      Leaves (segs ++ s :: behind) (s :: stack)

theorem Leaves.append {segs stack run : List Text} (h : Leaves segs stack) (hr : Cancels run) :
    Leaves (segs ++ run) stack := by
  cases h with
  | nothing gone => exact .nothing (gone.append hr)
  | one under name gone =>
      rw [List.append_assoc, List.cons_append]
      exact .one under name (gone.append hr)

/-- What a fold leaves of the segments of a relative path. -/
theorem leaves_foldl (segs : List Text) : Leaves segs (segs.foldl (push .relative) []) := by
  induction segs using List.reverseRecOn with
  | nil => exact .nothing .nil
  | append_singleton segs s ih =>
      rw [List.foldl_concat]
      by_cases hskip : s = [] ∨ s = dot
      · rw [push_skip _ _ s hskip]
        exact ih.append (.skip hskip .nil)
      by_cases hup : s = dotDot
      · cases hs : segs.foldl (push .relative) [] with
        | nil =>
            rw [hs] at ih
            rw [hup, push_dotDot_nil, if_pos rfl, ← hup]
            exact .one ih hskip .nil
        | cons top below =>
            rw [hs] at ih
            rw [hup, push_dotDot_cons, ← hup]
            by_cases hy : yields top = true
            -- The top goes away now, with all that lies behind it.
            · rw [if_pos hy]
              cases ih with
              | one under name gone =>
                  rw [List.append_assoc, List.cons_append, hup]
                  exact under.append (.pair name hy gone .nil)
            · rw [if_neg hy]
              exact .one ih hskip .nil
      · rw [push_name _ _ s hskip hup]
        exact .one ih hskip .nil

/-- Segments cancel just if a fold leaves nothing of them. -/
theorem cancels_iff (segs : List Text) : Cancels segs ↔ segs.foldl (push .relative) [] = [] := by
  refine ⟨fun h => foldl_push_of_cancels .relative segs h [], fun h => ?_⟩
  have hleaves := leaves_foldl segs
  rw [h] at hleaves
  cases hleaves with
  | nothing gone => exact gone

instance (segs : List Text) : Decidable (Cancels segs) := decidable_of_iff _ (cancels_iff segs).symm

/-- All segments can be cut behind the longest run at their start that cancels. -/
theorem exists_cutAt (segs : List Text) : ∃ front back, CutAt segs front back := by
  induction segs using List.reverseRecOn with
  | nil => exact ⟨[], [], rfl, .nil, fun more hne hp => absurd (List.prefix_nil.mp hp) hne⟩
  | append_singleton segs s ih =>
      by_cases hall : Cancels (segs ++ [s])
      · exact ⟨segs ++ [s], [], (List.append_nil _).symm, hall,
          fun more hne hp => absurd (List.prefix_nil.mp hp) hne⟩
      · rcases ih with ⟨front, back, hcut⟩
        refine ⟨front, back ++ [s], by rw [hcut.cut, List.append_assoc], hcut.gone,
          fun more hne hp => ?_⟩
        rcases List.prefix_concat_iff.mp hp with hp | hp
        · rw [hp, ← List.append_assoc, ← hcut.cut]
          exact hall
        · exact hcut.longest more hne hp

/-- One more segment leaves the bottom of a stack as it is, unless it leaves nothing. -/
theorem getLast?_push (root : Root) (stack : List Text) (s : Text) (hne : stack ≠ [])
    (h : push root stack s ≠ []) : (push root stack s).getLast? = stack.getLast? := by
  cases stack with
  | nil => exact absurd rfl hne
  | cons top below =>
      by_cases hskip : s = [] ∨ s = dot
      · rw [push_skip root _ s hskip]
      by_cases hup : s = dotDot
      · rw [hup, push_dotDot_cons] at h ⊢
        by_cases hy : yields top = true
        · rw [if_pos hy] at h ⊢
          rw [List.getLast?_cons_of_ne_nil h]
        · rw [if_neg hy, List.getLast?_cons_of_ne_nil (List.cons_ne_nil _ _)]
      · rw [push_name root _ s hskip hup, List.getLast?_cons_of_ne_nil (List.cons_ne_nil _ _)]

theorem push_relative_nil (s : Text) (h : push .relative [] s ≠ []) :
    push .relative [] s = [s] := by
  by_cases hskip : s = [] ∨ s = dot
  · exact absurd (push_skip _ _ s hskip) h
  by_cases hup : s = dotDot
  · rw [hup, push_dotDot_nil, if_pos rfl]
  · exact push_name _ _ s hskip hup

/-- The first segment that a fold leaves is the one behind the cut. -/
theorem CutAt.head?_fold {segs front back : List Text} (h : CutAt segs front back) :
    (fold .relative segs).head? = back.head? := by
  rw [fold, List.head?_reverse, h.cut, List.foldl_append, foldl_push_of_cancels _ _ h.gone]
  -- Nothing behind the cut takes the bottom of the stack away, or a longer run would cancel.
  have hleft : ∀ more, more ≠ [] → more <+: back → more.foldl (push .relative) [] ≠ [] := by
    intro more hne hp hnil
    refine h.longest more hne hp (h.gone.append ?_)
    rwa [cancels_iff]
  have hbottom : ∀ more, more <+: back →
      (more.foldl (push .relative) []).getLast? = more.head? := by
    intro more
    induction more using List.reverseRecOn with
    | nil => exact fun _ => rfl
    | append_singleton more s ih =>
        intro hp
        have hall := hleft (more ++ [s])
          (List.append_ne_nil_of_right_ne_nil _ (List.cons_ne_nil _ _))
          hp
        rw [List.foldl_concat] at hall ⊢
        have hpre := (List.prefix_append more [s]).trans hp
        by_cases hm : more = []
        · rw [hm] at hall ⊢
          rw [List.foldl_nil, push_relative_nil s hall]
          rfl
        · rw [getLast?_push _ _ s (hleft more hm hpre) hall, ih hpre,
            List.head?_append_of_ne_nil _ hm]
  exact hbottom back List.prefix_rfl

theorem startsWithDrive_cons (c d : Char) (rest : Text) :
    startsWithDrive (c :: d :: rest) = (decide (d = ':') && c.isAlpha) := by
  by_cases hd : d = ':'
  · rw [hd]
    rfl
  · rw [decide_eq_false hd, Bool.false_and]
    unfold startsWithDrive
    split
    · rename_i heq
      exact absurd (List.cons.inj (List.cons.inj heq).2).1 hd
    · rfl

/-- What follows a segment does not matter to whether a path is absolute. -/
theorem isAbsolute_append (s rest : Text) (hs : s ≠ []) (hr : rest = [] ∨ rest.head? = some '/') :
    isAbsolute (s ++ rest) = isAbsolute s := by
  rcases hr with hr | hr
  · rw [hr, List.append_nil]
  · rcases List.head?_eq_some_iff.mp hr with ⟨more, hmore⟩
    rw [hmore]
    match s, hs with
    | [c], _ => rfl
    | c :: d :: others, _ =>
        simp only [isAbsolute, List.cons_append, startsWithDrive_cons]

/-- The first segment of a text, and what follows it. -/
theorem exists_first_segment (t : Text) : ∃ first rest, t = first ++ rest ∧
    (rest = [] ∨ rest.head? = some '/') ∧ (segments t).head? = some first := by
  by_cases hmem : '/' ∈ t
  · rcases List.eq_append_cons_of_mem hmem with ⟨first, rest, ht, hfree⟩
    refine ⟨first, '/' :: rest, ht, Or.inr rfl, ?_⟩
    rw [ht, segments, Text.pieces_append_sep first rest '/' rfl (free_of_no_slash first hfree)]
    rfl
  · refine ⟨t, [], (List.append_nil t).symm, Or.inl rfl, ?_⟩
    rw [segments, Text.pieces_of_free t (free_of_no_slash t hmem)]
    rfl

theorem forward_eq_colon (c : Char) : forward c = ':' ↔ c = ':' := by
  rw [forward]
  split
  · rename_i hc
    rw [hc]
    decide
  · rfl

/-- Slashes for backslashes do not matter to whether a path is absolute. -/
theorem isAbsolute_map_forward (p : Path) : isAbsolute (p.map forward) = isAbsolute p := by
  cases p with
  | nil => rfl
  | cons c rest =>
      by_cases hc : c = '\\'
      · rw [hc]
        rfl
      · have hstay : forward c = c := if_neg hc
        rw [List.map_cons, hstay]
        cases rest with
        | nil => rfl
        | cons d more =>
            simp only [isAbsolute, List.map_cons, startsWithDrive_cons, forward_eq_colon]

/-- A relative normal form is absolute just if its first segment is. -/
theorem isAbsolute_render (segs : List Text) (h : ∀ s ∈ segs, IsSegment s) :
    isAbsolute (render .relative segs) = segs.head?.any isAbsolute := by
  cases segs with
  | nil => rfl
  | cons s more =>
      have hs := (h s List.mem_cons_self).ne_nil
      have hw : ∃ rest, written .relative (s :: more) = s ++ rest ∧
          (rest = [] ∨ rest.head? = some '/') := by
        by_cases hm : more = []
        · exact ⟨[], by rw [hm, List.append_nil]; rfl, Or.inl rfl⟩
        · refine ⟨'/' :: Text.joined ['/'] more, ?_, Or.inr rfl⟩
          rw [written, Text.joined_cons _ _ _ hm, List.append_assoc]
          rfl
      rcases hw with ⟨rest, hw, hr⟩
      have hne : written .relative (s :: more) ≠ [] := by
        rw [hw]
        exact List.append_ne_nil_of_left_ne_nil hs _
      rw [render_of_written _ _ hne, hw, isAbsolute_append s rest hs hr]
      rfl

/-- The normal form of a path that starts at a root does so too. -/
theorem isAbsolute_of_kind (p : Path) (h : kind p ≠ .relative) :
    isAbsolute (normalize p) = true := by
  have hp : p ≠ [] := fun hp => h (by rw [hp]; rfl)
  rw [kind_eq_split] at h
  rw [normalize_of_ne_nil p hp]
  cases hr : (split p).1 with
  | relative => exact absurd hr h
  | rooted => rfl
  | share => rfl

/-- A path that starts at no root has the segments that its text shows. -/
theorem split_of_relative (p : Path) (h : kind p = .relative) :
    split p = (.relative, segments (p.map forward)) := by
  rw [kind_eq_split] at h
  rcases rootOf_cases (p.map forward) with ⟨_, hr⟩ | ⟨_, hr, _⟩ | ⟨ht, _, _⟩
  · exact absurd (hr.symm.trans h) (by decide)
  · exact absurd (hr.symm.trans h) (by decide)
  · exact Prod.ext h (congrArg segments ht.symm)

/-- The normal form of a path that starts at no root is absolute just if the first segment is that a
    fold leaves. -/
theorem isAbsolute_normalize_relative (p : Path) (h : kind p = .relative) :
    isAbsolute (normalize p)
      = (fold .relative (segments (p.map forward))).head?.any isAbsolute := by
  by_cases hp : p = []
  · rw [hp]
    rfl
  · have hpiled := fold_split_piled p
    rw [normalize_of_ne_nil p hp]
    rw [split_of_relative p h] at hpiled ⊢
    exact isAbsolute_render _ (segments_of_piled _ _ hpiled)

theorem isAbsolute_normalize_iff (p : Path) : isAbsolute (normalize p) = true ↔
    kind p ≠ .relative ∨ ∃ front s back,
      CutAt (segments (p.map forward)) front (s :: back) ∧ isAbsolute s = true := by
  by_cases hk : kind p = .relative
  · rw [isAbsolute_normalize_relative p hk, or_iff_right (not_not.mpr hk)]
    constructor
    · intro h
      rcases exists_cutAt (segments (p.map forward)) with ⟨front, back, hcut⟩
      rw [hcut.head?_fold] at h
      cases back with
      | nil => exact absurd h Bool.false_ne_true
      | cons s back => exact ⟨front, s, back, hcut, h⟩
    · rintro ⟨front, s, back, hcut, hs⟩
      rw [hcut.head?_fold]
      exact hs
  · exact iff_of_true (isAbsolute_of_kind p hk) (Or.inl hk)

/-- An absolute path that starts at no root starts with an absolute segment. -/
theorem exists_absolute_segment (p : Path) (h : isAbsolute p = true) (hk : kind p = .relative) :
    ∃ s back, segments (p.map forward) = s :: back ∧ isAbsolute s = true := by
  rcases exists_first_segment (p.map forward) with ⟨first, rest, ht, hrest, hhead⟩
  rcases List.head?_eq_some_iff.mp hhead with ⟨back, hsegs⟩
  refine ⟨first, back, hsegs, ?_⟩
  rw [← isAbsolute_map_forward, ht] at h
  have hne : first ≠ [] := by
    intro hf
    rw [hf, List.nil_append] at h ht
    rcases hrest with hr | hr
    · rw [hr] at h
      exact Bool.false_ne_true h
    -- A path whose first segment is empty starts with a slash.
    · rcases List.head?_eq_some_iff.mp hr with ⟨more, hmore⟩
      rw [kind, ht, hmore] at hk
      split at hk
      · exact absurd hk (by decide)
      · rw [if_pos ⟨more, rfl⟩] at hk
        exact absurd hk (by decide)
  rw [isAbsolute_append first rest hne hrest] at h
  exact h

/-- The normal form of an absolute path is absolute, unless the path starts at a drive or a variable
    and its segments cancel from there on. In any case, a normal form is absolute just if its path
    starts at a root, or if the segment behind all that cancels at its start is absolute. -/
theorem absolute_unless_cancelled (p : Path) :
    (isAbsolute p = true → (kind p = .relative → ∀ front, front ≠ [] →
        front <+: segments (p.map forward) → ¬ Cancels front) →
      isAbsolute (normalize p) = true) ∧
    (isAbsolute (normalize p) = true ↔ kind p ≠ .relative ∨ ∃ front s back,
      CutAt (segments (p.map forward)) front (s :: back) ∧ isAbsolute s = true) := by
  refine ⟨fun h hstay => ?_, isAbsolute_normalize_iff p⟩
  rw [isAbsolute_normalize_iff]
  by_cases hk : kind p = .relative
  · rcases exists_absolute_segment p h hk with ⟨s, back, hsegs, hs⟩
    refine Or.inr ⟨[], s, back, ⟨hsegs, .nil, fun more hne hp => ?_⟩, hs⟩
    rw [List.nil_append]
    exact hstay hk more hne (by rw [hsegs]; exact hp)
  · exact Or.inl hk

/-- A drive stays while what goes up behind it has a name to take away. With one `..` more the path
    is still absolute, and its normal form is not. -/
theorem absolute_unless_cancelled_drive :
    isAbsolute (normalize "C:\\a\\..".toList) = true ∧
    isAbsolute "C:\\a\\..\\..".toList = true ∧
      isAbsolute (normalize "C:\\a\\..\\..".toList) = false :=
  ⟨(absolute_unless_cancelled "C:\\a\\..".toList).1 (by decide) (fun _ front hne hp => by
    have hall : ∀ f ∈ (segments ("C:\\a\\..".toList.map forward)).inits, f ≠ [] → ¬ Cancels f := by
      decide
    exact hall front ((List.mem_inits _ _).mpr hp) hne), by decide, by decide⟩

end Path

end Maskwalk
