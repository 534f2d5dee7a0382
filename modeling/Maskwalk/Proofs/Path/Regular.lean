import Maskwalk.Proofs.Path.Proper

/-!
# Regular paths

A world of keys is sound as long as its keys are paths that mean one place each: normal forms that
are not on a share and in which no segment is a marker. Such a path is *regular*. Its names may look
absolute, so joining them may go astray, but as texts they are built up from a root, one name after
the other, and that is all a table of keys needs (`isRegular_iff`).

What may be made or removed is a regular path other than the two roots, an *inner* path. Whether the
path of a request leads to one is seen in its normal form.

## Main definitions

* `IsRegular`: normal forms without a share or markers.
* `IsInner`: regular paths that are no root.
* `IsSafe`: paths with an inner normal form, as the text of that form shows.

## Theorems

* `isRegular_iff`: Regular paths are built from names without backslashes.
* `IsRegular.child`: Names lead from regular paths to inner ones.
* `IsSafe.inner`: The normal form of a safe path is inner.
* `IsSafe.ordinary`: It is ordinary if it has no variables and drives in it.
-/

namespace Maskwalk

namespace Path

/-- A normal form that is not on a share and holds no marker. -/
structure IsRegular (p : Path) : Prop where
  normal : normalize p = p
  no_share : ¬ ['/', '/'] <+: p
  no_dot : dot ∉ segments p
  no_dotDot : dotDot ∉ segments p

instance (p : Path) : Decidable (IsRegular p) :=
  decidable_of_iff (normalize p = p ∧ ¬ ['/', '/'] <+: p ∧ dot ∉ segments p ∧ dotDot ∉ segments p)
    ⟨fun h => ⟨h.1, h.2.1, h.2.2.1, h.2.2.2⟩, fun h => ⟨h.1, h.2, h.3, h.4⟩⟩

/-- A regular path that is an entry of some directory. -/
structure IsInner (p : Path) : Prop extends IsRegular p where
  ne_nil : p ≠ []
  ne_root : p ≠ ['/']

/-- A path whose normal form is no root, not on a share, and does not go up. -/
structure IsSafe (p : Path) : Prop where
  ne_nil : normalize p ≠ []
  ne_here : normalize p ≠ here
  ne_root : normalize p ≠ ['/']
  no_share : ¬ ['/', '/'] <+: normalize p
  no_dotDot : dotDot ∉ segments (normalize p)

instance (p : Path) : Decidable (IsSafe p) :=
  decidable_of_iff (normalize p ≠ [] ∧ normalize p ≠ here ∧ normalize p ≠ ['/'] ∧
      ¬ ['/', '/'] <+: normalize p ∧ dotDot ∉ segments (normalize p))
    ⟨fun h => ⟨h.1, h.2.1, h.2.2.1, h.2.2.2.1, h.2.2.2.2⟩, fun h => ⟨h.1, h.2, h.3, h.4, h.5⟩⟩

/-- A path that ordinary worlds can hold is regular. -/
theorem IsOrdinary.regular (p : Path) (h : IsOrdinary p) : IsRegular p :=
  ⟨h.normal, h.no_share, fun hd => (h.plain dot hd).ne_dot rfl,
    fun hd => (h.plain dotDot hd).ne_dotDot rfl⟩

/-- Only what is written on a share starts with two slashes. -/
theorem share_of_prefix_written (root : Root) (segs : List Text) (h : ∀ s ∈ segs, IsSegment s)
    (hp : ['/', '/'] <+: written root segs) : root = .share := by
  have hhead := joined_head segs h
  have hstart : ∀ t : Text, ['/'] <+: t → t.head? = some '/' := by
    rintro t ⟨rest, rfl⟩
    rfl
  cases root with
  | relative => exact absurd (hstart _ ((List.prefix_append ['/'] ['/']).trans hp)) hhead
  | rooted => exact absurd (hstart _ (List.cons_prefix_cons.mp hp).2) hhead
  | share => rfl

theorem inTree_written (root : Root) (segs : List Text) (h : ∀ s ∈ segs, IsSegment s)
    (hd : dotDot ∉ segs) (hr : root ≠ .share) : InTree (written root segs) := by
  refine written_induction root segs h hr InTree InTree.here InTree.root (fun d n hn habove => ?_)
  refine InTree.child habove ⟨(h n hn).ne_nil, (h n hn).no_slash, (h n hn).ne_dot, fun hc => hd ?_⟩
  rw [← hc]
  exact hn

theorem IsRegular.no_backslash {p : Path} (h : IsRegular p) : '\\' ∉ p := by
  rw [← h.normal]
  exact no_backslash_normalize p

theorem IsRegular.inTree (p : Path) (h : IsRegular p) : InTree p := by
  rcases normalize_cases p with hn | hn | ⟨root, segs, hpiled, _, hn⟩
  · rw [← h.normal, hn]
    exact InTree.here
  -- The current directory by its name is a marker.
  · exact absurd (by rw [← h.normal, hn]; decide) h.no_dot
  · rw [h.normal] at hn
    have hseg := segments_of_piled root segs hpiled
    have hshare := h.no_share
    have hup := h.no_dotDot
    rw [hn] at hshare hup ⊢
    rw [mem_segments_written root segs hseg dotDot (by decide)] at hup
    exact inTree_written root segs hseg hup (ne_share_of_written root segs hshare)

/-- Regular paths are those that are built from names without backslashes. -/
theorem isRegular_iff (p : Path) : IsRegular p ↔ InTree p ∧ '\\' ∉ p := by
  refine ⟨fun h => ⟨h.inTree, h.no_backslash⟩, fun ⟨htree, hb⟩ => ?_⟩
  rcases written_of_inTree p htree hb with ⟨root, segs, hr, hpiled, hname, hw⟩
  have hseg := segments_of_piled root segs hpiled
  rw [hw]
  refine ⟨normalize_written root segs hpiled,
    fun hs => hr (share_of_prefix_written root segs hseg hs), fun hs => ?_, fun hs => ?_⟩
  · exact (hname _ ((mem_segments_written root segs hseg dot (by decide)).mp hs)).ne_dot rfl
  · exact (hname _ ((mem_segments_written root segs hseg dotDot (by decide)).mp hs)).ne_dotDot rfl

theorem isRegular_here : IsRegular [] := by decide

theorem isRegular_root : IsRegular ['/'] := by decide

/-- What stands between the slashes of a regular path is nothing or a name. -/
theorem IsRegular.name_of_segment (p : Path) (h : IsRegular p) (s : Text) (hs : s ∈ segments p)
    (hne : s ≠ []) : IsName s ∧ '\\' ∉ s := by
  refine ⟨⟨hne, fun hc => ?_, fun hd => h.no_dot (by rw [← hd]; exact hs),
    fun hd => h.no_dotDot (by rw [← hd]; exact hs)⟩, fun hb => ?_⟩
  · exact absurd (Text.pieces_free _ s hs '/' hc) (by decide)
  · exact h.no_backslash (Text.mem_of_mem_pieces _ s _ hs hb)

/-- Names without backslashes lead from regular paths to inner ones. -/
theorem IsRegular.child (d n : Text) (hd : IsRegular d) (hn : IsName n) (hb : '\\' ∉ n) :
    IsInner (Path.child d n) := by
  refine ⟨(isRegular_iff _).mpr ⟨InTree.child hd.inTree hn, fun hc => ?_⟩,
    child_ne_nil d n hn.ne_nil, child_ne_root d n hn.ne_nil hn.no_slash⟩
  rcases (mem_child d n _).mp hc with hc | hc | hc
  · exact hd.no_backslash hc
  · exact absurd hc.1 (by decide)
  · exact hb hc

/-- An inner path is the entry of some directory. -/
theorem IsInner.eq_child (p : Path) (h : IsInner p) :
    ∃ d n, InTree d ∧ IsName n ∧ p = Path.child d n := by
  cases h.inTree with
  | here => exact absurd rfl h.ne_nil
  | root => exact absurd rfl h.ne_root
  | @child d n hd hn => exact ⟨d, n, hd, hn, rfl⟩

theorem IsInner.of_normalize {p : Path} (h : IsInner p) : IsInner (normalize p) := by
  rw [h.normal]
  exact h

/-- The normal form of a safe path is inner. -/
theorem IsSafe.inner (p : Path) (h : IsSafe p) : IsInner (normalize p) := by
  refine ⟨⟨normalize_normalize p, h.no_share, fun hd => ?_, h.no_dotDot⟩, h.ne_nil, h.ne_root⟩
  rcases normalize_cases p with hn | hn | ⟨root, segs, hpiled, _, hn⟩
  · exact h.ne_nil hn
  · exact h.ne_here hn
  · have hseg := segments_of_piled root segs hpiled
    rw [hn, mem_segments_written root segs hseg dot (by decide)] at hd
    exact (hseg _ hd).ne_dot rfl

/-- The normal form of a safe path without variables and drives is ordinary. -/
theorem IsSafe.ordinary (p : Path) (h : IsSafe p)
    (hplain : ∀ s ∈ segments (normalize p), s.head? ≠ some '$' ∧ startsWithDrive s = false) :
    IsOrdinary (normalize p) := by
  have hregular := (h.inner p).toIsRegular
  refine ⟨hregular.normal, hregular.no_share, fun s hs => ?_⟩
  exact ⟨fun hd => hregular.no_dot (by rw [← hd]; exact hs),
    fun hd => hregular.no_dotDot (by rw [← hd]; exact hs), (hplain s hs).1, (hplain s hs).2⟩

end Path

end Maskwalk
