import Maskwalk.Proofs.Path.Normal
import Mathlib.Data.List.Induction

/-!
# Proper keys

A tree is walked by joining the name of an entry to the path of its directory, and a path is put
into its normal form before it reaches the tree. Neither step knows that the name is a name: a
name that looks absolute takes the place of the directory, and a backslash in a name becomes a
slash. `Proper` collects the keys for which this does no harm. They are built from the current
directory or the root by names without backslashes, none of which looks absolute unless it stands
first in a relative path.

On proper keys the text functions do what they are named for: `join_child` says that joining a
name goes down to the entry, and `normalize_proper` that the normal form is the key itself.

## Main definitions

* `Leads`: names that lead from a directory to the entry they name.
* `InTree`: keys that are built from names of any kind.
* `Proper`: keys on which joining and normal forms do no harm.
* `segments`: the segments of a path, as its text shows them.
* `IsPlain`: segments that do not look like a marker, a variable or a drive.
* `IsOrdinary`: normal forms with plain segments.

## Theorems

* `join_eq_child`, `join_child`: Joining a name to a directory leads to the entry.
* `normalize_proper`: A proper key is in its normal form.
* `written_induction`: What is written from segments is built up entry after entry.
* `proper_of_segments`: A normal form whose segments are all plain is proper.
* `IsOrdinary.of_within`: Whatever an ordinary path is within is ordinary.
-/

namespace Maskwalk

namespace Path

/-- A name that leads from a directory to the entry of that name: it holds no backslash, and only
    in the current directory it may look absolute. -/
structure Leads (d n : Text) : Prop extends IsName n where
  no_backslash : '\\' ∉ n
  relative : d ≠ [] → isAbsolute n = false

/-- Keys that are built from the current directory or the root by names, whatever these hold. -/
inductive InTree : Path → Prop where
  | here : InTree []
  | root : InTree ['/']
  | child {d n : Text} (above : InTree d) (name : IsName n) : InTree (child d n)

/-- Keys that are built from the current directory or the root by names that lead to the entry
    they name. -/
inductive Proper : Path → Prop where
  | here : Proper []
  | root : Proper ['/']
  | child {d n : Text} (above : Proper d) (name : Leads d n) : Proper (child d n)

theorem Proper.inTree (p : Path) (h : Proper p) : InTree p := by
  induction h with
  | here => exact InTree.here
  | root => exact InTree.root
  | @child d n _ name ih => exact InTree.child ih name.toIsName

namespace InTree

theorem ne_here (p : Path) (h : InTree p) : p ≠ Path.here := by
  cases h with
  | here => decide
  | root => decide
  -- Without a directory the name would be `.`, and with one there is a slash in the key.
  | @child d n _ name =>
      intro hc
      by_cases hd : d = []
      · rw [hd] at hc
        exact name.ne_dot hc
      · have hmem := List.mem_append_left n (slash_mem_into d hd)
        rw [show into d ++ n = Path.here from hc] at hmem
        exact absurd hmem (by decide)

theorem eq_root (p : Path) (h : InTree p) (hs : endsWithSlash p = true) : p = ['/'] := by
  cases h with
  | here => exact absurd hs (by decide)
  | root => rfl
  | @child d n _ name =>
      -- The last character of an entry is the last one of its name, which has no slash.
      exfalso
      rw [endsWithSlash, decide_eq_true_eq, Path.child, List.getLast?_append,
        List.getLast?_eq_some_getLast name.ne_nil, Option.some_or, Option.some.injEq] at hs
      exact name.no_slash (by rw [← hs]; exact List.getLast_mem name.ne_nil)

theorem ne_share (p : Path) (h : InTree p) : p ≠ ['/', '/'] := by
  intro hp
  have hroot := eq_root p h (by rw [hp]; decide)
  rw [hroot] at hp
  exact absurd hp (by decide)

/-- The directory and the name of an entry are determined by its key. -/
theorem child_inj (d₁ d₂ n₁ n₂ : Text) (h₁ : InTree d₁) (h₂ : InTree d₂) (hn₁ : IsName n₁)
    (hn₂ : IsName n₂) (h : Path.child d₁ n₁ = Path.child d₂ n₂) : d₁ = d₂ ∧ n₁ = n₂ := by
  -- The directory is read off the key, and what is left is the name.
  have hd : d₁ = d₂ := by
    rw [← parent_child d₁ n₁ hn₁.no_slash (ne_here d₁ h₁), h,
      parent_child d₂ n₂ hn₂.no_slash (ne_here d₂ h₂)]
  rw [hd] at h
  exact ⟨hd, child_inj_name d₂ n₁ n₂ h⟩

end InTree

theorem proper_ne_here (p : Path) (h : Proper p) : p ≠ Path.here := InTree.ne_here p h.inTree

/-- Joining a name to the directory of a tree leads to the entry, unless it is another directory
    than the current one and the name looks absolute. -/
theorem join_eq_child (d n : Text) (hd : InTree d) (hn : n ≠ [])
    (hrel : d ≠ [] → isAbsolute n = false) : join d n = child d n := by
  unfold join
  rw [if_neg hn]
  by_cases h0 : d = []
  · rw [if_pos (Or.inl h0), h0]
    rfl
  · have hstay : ¬ (d = [] ∨ d = Path.here ∨ isAbsolute n = true) := by
      rintro (h | h | h)
      · exact h0 h
      · exact InTree.ne_here d hd h
      · rw [hrel h0] at h
        exact Bool.false_ne_true h
    rw [if_neg hstay]
    -- Joining writes no second slash behind the root.
    by_cases hr : endsWithSlash d = true
    · rw [if_pos hr, InTree.eq_root d hd hr]
      rfl
    · rw [if_neg hr, child, into_of_ne d h0 (fun h => hr (by rw [h]; decide)), List.append_assoc]
      rfl

theorem join_absolute (d n : Text) (hn : n ≠ []) (ha : isAbsolute n = true) : join d n = n := by
  rw [join, if_neg hn, if_pos (Or.inr (Or.inr ha))]

/-- A name that leads from another directory than the current one to the entry does not look
    absolute, since there is no slash in it. -/
theorem relative_of_join (d n : Text) (hn : IsName n) (h : join d n = child d n) (hd : d ≠ []) :
    isAbsolute n = false := by
  by_contra ha
  rw [join_absolute d n hn.ne_nil (Bool.not_eq_false _ ▸ ha)] at h
  exact hn.no_slash (by
    rw [h]
    exact List.mem_append_left _ (slash_mem_into d hd))

/-- Joining a name to a proper directory leads to the entry. -/
theorem join_child (d n : Text) (hd : Proper d) (hn : Leads d n) : join d n = child d n :=
  join_eq_child d n hd.inTree hn.ne_nil hn.relative

/-- The name of an entry with a proper key leads there. -/
theorem Proper.leads (d n : Text) (h : Proper (Path.child d n)) (hd : InTree d) (hn : IsName n) :
    Leads d n := by
  generalize hk : Path.child d n = k at h
  cases h with
  | here => exact absurd hk (child_ne_nil d n hn.ne_nil)
  | root => exact absurd hk (child_ne_root d n hn.ne_nil hn.no_slash)
  | @child d' n' above name =>
      rcases InTree.child_inj d d' n n' hd above.inTree hn name.toIsName hk with ⟨hdd, hnn⟩
      rw [hdd, hnn]
      exact name

/-- One more segment behind a written path is an entry of it. Only the bare root of shares has no
    entries of its own. -/
theorem written_append_singleton (root : Root) (segments : List Text) (n : Text)
    (h : ∀ s ∈ segments, IsSegment s) (hr : root ≠ .share ∨ segments ≠ []) :
    written root (segments ++ [n]) = child (written root segments) n := by
  by_cases hne : segments = []
  · rw [hne]
    cases root with
    | relative => rfl
    | rooted => rfl
    | share => exact absurd rfl (hr.resolve_right (fun hs => hs hne))
  · have hj : Text.joined ['/'] segments ≠ [] := fun hj =>
      hne ((Text.joined_eq_nil_iff _ _ (fun s hs => (h s hs).ne_nil)).mp hj)
    have hnil : written root segments ≠ [] := fun hw => hj (List.append_eq_nil_iff.mp hw).2
    -- Neither case of `into` that drops the slash applies behind a segment.
    have hroot : written root segments ≠ ['/'] := by
      intro hw
      have hhead := joined_head segments h
      cases root with
      | relative =>
          have hw' : Text.joined ['/'] segments = ['/'] := hw
          rw [hw'] at hhead
          exact hhead rfl
      | rooted => exact hj (List.cons.inj hw).2
      | share => exact absurd (List.cons.inj hw).2 (List.cons_ne_nil _ _)
    rw [child, into_of_ne _ hnil hroot, written, Text.joined_append_singleton _ _ _ hne, written]
    simp only [List.append_assoc]

/-- A key that is built from names without backslashes is written from a stack in order. -/
theorem written_of_inTree (p : Path) (h : InTree p) (hb : '\\' ∉ p) : ∃ root segments,
    root ≠ .share ∧ Piled root segments.reverse ∧ (∀ s ∈ segments, IsName s) ∧
      p = written root segments := by
  have hnone : ∀ s ∈ ([] : List Text), IsName s := fun s hs => absurd hs List.not_mem_nil
  induction h with
  | here => exact ⟨.relative, [], by decide, trivial, hnone, rfl⟩
  | root => exact ⟨.rooted, [], by decide, trivial, hnone, rfl⟩
  | @child d n _ name ih =>
      rw [mem_child, not_or, not_or] at hb
      rcases ih hb.1 with ⟨root, segments, hr, hp, hname, hd⟩
      have hseg := segments_of_piled root segments hp
      refine ⟨root, segments ++ [n], hr, ?_, fun s hs => ?_, ?_⟩
      · rw [List.reverse_append]
        exact piled_cons_name root _ n name hb.2.2 hp
      · rcases List.mem_append.mp hs with hs | hs
        · exact hname s hs
        · rw [List.mem_singleton.mp hs]
          exact name
      · rw [written_append_singleton root segments n hseg (Or.inl hr), hd]

theorem Proper.no_backslash {p : Path} (h : Proper p) : '\\' ∉ p := by
  induction h with
  | here => exact List.not_mem_nil
  | root => decide
  | @child d n _ name ih =>
      rw [mem_child, not_or, not_or]
      exact ⟨ih, fun hc => absurd hc.1 (by decide), name.no_backslash⟩

/-- A proper key is in its normal form. -/
theorem normalize_proper (p : Path) (h : Proper p) : normalize p = p := by
  rcases written_of_inTree p h.inTree h.no_backslash with ⟨root, segments, _, hp, _, hw⟩
  rw [hw]
  exact normalize_written root segments hp

/-- The segments of a path, as its text shows them. -/
def segments (p : Path) : List Text := p.pieces isSlash

/-- A segment that does not look like a marker, a variable or a drive. -/
structure IsPlain (s : Text) : Prop where
  ne_dot : s ≠ dot
  ne_dotDot : s ≠ dotDot
  no_variable : s.head? ≠ some '$'
  no_drive : startsWithDrive s = false

instance (s : Text) : Decidable (IsPlain s) :=
  decidable_of_iff (s ≠ dot ∧ s ≠ dotDot ∧ s.head? ≠ some '$' ∧ startsWithDrive s = false)
    ⟨fun h => ⟨h.1, h.2.1, h.2.2.1, h.2.2.2⟩, fun h => ⟨h.1, h.2, h.3, h.4⟩⟩

theorem isAbsolute_eq_false (s : Text) (hs : '/' ∉ s) (hb : '\\' ∉ s) (hv : s.head? ≠ some '$')
    (hd : startsWithDrive s = false) : isAbsolute s = false := by
  cases s with
  | nil => rfl
  | cons c rest =>
      have h1 : c ≠ '/' := fun h => hs (by rw [h]; exact List.mem_cons_self)
      have h2 : c ≠ '\\' := fun h => hb (by rw [h]; exact List.mem_cons_self)
      have h3 : c ≠ '$' := fun h => hv (by rw [h]; rfl)
      simp only [isAbsolute, h1, h2, h3, hd, decide_false, Bool.or_self]

/-- The text of a path shows the segments that it is written from, and besides empty ones for the
    root. -/
theorem mem_segments_written (root : Root) (segs : List Text) (h : ∀ s ∈ segs, IsSegment s)
    (s : Text) (hs : s ≠ []) : s ∈ segments (written root segs) ↔ s ∈ segs := by
  have hjoined : s ∈ (Text.joined ['/'] segs).pieces isSlash ↔ s ∈ segs := by
    by_cases hne : segs = []
    · rw [hne]
      exact iff_of_false (fun hc => hs (List.mem_singleton.mp hc)) List.not_mem_nil
    · rw [Text.pieces_joined '/' rfl segs hne
        (fun t ht => free_of_no_slash t (h t ht).no_slash)]
  -- Each slash of a root has an empty segment in front of it.
  have hslash : ∀ t : Text, s ∈ segments ('/' :: t) ↔ s ∈ segments t := fun t => by
    rw [segments, Text.pieces_sep_cons '/' t rfl, List.mem_cons, or_iff_right hs, segments]
  cases root with
  | relative => exact hjoined
  | rooted => exact (hslash _).trans hjoined
  | share => exact (hslash _).trans ((hslash _).trans hjoined)

/-- What is written from segments is built up from its root, one entry after the other. -/
theorem written_induction (root : Root) (segs : List Text) (h : ∀ s ∈ segs, IsSegment s)
    (hr : root ≠ .share) (motive : Path → Prop) (here : motive []) (rooted : motive ['/'])
    (entry : ∀ d, ∀ n ∈ segs, motive d → motive (child d n)) : motive (written root segs) := by
  -- By induction on the segments from the end, as entries are made.
  induction segs using List.reverseRecOn with
  | nil =>
      cases root with
      | relative => exact here
      | rooted => exact rooted
      | share => exact absurd rfl hr
  | append_singleton pre n ih =>
      have hpre : ∀ s ∈ pre, s ∈ pre ++ [n] := fun s hs => List.mem_append_left _ hs
      rw [written_append_singleton root pre n (fun s hs => h s (hpre s hs)) (Or.inl hr)]
      exact entry _ n (List.mem_append_right _ (List.mem_singleton_self n))
        (ih (fun s hs => h s (hpre s hs)) (fun d m hm => entry d m (hpre m hm)))

theorem proper_written (root : Root) (segs : List Text) (h : ∀ s ∈ segs, IsSegment s)
    (hp : ∀ s ∈ segs, IsPlain s) (hr : root ≠ .share) : Proper (written root segs) := by
  refine written_induction root segs h hr Proper Proper.here Proper.root (fun d n hn hd => ?_)
  have hseg := h n hn
  have hplain := hp n hn
  refine Proper.child hd
    ⟨⟨hseg.ne_nil, hseg.no_slash, hseg.ne_dot, hplain.ne_dotDot⟩, hseg.no_backslash, fun _ => ?_⟩
  exact isAbsolute_eq_false n hseg.no_slash hseg.no_backslash hplain.no_variable hplain.no_drive

/-- A normal form that is not on a share and whose segments are all plain is a proper key. -/
theorem proper_of_segments (p : Path) (hn : normalize p = p) (hs : ¬ ['/', '/'] <+: p)
    (hp : ∀ s ∈ segments p, IsPlain s) : Proper p := by
  rcases normalize_cases p with h | h | ⟨root, segs, hpiled, _, h⟩
  · rw [← hn, h]
    exact Proper.here
  · exfalso
    -- The current directory by its name has the segment `.`.
    have hdot : IsPlain dot := hp dot (by rw [← hn, h]; decide)
    exact hdot.ne_dot rfl
  · rw [hn] at h
    have hseg := segments_of_piled root segs hpiled
    rw [h] at hs hp ⊢
    exact proper_written root segs hseg
      (fun s hs' => hp s ((mem_segments_written root segs hseg s (hseg s hs').ne_nil).mpr hs'))
      (ne_share_of_written root segs hs)

/-- A path that an ordinary world can hold: a normal form that is not on a share, with plain
    segments. -/
structure IsOrdinary (p : Path) : Prop where
  normal : normalize p = p
  no_share : ¬ ['/', '/'] <+: p
  plain : ∀ s ∈ segments p, IsPlain s

theorem IsOrdinary.proper (p : Path) (h : IsOrdinary p) : Proper p :=
  proper_of_segments p h.normal h.no_share h.plain

/-- Whatever a proper key is within is a proper key. -/
theorem proper_of_within (p q : Path) (h : Proper p) (hq : Within q p) : Proper q := by
  induction h with
  | here =>
      rw [(within_here q).mp hq]
      exact Proper.here
  | root =>
      rw [(within_root q).mp hq]
      exact Proper.root
  | @child d n above name ih =>
      rcases (within_child q d n name.ne_nil name.no_slash).mp hq with hq | hq
      · rw [← hq]
        exact Proper.child above name
      · exact ih hq

/-- Whatever an ordinary path is within is ordinary: its segments are among the others. -/
theorem IsOrdinary.of_within (p q : Path) (h : IsOrdinary p) (hq : Within q p) : IsOrdinary q := by
  rcases hq with hq | hq
  · rw [← hq]
    exact h
  · have hproper := proper_of_within p q h.proper (Or.inr hq)
    refine ⟨normalize_proper q hproper, fun hs => ?_, fun s hs => ?_⟩
    · exact h.no_share (hs.trans ((prefix_into q).trans hq.1))
    · by_cases h0 : q = []
      · rw [h0, segments, Text.pieces, List.mem_singleton] at hs
        rw [hs]
        decide
      · by_cases hr : q = ['/']
        · rw [hr] at hs
          have hempty : s = [] := by
            simpa only [segments, Text.pieces, isSlash, decide_true, if_true, List.mem_cons,
              List.not_mem_nil, or_false, or_self] using hs
          rw [hempty]
          decide
        -- Otherwise its text with a slash starts the other, so its segments come first there.
        · rcases hq.1 with ⟨rest, hrest⟩
          rw [into_of_ne q h0 hr, List.append_assoc] at hrest
          refine h.plain s ?_
          rw [← hrest, segments]
          change s ∈ Text.pieces isSlash (q ++ '/' :: rest)
          rw [Text.pieces_append q rest '/' rfl]
          exact List.mem_append_left _ hs

end Path

end Maskwalk
