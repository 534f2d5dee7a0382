import Maskwalk.Proofs.Path.Normal

/-!
# Which texts are normal forms

A stack in order says of each segment what one more step of the fold would do with it. That is what
the fold needs, but a reader of a path has no stack. Here the same is said of the text: a normal
form is a root and segments with one slash between neighbours, and only the segments `..` need a
reason to be there. One stays behind another `..`, behind a segment with a star, and at the start of
a relative path, where there is nothing that it could take away.

`piled_iff_settled` is the passage between the two, by induction on the stack: the segment in front
of the last one is the top of the stack on which the last one is pushed. Since every normal form is
canonical in this sense, and what is canonical is left as it is, normal forms are just the canonical
texts.

## Main definitions

* `KeepsUp`: what has to stand in front of a `..` that stays.
* `Settled`: the segments of a normal form.
* `IsCanonical`: the texts that are normal forms.

## Theorems

* `piled_iff_settled`: A stack is in order if its segments are settled.
* `isCanonical_normalize`: Every normal form is canonical.
* `normalize_eq_self_iff`: A text is its own normal form just if it is canonical.
* `normal_iff_canonical`: Normal forms are just the canonical texts.
-/

namespace Maskwalk

namespace Path

/-- What has to stand in front of a `..` that stays: another `..`, a segment with a star, or nothing
    at all, in a relative path. -/
def KeepsUp (root : Root) : Option Text → Prop
  | none => root = .relative
  | some s => s = dotDot ∨ '*' ∈ s

/-- The segments of a normal form: none is empty, a dot, or holds a slash or a backslash, and every
    `..` has a reason to stay. -/
structure Settled (root : Root) (segments : List Text) : Prop where
  proper : ∀ s ∈ segments, IsSegment s
  up : ∀ front back, segments = front ++ dotDot :: back → KeepsUp root front.getLast?

/-- The texts that are normal forms: the empty one, the current directory, and a root with settled
    segments behind it, at least one if the path is relative. -/
def IsCanonical (c : Path) : Prop :=
  c = [] ∨ c = here ∨ ∃ root segments, (root = .relative → segments ≠ []) ∧
    Settled root segments ∧ c = written root segments

/-- A `..` goes on top of a stack just if it has a reason to stay there. -/
theorem push_dotDot_eq_iff (root : Root) (stack : List Text) :
    push root stack dotDot = dotDot :: stack ↔ KeepsUp root stack.head? := by
  cases stack with
  | nil =>
      rw [push_dotDot_nil, List.head?_nil, KeepsUp]
      by_cases hr : root = .relative
      · exact iff_of_true (if_pos hr) hr
      · rw [if_neg hr]
        exact iff_of_false (fun h => List.cons_ne_nil _ _ h.symm) hr
  | cons top below =>
      rw [push_dotDot_cons, List.head?_cons, KeepsUp]
      by_cases hy : yields top = true
      -- What yields is taken away, and the stack is shorter than it would be.
      · rw [if_pos hy]
        rw [yields_iff] at hy
        refine iff_of_false (fun h => ?_) (fun h => h.elim hy.1 hy.2)
        have hlen := congrArg List.length h
        simp only [List.length_cons] at hlen
        omega
      · rw [if_neg hy]
        rw [yields_iff, not_and_or, not_not, not_not] at hy
        exact iff_of_true rfl hy

/-- A segment goes on top of a stack just if it is no `..` or has a reason to stay there. -/
theorem push_eq_cons_iff (root : Root) (stack : List Text) (s : Text) (hs : IsSegment s) :
    push root stack s = s :: stack ↔ (s = dotDot → KeepsUp root stack.head?) := by
  by_cases hup : s = dotDot
  · rw [hup, push_dotDot_eq_iff]
    exact ⟨fun h _ => h, fun h => h rfl⟩
  · have hskip : ¬ (s = [] ∨ s = dot) := fun h => h.elim hs.ne_nil hs.ne_dot
    exact iff_of_true (push_name root stack s hskip hup) (fun h => absurd h hup)

/-- Segments with one more at the end are settled if they are, and if the last one may follow. -/
theorem settled_concat (root : Root) (segments : List Text) (s : Text) :
    Settled root (segments ++ [s]) ↔
      Settled root segments ∧ IsSegment s ∧ (s = dotDot → KeepsUp root segments.getLast?) := by
  constructor
  · intro h
    refine ⟨⟨fun t ht => h.proper t (List.mem_append_left _ ht), fun front back hsplit => ?_⟩,
      h.proper s (List.mem_append_right _ (List.mem_singleton_self s)), fun hup => ?_⟩
    · exact h.up front (back ++ [s]) (by rw [hsplit, List.append_assoc, List.cons_append])
    · exact h.up segments [] (by rw [hup])
  · rintro ⟨h, hs, hlast⟩
    refine ⟨fun t ht => ?_, fun front back hsplit => ?_⟩
    · rcases List.mem_append.mp ht with ht | ht
      · exact h.proper t ht
      · rw [List.mem_singleton.mp ht]
        exact hs
    -- A `..` is the last segment, or it stands among the others.
    · rcases List.eq_nil_or_concat back with hback | ⟨more, last, hback⟩
      · rw [hback] at hsplit
        rcases List.append_inj' hsplit rfl with ⟨hfront, hup⟩
        rw [← hfront]
        exact hlast (List.cons.inj hup).1
      · rw [hback, List.concat_eq_append, ← List.cons_append, ← List.append_assoc] at hsplit
        exact h.up front more (List.append_inj' hsplit rfl).1

/-- A stack is in order just if its segments, read from the bottom, are settled. -/
theorem piled_iff_settled (root : Root) (stack : List Text) :
    Piled root stack ↔ Settled root stack.reverse := by
  induction stack with
  | nil =>
      refine iff_of_true trivial ⟨fun s hs => absurd hs List.not_mem_nil, fun front back h => ?_⟩
      exact absurd h.symm (List.append_ne_nil_of_right_ne_nil _ (List.cons_ne_nil _ _))
  | cons top below ih =>
      -- The top of the stack below is the segment in front.
      rw [List.reverse_cons, settled_concat, List.getLast?_reverse, ← ih]
      constructor
      · rintro ⟨htop, hpush, hbelow⟩
        exact ⟨hbelow, htop, (push_eq_cons_iff root below top htop).mp hpush⟩
      · rintro ⟨hbelow, htop, hstay⟩
        exact ⟨htop, (push_eq_cons_iff root below top htop).mpr hstay, hbelow⟩

theorem isCanonical_normalize (p : Path) : IsCanonical (normalize p) := by
  rcases normalize_cases p with h | h | ⟨root, segments, hpiled, hnil, h⟩
  · exact Or.inl h
  · exact Or.inr (Or.inl h)
  · rw [piled_iff_settled, List.reverse_reverse] at hpiled
    refine Or.inr (Or.inr ⟨root, segments, fun hr hs => hnil ?_, hpiled, h⟩)
    rw [hr, hs]
    rfl

theorem normalize_of_isCanonical (c : Path) (h : IsCanonical c) : normalize c = c := by
  rcases h with h | h | ⟨root, segments, _, hsettled, h⟩
  · rw [h]
    rfl
  · rw [h]
    decide
  · rw [h]
    refine normalize_written root segments ?_
    rw [piled_iff_settled, List.reverse_reverse]
    exact hsettled

/-- A text is its own normal form just if it is canonical. -/
theorem normalize_eq_self_iff (c : Path) : normalize c = c ↔ IsCanonical c := by
  refine ⟨fun h => ?_, normalize_of_isCanonical c⟩
  rw [← h]
  exact isCanonical_normalize c

instance (c : Path) : Decidable (IsCanonical c) := decidable_of_iff _ (normalize_eq_self_iff c)

/-- Every normal form is canonical, a text is its own normal form just if it is canonical, and so a
    normal form is its own normal form. -/
theorem normal_iff_canonical :
    (∀ p, IsCanonical (normalize p)) ∧ (∀ c, normalize c = c ↔ IsCanonical c) ∧
      ∀ p, normalize (normalize p) = normalize p :=
  ⟨isCanonical_normalize, normalize_eq_self_iff,
    fun p => (normalize_eq_self_iff _).mpr (isCanonical_normalize p)⟩

/-- A `..` stays behind a star and at the start of a relative path, but not at a root. -/
example : IsCanonical "../../a/*/../b".toList ∧ ¬ IsCanonical "/../b".toList := by decide

end Path

end Maskwalk
