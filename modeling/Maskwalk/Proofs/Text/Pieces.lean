import Maskwalk.Text.Basic

/-!
# Pieces of a text and their join

Cutting a text at its separators and joining pieces with a separator undo each other. Every piece
is free of separators, so the cut of a join gives the pieces back as they were, and since a cut
loses nothing but the separators, the join of a cut gives back the text.

Both directions rest on one equation: a separator cuts a text in two (`pieces_append`). So a piece
in front of a separator is the first piece of the text, whatever follows.

## Theorems

* `pieces_ne_nil`: A text has at least one piece.
* `pieces_free`: No piece holds a separator.
* `infix_of_mem_pieces`: A piece stands somewhere in the text.
* `mem_of_mem_pieces`: So it holds characters of the text only.
* `exists_piece_of_mem`: Nothing but separators is lost.
* `pieces_of_free`: A text without separators is its only piece.
* `pieces_append`: A separator cuts a text.
* `pieces_append_sep`: A piece in front of a separator is cut off first.
* `pieces_joined`: Cutting undoes joining.
* `joined_append_singleton`: One more piece at the end.
* `mem_joined`: The characters of a join.
* `joined_eq_nil_iff`: A join of proper pieces is empty only without pieces.
-/

namespace Maskwalk

namespace Text

variable {isSep : Char → Bool}

theorem pieces_ne_nil (t : Text) : pieces isSep t ≠ [] := by
  cases t with
  | nil => simp only [pieces, ne_eq, List.cons_ne_self, not_false_eq_true]
  | cons c rest =>
      unfold pieces
      by_cases hc : isSep c = true
      · rw [if_pos hc]
        exact List.cons_ne_nil _ _
      · rw [if_neg hc]
        cases pieces isSep rest with
        | nil => exact List.cons_ne_nil _ _
        | cons piece more => exact List.cons_ne_nil _ _

/-- A character that is no separator goes in front of the first piece. -/
theorem pieces_cons_of_free (c : Char) (rest : Text) (hc : isSep c = false) : ∃ first more,
    pieces isSep rest = first :: more ∧ pieces isSep (c :: rest) = (c :: first) :: more := by
  cases hr : pieces isSep rest with
  | nil => exact absurd hr (pieces_ne_nil rest)
  | cons first more =>
      refine ⟨first, more, rfl, ?_⟩
      rw [pieces, if_neg (Bool.eq_false_iff.mp hc), hr]

/-- The first piece stands at the start of the text. -/
theorem first_piece_starts (t first : Text) (more : List Text)
    (h : pieces isSep t = first :: more) : first <+: t := by
  induction t generalizing first more with
  | nil =>
      rw [pieces, List.cons.injEq] at h
      cases h.1
      exact List.prefix_rfl
  | cons a rest ih =>
      cases ha : isSep a with
      | true =>
          rw [pieces, if_pos ha, List.cons.injEq] at h
          rw [← h.1]
          exact List.nil_prefix
      | false =>
          rcases pieces_cons_of_free a rest ha with ⟨piece, others, hr, hcons⟩
          rw [hcons, List.cons.injEq] at h
          rw [← h.1, List.prefix_cons_inj]
          exact ih piece others hr

/-- So it starts like the text, unless it is empty. -/
theorem head?_of_pieces (t first : Text) (more : List Text)
    (h : pieces isSep t = first :: more) : first = [] ∨ first.head? = t.head? := by
  rcases first_piece_starts t first more h with ⟨rest, hrest⟩
  cases first with
  | nil => exact Or.inl rfl
  | cons c first =>
      rw [← hrest]
      exact Or.inr rfl

theorem pieces_free (t : Text) : ∀ piece ∈ pieces isSep t, ∀ c ∈ piece, isSep c = false := by
  induction t with
  | nil =>
      intro piece hp c hc
      rw [pieces, List.mem_singleton] at hp
      rw [hp] at hc
      exact absurd hc List.not_mem_nil
  | cons a rest ih =>
      intro piece hp
      cases ha : isSep a with
      | true =>
          rw [pieces, if_pos ha, List.mem_cons] at hp
          rcases hp with rfl | hp
          · intro c hc
            exact absurd hc List.not_mem_nil
          · exact ih piece hp
      | false =>
          rcases pieces_cons_of_free a rest ha with ⟨first, more, hr, hcons⟩
          rw [hr] at ih
          rw [hcons] at hp
          rcases List.mem_cons.mp hp with rfl | hp
          · intro c hc
            rcases List.mem_cons.mp hc with rfl | hc
            · exact ha
            · exact ih first List.mem_cons_self c hc
          · exact ih piece (List.mem_cons_of_mem _ hp)

/-- Every piece stands somewhere in the text. -/
theorem infix_of_mem_pieces (t : Text) : ∀ piece ∈ pieces isSep t, piece <:+: t := by
  induction t with
  | nil =>
      intro piece hp
      rw [pieces, List.mem_singleton] at hp
      cases hp
      exact List.infix_rfl
  | cons a rest ih =>
      intro piece hp
      cases ha : isSep a with
      | true =>
          rw [pieces, if_pos ha, List.mem_cons] at hp
          rcases hp with rfl | hp
          · exact List.nil_infix
          · exact List.infix_cons (ih piece hp)
      | false =>
          rcases pieces_cons_of_free a rest ha with ⟨first, more, hr, hcons⟩
          rw [hcons] at hp
          rcases List.mem_cons.mp hp with rfl | hp
          · exact (first_piece_starts _ _ more hcons).isInfix
          · exact List.infix_cons (ih piece (by rw [hr]; exact List.mem_cons_of_mem _ hp))

theorem mem_of_mem_pieces (t piece : Text) (c : Char) (hp : piece ∈ pieces isSep t)
    (hc : c ∈ piece) : c ∈ t :=
  (infix_of_mem_pieces t piece hp).subset hc

/-- What is no separator goes into some piece. -/
theorem exists_piece_of_mem (t : Text) (c : Char) (hc : c ∈ t) (hsep : isSep c = false) :
    ∃ piece ∈ pieces isSep t, c ∈ piece := by
  induction t with
  | nil => exact absurd hc List.not_mem_nil
  | cons a rest ih =>
      cases ha : isSep a with
      | true =>
          rw [pieces, if_pos ha]
          have hne : c ≠ a := fun h0 => by
            rw [h0, ha] at hsep
            exact Bool.false_ne_true hsep.symm
          rcases ih (List.mem_of_ne_of_mem hne hc) with ⟨piece, hp, hcp⟩
          exact ⟨piece, List.mem_cons_of_mem _ hp, hcp⟩
      | false =>
          rcases pieces_cons_of_free a rest ha with ⟨first, more, hr, hcons⟩
          rw [hr] at ih
          rw [hcons]
          rcases List.mem_cons.mp hc with rfl | hc
          · exact ⟨_, List.mem_cons_self, List.mem_cons_self⟩
          · rcases ih hc with ⟨piece, hp, hcp⟩
            rcases List.mem_cons.mp hp with rfl | hp
            · exact ⟨_, List.mem_cons_self, List.mem_cons_of_mem _ hcp⟩
            · exact ⟨piece, List.mem_cons_of_mem _ hp, hcp⟩

theorem pieces_of_free (t : Text) (h : ∀ c ∈ t, isSep c = false) : pieces isSep t = [t] := by
  induction t with
  | nil => rfl
  | cons c rest ih =>
      have hc : ¬ isSep c = true := by rw [h c List.mem_cons_self]; exact Bool.false_ne_true
      rw [pieces, if_neg hc, ih (fun d hd => h d (List.mem_cons_of_mem _ hd))]

/-- There is nothing in front of a separator that a text starts with. -/
theorem pieces_sep_cons (s : Char) (rest : Text) (hs : isSep s = true) :
    pieces isSep (s :: rest) = [] :: pieces isSep rest := by
  rw [pieces, if_pos hs]

/-- A separator cuts a text: the pieces are those in front of it and those behind it. -/
theorem pieces_append (front rest : Text) (s : Char) (hs : isSep s = true) :
    pieces isSep (front ++ s :: rest) = pieces isSep front ++ pieces isSep rest := by
  induction front with
  | nil =>
      rw [List.nil_append]
      exact if_pos hs
  | cons c more ih =>
      rw [List.cons_append, pieces, pieces, ih]
      by_cases hc : isSep c = true
      · rw [if_pos hc, if_pos hc, List.cons_append]
      · rw [if_neg hc, if_neg hc]
        -- The character belongs to the first piece on both sides.
        cases hm : pieces isSep more with
        | nil => exact absurd hm (pieces_ne_nil more)
        | cons piece others => rfl

/-- A piece in front of a separator is the first piece of the text, whatever follows. -/
theorem pieces_append_sep (piece rest : Text) (s : Char) (hs : isSep s = true)
    (h : ∀ c ∈ piece, isSep c = false) :
    pieces isSep (piece ++ s :: rest) = piece :: pieces isSep rest := by
  rw [pieces_append piece rest s hs, pieces_of_free piece h, List.singleton_append]

theorem joined_cons (sep piece : Text) (more : List Text) (hm : more ≠ []) :
    joined sep (piece :: more) = piece ++ sep ++ joined sep more := by
  cases more with
  | nil => exact absurd rfl hm
  | cons next rest => rfl

/-- Cutting undoes joining, if there is something to cut and no piece holds a separator. -/
theorem pieces_joined (s : Char) (hs : isSep s = true) (segments : List Text)
    (hne : segments ≠ []) (h : ∀ piece ∈ segments, ∀ c ∈ piece, isSep c = false) :
    pieces isSep (joined [s] segments) = segments := by
  induction segments with
  | nil => exact absurd rfl hne
  | cons piece more ih =>
      have hp := h piece List.mem_cons_self
      by_cases hm : more = []
      · rw [hm]
        exact pieces_of_free piece hp
      · have hrest := ih hm (fun q hq => h q (List.mem_cons_of_mem _ hq))
        rw [joined_cons _ _ _ hm, List.append_assoc, List.singleton_append,
          pieces_append_sep _ _ _ hs hp, hrest]

theorem joined_append_singleton (sep last : Text) (segments : List Text) (hne : segments ≠ []) :
    joined sep (segments ++ [last]) = joined sep segments ++ sep ++ last := by
  induction segments with
  | nil => exact absurd rfl hne
  | cons piece more ih =>
      -- What follows the first segment is not empty, so there is a separator behind it.
      have hm' : more ++ [last] ≠ [] :=
        List.append_ne_nil_of_right_ne_nil _ (List.cons_ne_nil _ _)
      rw [List.cons_append, joined_cons _ _ _ hm']
      by_cases hm : more = []
      · rw [hm]
        rfl
      · rw [ih hm, joined_cons _ _ _ hm]
        simp only [List.append_assoc]

theorem mem_joined (sep : Text) (segments : List Text) (c : Char) (h : c ∈ joined sep segments) :
    c ∈ sep ∨ ∃ piece ∈ segments, c ∈ piece := by
  induction segments with
  | nil => exact absurd h List.not_mem_nil
  | cons piece more ih =>
      by_cases hm : more = []
      · rw [hm] at h ⊢
        exact Or.inr ⟨piece, List.mem_cons_self, h⟩
      · rw [joined_cons _ _ _ hm, List.mem_append, List.mem_append] at h
        rcases h with (h | h) | h
        · exact Or.inr ⟨piece, List.mem_cons_self, h⟩
        · exact Or.inl h
        · rcases ih h with h | ⟨q, hq, hc⟩
          · exact Or.inl h
          · exact Or.inr ⟨q, List.mem_cons_of_mem _ hq, hc⟩

/-- Pieces that are not empty join to the empty text only if there are none. -/
theorem joined_eq_nil_iff (sep : Text) (segments : List Text) (h : ∀ piece ∈ segments, piece ≠ []) :
    joined sep segments = [] ↔ segments = [] := by
  constructor
  · intro hj
    cases segments with
    | nil => rfl
    | cons piece more =>
        have hp := h piece List.mem_cons_self
        by_cases hm : more = []
        · rw [hm] at hj
          exact absurd hj hp
        · rw [joined_cons _ _ _ hm, List.append_assoc] at hj
          exact absurd (List.append_eq_nil_iff.mp hj).1 hp
  · intro hs
    rw [hs]
    rfl

end Text

end Maskwalk
