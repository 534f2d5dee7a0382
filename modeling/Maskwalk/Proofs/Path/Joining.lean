import Maskwalk.Proofs.Path.Meaning

/-!
# Joining to normal forms

A name is joined to a path as it stands, and the result is brought into its normal form when it is
asked for. It makes no difference if the path had been in its normal form before. So what a walk
comes to depends on the normal forms of the paths that it came by, and of these there are no more
than keys in a world.

There is one exception. A single backslash means the root, but a slash is put behind it as behind
a name, and then the two look like the start of a share.

The normal form of a path is made of its kind and of the segments that are left when it is read.
Both are the same for a path and for its normal form, and a relative name leaves the kind alone and
is read behind all that was left.

## Main definitions

* `pile`: what is left of a path when it is read.

## Theorems

* `kind_normalize`, `pile_normalize`: A normal form is read as its path.
* `kind_join`, `pile_join`: How a path is read with a name behind it.
* `normalize_join_normalize`: Joining to a normal form.
-/

namespace Maskwalk

namespace Path

/-- The segments that are left of a path when it is read, the last one first. -/
def pile (p : Path) : List Text := (segments (p.map forward)).foldl (push (kind p)) []

theorem pile_eq_split (p : Path) : pile p = (split p).2.foldl (push (split p).1) [] := by
  rw [pile, kind_eq_split, foldl_split _ fun stack => push_skip _ stack [] (Or.inl rfl)]

/-- What is left of a path when it is read is in order. -/
theorem piled_pile (p : Path) : Piled (kind p) (pile p) := by
  rw [kind_eq_split, pile_eq_split]
  exact foldl_push_piled _ _ [] (segments_of_split p) trivial

theorem normalize_eq_render (p : Path) (h : p ≠ []) :
    normalize p = render (kind p) (pile p).reverse := by
  rw [normalize_of_ne_nil p h, fold, kind_eq_split, pile_eq_split]

theorem kind_normalize (p : Path) : kind (normalize p) = kind p :=
  congrArg Prod.fst (meaning_normalize [] p)

/-- A normal form is read as its path. -/
theorem pile_normalize (p : Path) : pile (normalize p) = pile p := by
  by_cases h0 : p = []
  · rw [h0]
    rfl
  have hpiled : Piled (kind p) (pile p).reverse.reverse := by
    rw [List.reverse_reverse]
    exact piled_pile p
  have hseg := segments_of_piled _ _ hpiled
  rw [normalize_eq_render p h0]
  by_cases hw : written (kind p) (pile p).reverse = []
  -- Nothing is written of a path that is left where it starts.
  · have hnil := (Text.joined_eq_nil_iff _ _ (fun s hs => (hseg s hs).ne_nil)).mp
      (List.append_eq_nil_iff.mp hw).2
    rw [List.reverse_eq_nil_iff.mp hnil]
    cases kind p <;> rfl
  · rw [render_of_written _ _ hw, pile_eq_split, split_written _ _ hseg]
    have hfold := fold_joined (kind p) _ hpiled
    rw [fold, List.reverse_inj] at hfold
    exact hfold

section

variable (d n : Path) (hd : d ≠ []) (hh : d ≠ here) (hn : n ≠ []) (hrel : isAbsolute n = false)

include hrel in
/-- A relative path does not begin with a slash. -/
theorem no_slash_of_relative : ¬ ['/'] <+: n.map forward := by
  rintro ⟨rest, hrest⟩
  cases n with
  | nil => exact absurd hrest (List.cons_ne_nil _ _)
  | cons c more =>
      rw [List.map_cons, List.singleton_append, List.cons.injEq, forward] at hrest
      by_cases hc : c = '\\'
      · rw [hc] at hrel
        exact absurd hrel (by simp only [isAbsolute, decide_true, Bool.or_true, Bool.true_or,
          Bool.true_eq_false, not_false_eq_true])
      · rw [if_neg hc] at hrest
        rw [← hrest.1] at hrel
        exact absurd hrel (by simp only [isAbsolute, decide_true, Bool.true_or,
          Bool.true_eq_false, not_false_eq_true])

include hrel in
theorem kind_relative : kind n = .relative := by
  have hno := no_slash_of_relative n hrel
  have hshare : ¬ ['/', '/'] <+: n.map forward := fun h =>
    hno ((List.prefix_append ['/'] ['/']).trans h)
  rw [kind, if_neg hshare, if_neg hno]

include hd hh hn hrel in
/-- A relative name is joined to a directory by a slash, unless there is one. -/
theorem join_behind : ∃ lead, join d n = lead ++ '/' :: n ∧
    (d = lead ∧ endsWithSlash d = false ∨ d = lead ++ ['/']) := by
  rw [join, if_neg hn, if_neg (by simp only [hd, hh, hrel, Bool.false_eq_true, or_self,
    not_false_eq_true])]
  cases hend : endsWithSlash d with
  | true =>
      rw [endsWithSlash, decide_eq_true_eq, List.getLast?_eq_some_iff] at hend
      rcases hend with ⟨lead, hlead⟩
      refine ⟨lead, ?_, Or.inr hlead⟩
      rw [if_pos rfl, hlead, List.append_assoc]
      rfl
  | false => exact ⟨d, if_neg Bool.false_ne_true, Or.inl ⟨rfl, rfl⟩⟩

/-- Where a path starts shows in its first two characters. -/
theorem kind_append (p t : Path) (h : 2 ≤ p.length) : kind (p ++ t) = kind p := by
  have hiff : ∀ l : Text, l.length ≤ 2 → (l <+: (p ++ t).map forward ↔ l <+: p.map forward) := by
    intro l hl
    rw [List.map_append]
    refine ⟨fun hp => List.prefix_of_prefix_length_le hp (List.prefix_append _ _) ?_,
      fun hp => hp.trans (List.prefix_append _ _)⟩
    rw [List.length_map]
    omega
  simp only [kind, hiff ['/', '/'] (by decide), hiff ['/'] (by decide)]

/-- A path of one character that is no backslash starts where it does with a name behind it. -/
theorem kind_single (c : Char) (hc : c ≠ '\\') (t : Path)
    (ht : c = '/' → ¬ ['/'] <+: t.map forward) : kind (c :: t) = kind [c] := by
  have hf : forward c = c := if_neg hc
  rw [kind, kind, List.map_cons, List.map_cons, hf]
  simp only [List.cons_prefix_cons, List.nil_prefix, and_true, List.map_nil]
  by_cases hs : '/' = c
  · have hshare : ¬ ('/' = c ∧ ['/'] <+: t.map forward) := fun h => ht hs.symm h.2
    have hsingle : ¬ ('/' = c ∧ ['/'] <+: ([] : Text)) := fun h =>
      absurd (List.prefix_nil.mp h.2) (List.cons_ne_nil _ _)
    rw [if_neg hshare, if_neg hsingle]
  · simp only [hs, false_and, if_false]

include hd hh hn hrel in
/-- A relative name leaves a path where it starts. -/
theorem kind_join (hb : d ≠ ['\\']) : kind (join d n) = kind d := by
  rcases join_behind d n hd hh hn hrel with ⟨lead, hjoin, hlead⟩
  have hstarts : ∃ t, join d n = d ++ t ∧ (d = ['/'] → t = n) := by
    rcases hlead with ⟨hlead, hend⟩ | hlead
    · refine ⟨'/' :: n, by rw [hjoin, hlead], fun h => ?_⟩
      rw [h] at hend
      exact absurd hend (by decide)
    · refine ⟨n, ?_, fun _ => rfl⟩
      rw [hjoin, hlead, List.append_assoc]
      rfl
  rcases hstarts with ⟨t, ht, htn⟩
  rw [ht]
  match d, hd, hb with
  | [c], _, hb =>
      refine kind_single c (fun h => hb (by rw [h])) t (fun hc => ?_)
      rw [htn (by rw [hc])]
      exact no_slash_of_relative n hrel
  | _ :: _ :: _, _, _ => exact kind_append _ _ (by simp only [List.length_cons]; omega)

include hd hh hn hrel in
/-- A relative name is read behind all that is left of a path. -/
theorem pile_join (hb : d ≠ ['\\']) :
    pile (join d n) = (segments (n.map forward)).foldl (push (kind d)) (pile d) := by
  rw [pile, kind_join d n hd hh hn hrel hb]
  rcases join_behind d n hd hh hn hrel with ⟨lead, hjoin, hlead⟩
  have hcut : ∀ rest : Text, segments ((lead ++ '/' :: rest).map forward)
      = segments (lead.map forward) ++ segments (rest.map forward) := by
    intro rest
    rw [List.map_append, List.map_cons]
    exact Text.pieces_append _ _ '/' rfl
  rw [hjoin, hcut, List.foldl_append]
  congr 1
  rcases hlead with ⟨hlead, _⟩ | hlead
  · rw [pile, hlead]
  -- A slash at the end of a path is followed by an empty segment.
  · have hend : segments (d.map forward) = segments (lead.map forward) ++ [[]] := by
      rw [hlead]
      exact hcut []
    rw [pile, hend, List.foldl_append, List.foldl_cons, List.foldl_nil,
      push_skip _ _ [] (Or.inl rfl)]

end

theorem normalize_ne_nil (p : Path) (h : p ≠ []) : normalize p ≠ [] := by
  rw [normalize_eq_render p h, render]
  split
  · exact List.cons_ne_nil _ _
  · assumption

/-- Joining a name to a path comes to the same as joining it to the normal form of the path. -/
theorem normalize_join_normalize (d n : Path) (hb : d ≠ ['\\']) :
    normalize (join (normalize d) n) = normalize (join d n) := by
  by_cases hn : n = []
  · rw [hn]
    exact normalize_normalize d
  by_cases hd : d = []
  · rw [hd]
    rfl
  by_cases hh : d = here
  · rw [hh]
    rfl
  by_cases hrel : isAbsolute n = true
  · have habs : ∀ d, join d n = n := fun d => by
      rw [join, if_neg hn, if_pos (Or.inr (Or.inr hrel))]
    rw [habs, habs]
  rw [Bool.not_eq_true] at hrel
  have hjoin_ne : ∀ d, join d n ≠ [] := by
    intro d
    rw [join, if_neg hn]
    split
    · exact hn
    · split
      · exact List.append_ne_nil_of_right_ne_nil _ hn
      · exact List.append_ne_nil_of_right_ne_nil _ (List.cons_ne_nil _ _)
  have hkind := kind_normalize d
  have hpile := pile_normalize d
  rw [normalize_eq_render _ (hjoin_ne _), normalize_eq_render _ (hjoin_ne _),
    kind_join d n hd hh hn hrel hb, pile_join d n hd hh hn hrel hb, ← hkind, ← hpile]
  have hne := normalize_ne_nil d hd
  by_cases hhere : normalize d = here
  -- Nothing is left of the path, so the name is read from the start.
  · have hjoin : join here n = n := by rw [join, if_neg hn, if_pos (Or.inr (Or.inl rfl))]
    rw [hhere, hjoin, kind_relative n hrel, pile, kind_relative n hrel]
    rfl
  · have hb' : normalize d ≠ ['\\'] := fun h =>
      no_backslash_normalize d (by rw [h]; exact List.mem_singleton_self _)
    rw [kind_join _ n hne hhere hn hrel hb', pile_join _ n hne hhere hn hrel hb']

end Path

end Maskwalk
