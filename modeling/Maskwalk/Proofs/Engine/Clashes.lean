import Maskwalk.Engine.Session
import Mathlib.Data.List.TakeWhile

/-!
# Clashes of names

The memory keeps one name for an identifier, the latest, and compares it with the next. What it is
kept for is about all of the past: whether two different names have ever led to the identifier. The
two agree because a warning is given at the first difference. Up to there all names are the same, so
that the latest is the first; from there on nothing more is said.

The past is a list of *deeds*, steps with their replies, and all that is claimed of the memory is
read off them. `Remembers` says what the memory knows of one identifier after deeds. It is kept by
one more deed: by one that is not about the identifier, by a named request that is answered with it,
and by a warning that is asked for with it as the key.

## Main definitions

* `firstClash`: the first of several names, and the first that differs from it.
* `Deed`, `Deed.nameFor`, `Deed.asksFor`: steps that have been done, and those about an identifier.
* `saidFor`, `owedFor`: what was said for a key, and what there was to be said.
* `Remembers`: what is remembered of an identifier after deeds.

## Theorems

* `firstClash_append`: The next name clashes if it differs from the latest and none did before.
* `owedFor_append_of_settled`: What there is to be said is said once.
* `Remembers.of_other`, `Remembers.named`, `Remembers.asked`: One more deed.
-/

namespace Maskwalk

/-- The first of several names, and the first one that differs from it. -/
def firstClash : List Text → Option (Text × Text)
  | [] => none
  | first :: more => (more.find? (· ≠ first)).map fun other => (first, other)

/-- Among several names some differ just if one differs from the first. -/
theorem firstClash_isSome_iff (names : List Text) :
    (firstClash names).isSome = true ↔ ∃ m ∈ names, ∃ n ∈ names, m ≠ n := by
  cases names with
  | nil =>
      constructor
      · exact fun h => absurd h Bool.false_ne_true
      · rintro ⟨m, hm, _⟩
        exact absurd hm List.not_mem_nil
  | cons first more =>
      rw [firstClash, Option.isSome_map, List.find?_isSome]
      constructor
      · rintro ⟨other, hmem, hne⟩
        exact ⟨other, List.mem_cons_of_mem _ hmem, first, List.mem_cons_self,
          of_decide_eq_true hne⟩
      · rintro ⟨m, hm, n, hn, hne⟩
        -- Of two that differ one is not the first, and so it comes later.
        by_cases hfirst : m = first
        · have hother : n ≠ first := fun h => hne (hfirst.trans h.symm)
          exact ⟨n, (List.mem_cons.mp hn).resolve_left hother, decide_eq_true hother⟩
        · exact ⟨m, (List.mem_cons.mp hm).resolve_left hfirst, decide_eq_true hfirst⟩

/-- A clash among names is one among these and more. -/
theorem firstClash_append_of_some (names more : List Text) (pair : Text × Text)
    (h : firstClash names = some pair) : firstClash (names ++ more) = some pair := by
  cases names with
  | nil => exact absurd h (by simp only [firstClash, reduceCtorEq, not_false_eq_true])
  | cons first rest =>
      rw [firstClash, Option.map_eq_some_iff] at h
      rcases h with ⟨other, hfind, hpair⟩
      rw [List.cons_append, firstClash, List.find?_append, hfind, Option.some_or, Option.map_some,
        hpair]

/-- Without a clash so far, the next name clashes if there is a latest and it differs from that. -/
theorem firstClash_append (names : List Text) (next : Text) (h : firstClash names = none) :
    firstClash (names ++ [next]) =
      (names.getLast?.filter (· ≠ next)).map fun latest => (latest, next) := by
  cases names with
  | nil => rfl
  | cons first rest =>
      rw [firstClash, Option.map_eq_none_iff, List.find?_eq_none] at h
      -- All names so far are the first, and so is the latest.
      have hall : ∀ n ∈ rest, n = first := fun n hn =>
        not_not.mp fun hne => h n hn (decide_eq_true hne)
      have hlatest : (first :: rest).getLast? = some first := by
        rw [List.getLast?_cons]
        cases hl : rest.getLast? with
        | none => rfl
        | some latest => rw [Option.getD_some, hall latest (List.mem_of_getLast? hl)]
      rw [List.cons_append, firstClash, List.find?_append, List.find?_eq_none.mpr h, Option.none_or,
        hlatest, List.find?_singleton, Option.filter_some]
      by_cases hn : next = first
      · rw [hn]
        simp only [ne_eq, not_true_eq_false, decide_false, Bool.false_eq_true, if_false,
          Option.map_none]
      · simp only [ne_eq, hn, Ne.symm hn, not_false_eq_true, decide_true, if_true, Option.map_some]

/-- A step that has been done, with its reply. -/
structure Deed where
  step : Step
  reply : Reply

namespace Deed

variable (u : Text)

/-- The name in a request for an identifier that was answered with a given one. -/
def nameFor (d : Deed) : Option Text :=
  match d.step, d.reply.result with
  | .identifierFor (some name), .ok (.text made) => if made = u then some name else none
  | _, _ => none

/-- Whether a warning was asked for once for a key. -/
def asksFor (d : Deed) : Bool :=
  match d.step with
  | .warnOnce key _ _ => key = u
  | _ => false

/-- What was said for a key that is warned of once: in a named request that was answered with it, or
    when a warning was asked for. -/
def saidFor (d : Deed) : List Notice :=
  if (d.nameFor u).isSome || d.asksFor u then d.reply.notices else []

end Deed

section

variable (u : Text) (deeds : List Deed)

/-- The names that led to an identifier, in the order of the requests. -/
def namesFor : List Text := deeds.filterMap (Deed.nameFor u)

/-- What was said for a key that is warned of once. -/
def saidFor : List Notice := deeds.flatMap (Deed.saidFor u)

/-- The deeds before a warning was first asked for with a key. -/
def beforeAsked : List Deed := deeds.takeWhile fun d => !d.asksFor u

/-- What there is to be said for a key: that the first two names that differ clash, or whatever was
    said when a warning was first asked for, if that came first. -/
def owedFor : List Notice :=
  match firstClash (namesFor u (beforeAsked u deeds)) with
  | some (former, latter) => [.clash former latter]
  | none => (deeds.find? (Deed.asksFor u)).elim [] fun d => d.reply.notices

/-- What is remembered of an identifier after deeds: the latest name, and whether a warning has been
    given, which is so if one was asked for or names differ. What has been said is what there is to
    be said, and no more than one thing. -/
structure Remembers (m : Memory) : Prop where
  name : valueOf? u m.names = (namesFor u deeds).getLast?
  warned : u ∈ m.warned ↔
    deeds.any (Deed.asksFor u) = true ∨ (firstClash (namesFor u deeds)).isSome = true
  said : saidFor u deeds = owedFor u deeds
  few : (saidFor u deeds).length ≤ 1

end

namespace Remembers

variable {u : Text} {deeds : List Deed} {m m' : Memory} {d : Deed}

theorem fresh : Remembers u [] Memory.fresh := by
  refine ⟨rfl, ?_, rfl, Nat.zero_le 1⟩
  constructor
  · exact fun h => absurd h List.not_mem_nil
  · rintro (h | h) <;> exact absurd h Bool.false_ne_true

theorem namesFor_append : namesFor u (deeds ++ [d]) = namesFor u deeds ++ (d.nameFor u).toList := by
  rw [namesFor, List.filterMap_append]
  cases h : d.nameFor u with
  | none => rw [List.filterMap_cons_none h]; rfl
  | some name => rw [List.filterMap_cons_some h]; rfl

theorem saidFor_append : saidFor u (deeds ++ [d]) = saidFor u deeds ++ d.saidFor u := by
  rw [saidFor, List.flatMap_append, List.flatMap_singleton]
  rfl

/-- Once a warning has been asked for, it does not matter what comes then. -/
theorem beforeAsked_append_of_asked (h : deeds.any (Deed.asksFor u) = true) :
    beforeAsked u (deeds ++ [d]) = beforeAsked u deeds := by
  rcases List.any_eq_true.mp h with ⟨e, he, hasks⟩
  unfold beforeAsked
  rw [List.takeWhile_append, if_neg]
  intro hlength
  have hall := List.takeWhile_eq_self_iff.mp ((List.takeWhile_prefix _).eq_of_length hlength) e he
  rw [hasks] at hall
  exact Bool.false_ne_true hall

/-- Until then all deeds come before it. -/
theorem beforeAsked_of_not_asked (h : deeds.any (Deed.asksFor u) = false) :
    beforeAsked u deeds = deeds := by
  refine List.takeWhile_eq_self_iff.mpr fun e he => ?_
  rw [Bool.not_eq_true', ← Bool.not_eq_true]
  exact List.any_eq_false.mp h e he

/-- And no others do, when a warning is asked for. -/
theorem beforeAsked_append_of_asking (h : deeds.any (Deed.asksFor u) = false)
    (hd : d.asksFor u = true) : beforeAsked u (deeds ++ [d]) = deeds := by
  have hall := List.takeWhile_eq_self_iff.mp (beforeAsked_of_not_asked h)
  unfold beforeAsked
  rw [List.takeWhile_append_of_pos hall, List.takeWhile_cons, hd]
  exact List.append_nil deeds

/-- As long as no warning was asked for, there is to be said that the first names that differ
    clash. -/
theorem owedFor_of_not_asked (h : deeds.any (Deed.asksFor u) = false) : owedFor u deeds =
    (firstClash (namesFor u deeds)).toList.map fun pair => .clash pair.1 pair.2 := by
  rw [owedFor, beforeAsked_of_not_asked h, List.find?_eq_none.mpr (List.any_eq_false.mp h)]
  cases firstClash (namesFor u deeds) <;> rfl

theorem any_append : (deeds ++ [d]).any (Deed.asksFor u) =
    (deeds.any (Deed.asksFor u) || d.asksFor u) := by
  rw [List.any_append, List.any_cons, List.any_nil, Bool.or_false]

/-- Where a warning was asked for or names differ, nothing more is to be said. -/
theorem owedFor_append_of_settled
    (h : deeds.any (Deed.asksFor u) = true ∨ (firstClash (namesFor u deeds)).isSome = true) :
    owedFor u (deeds ++ [d]) = owedFor u deeds := by
  unfold owedFor
  cases hasked : deeds.any (Deed.asksFor u) with
  | true =>
      rcases Option.isSome_iff_exists.mp (List.find?_isSome.mpr (List.any_eq_true.mp hasked)) with
        ⟨first, hfirst⟩
      rw [beforeAsked_append_of_asked hasked, List.find?_append, hfirst, Option.some_or]
  | false =>
      rw [hasked] at h
      rcases Option.isSome_iff_exists.mp (h.resolve_left Bool.false_ne_true) with ⟨pair, hpair⟩
      rw [beforeAsked_of_not_asked hasked, hpair]
      -- A clash among the names so far is the first one, whatever comes then.
      have hmore : firstClash (namesFor u (beforeAsked u (deeds ++ [d]))) = some pair := by
        cases hd : d.asksFor u with
        | true =>
            rw [beforeAsked_append_of_asking hasked hd]
            exact hpair
        | false =>
            rw [beforeAsked_of_not_asked (by rw [any_append, hasked, hd]; rfl), namesFor_append]
            exact firstClash_append_of_some _ _ pair hpair
      rw [hmore]

/-- As long as no warning has been given, none was asked for, no names differ, and nothing was
    said. -/
theorem of_not_warned (h : Remembers u deeds m) (hm : u ∉ m.warned) :
    deeds.any (Deed.asksFor u) = false ∧ firstClash (namesFor u deeds) = none ∧
      saidFor u deeds = [] := by
  rw [h.warned, not_or, Bool.not_eq_true, Bool.not_eq_true, Option.isSome_eq_false_iff,
    Option.isNone_iff_eq_none] at hm
  refine ⟨hm.1, hm.2, ?_⟩
  rw [h.said, owedFor_of_not_asked hm.1, hm.2]
  rfl

/-- One more deed, which says nothing if a warning has been given, and otherwise what there is to be
    said then. -/
theorem append (h : Remembers u deeds m)
    (hname : valueOf? u m'.names = (namesFor u (deeds ++ [d])).getLast?)
    (hwarned : u ∈ m'.warned ↔ (deeds ++ [d]).any (Deed.asksFor u) = true ∨
      (firstClash (namesFor u (deeds ++ [d]))).isSome = true)
    (hagain : u ∈ m.warned → d.saidFor u = [])
    (hfirst : u ∉ m.warned → d.saidFor u = owedFor u (deeds ++ [d]) ∧ (d.saidFor u).length ≤ 1) :
    Remembers u (deeds ++ [d]) m' := by
  by_cases hm : u ∈ m.warned
  · have hsaid : saidFor u (deeds ++ [d]) = saidFor u deeds := by
      rw [saidFor_append, hagain hm, List.append_nil]
    refine ⟨hname, hwarned, ?_, ?_⟩
    · rw [hsaid, owedFor_append_of_settled (h.warned.mp hm), h.said]
    · rw [hsaid]
      exact h.few
  · have hsaid : saidFor u (deeds ++ [d]) = d.saidFor u := by
      rw [saidFor_append, (h.of_not_warned hm).2.2, List.nil_append]
    rw [← hsaid] at hfirst
    exact ⟨hname, hwarned, (hfirst hm).1, (hfirst hm).2⟩

/-- A deed that is not about the identifier leaves what is remembered of it. -/
theorem of_other (h : Remembers u deeds m) (hname : d.nameFor u = none)
    (hasks : d.asksFor u = false) (hnames : valueOf? u m'.names = valueOf? u m.names)
    (hwarned : u ∈ m'.warned ↔ u ∈ m.warned) : Remembers u (deeds ++ [d]) m' := by
  have hsilent : d.saidFor u = [] := by
    unfold Deed.saidFor
    rw [hname, hasks]
    rfl
  have hsame : namesFor u (deeds ++ [d]) = namesFor u deeds := by
    rw [namesFor_append, hname, Option.toList_none, List.append_nil]
  refine h.append ?_ ?_ (fun _ => hsilent) fun hm => ?_
  · rw [hnames, hsame, h.name]
  · rw [hwarned, hsame, any_append, hasks, Bool.or_false, h.warned]
  · rcases h.of_not_warned hm with ⟨hasked, hclash, _⟩
    have hunasked : (deeds ++ [d]).any (Deed.asksFor u) = false := by
      rw [any_append, hasked, hasks]
      rfl
    rw [hsilent, owedFor_of_not_asked hunasked, hsame, hclash]
    exact ⟨rfl, Nat.zero_le 1⟩

/-- A named request that is answered with the identifier. If the name before was a different one,
    and no warning has been given, the clash is said. -/
theorem named (h : Remembers u deeds m) (name : Text) (hname : d.nameFor u = some name)
    (hasks : d.asksFor u = false) (hnames : valueOf? u m'.names = some name)
    (hwarned : u ∈ m'.warned ↔
      u ∈ m.warned ∨ ((valueOf? u m.names).filter (· ≠ name)).isSome = true)
    (hsaid : d.reply.notices = if u ∈ m.warned then [] else
      ((valueOf? u m.names).filter (· ≠ name)).toList.map (.clash · name)) :
    Remembers u (deeds ++ [d]) m' := by
  have hmore : namesFor u (deeds ++ [d]) = namesFor u deeds ++ [name] := by
    rw [namesFor_append, hname]
    rfl
  have hdeed : d.saidFor u = d.reply.notices := by
    unfold Deed.saidFor
    rw [hname]
    rfl
  have hclash : u ∉ m.warned → firstClash (namesFor u (deeds ++ [d])) =
      ((valueOf? u m.names).filter (· ≠ name)).map fun latest => (latest, name) := fun hm => by
    rw [hmore, firstClash_append _ _ (h.of_not_warned hm).2.1, h.name]
  refine h.append ?_ ?_ (fun hm => ?_) fun hm => ?_
  · rw [hnames, hmore, List.getLast?_concat]
  · rw [any_append, hasks, Bool.or_false, hwarned]
    by_cases hm : u ∈ m.warned
    · -- A warning that has been given stays given, for the same reason.
      refine iff_of_true (Or.inl hm) ((h.warned.mp hm).imp_right fun hsome => ?_)
      rcases Option.isSome_iff_exists.mp hsome with ⟨pair, hpair⟩
      rw [hmore, firstClash_append_of_some _ _ pair hpair]
      rfl
    · rw [hclash hm, Option.isSome_map, (h.of_not_warned hm).1]
      exact or_congr_left (iff_of_false hm Bool.false_ne_true)
  · rw [hdeed, hsaid, if_pos hm]
  · have hunasked : (deeds ++ [d]).any (Deed.asksFor u) = false := by
      rw [any_append, (h.of_not_warned hm).1, hasks]
      rfl
    rw [hdeed, hsaid, if_neg hm, owedFor_of_not_asked hunasked, hclash hm]
    cases (valueOf? u m.names).filter (· ≠ name) with
    | none => exact ⟨rfl, Nat.zero_le 1⟩
    | some latest => exact ⟨rfl, Nat.le_refl 1⟩

/-- A warning that is asked for with the key. It is given if none was. -/
theorem asked (h : Remembers u deeds m) (hname : d.nameFor u = none) (hasks : d.asksFor u = true)
    (hnames : m'.names = m.names) (hwarned : u ∈ m'.warned)
    (hagain : u ∈ m.warned → d.reply.notices = []) (hfew : d.reply.notices.length ≤ 1) :
    Remembers u (deeds ++ [d]) m' := by
  have hsame : namesFor u (deeds ++ [d]) = namesFor u deeds := by
    rw [namesFor_append, hname, Option.toList_none, List.append_nil]
  have hdeed : d.saidFor u = d.reply.notices := by
    unfold Deed.saidFor
    rw [hasks, Bool.or_true]
    rfl
  refine h.append ?_ ?_ (fun hm => hdeed.trans (hagain hm)) fun hm => ?_
  · rw [hnames, hsame, h.name]
  · refine iff_of_true hwarned (Or.inl ?_)
    rw [any_append, hasks, Bool.or_true]
  · rcases h.of_not_warned hm with ⟨hasked, hclash, _⟩
    have hfind : (deeds ++ [d]).find? (Deed.asksFor u) = some d := by
      rw [List.find?_append, List.find?_eq_none.mpr (List.any_eq_false.mp hasked), Option.none_or,
        List.find?_singleton, if_pos hasks]
    rw [owedFor, beforeAsked_append_of_asking hasked hasks, hclash, hfind]
    exact ⟨hdeed, by rw [hdeed]; exact hfew⟩

end Remembers

end Maskwalk
