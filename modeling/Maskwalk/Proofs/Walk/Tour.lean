import Maskwalk.Proofs.Run
import Maskwalk.Proofs.World.Ordinary
import Maskwalk.Walk

/-!
# Walks as tours

A walk asks for directories one after the other and gathers results on the way. What it asks and
what it finds both come from the list of the directories that it visits, its *tour*: the results
are those of each visited directory in turn, and each is listed once, or twice if the walk goes
deep. So a statement about a walk is a statement about a list, and needs no world.

A tour depends on a world only through the entries that each directory shows. A directory that
cannot be listed shows none, and only the start of a walk minds.

`tour` counts depth like the walk does, and gives nothing if that runs out. What holds of every
tour is shown by `tour_induction`, which forgets the count.

## Main definitions

* `Keyed.entriesAt`: the entries that a directory shows to a walk.
* `Keyed.opened`: what a listing comes to at the start of a walk or further down.
* `Selection.tour`: the directories that a walk visits, in order.
* `Attempt.Reads`: an attempt that leaves the tables of a world as they are.

## Theorems

* `walk_reads`: A walk finds what its tour shows.
* `walk_start_reads`: So does one that starts at a directory, unless that cannot be listed.
* `asked_walk`: A walk lists the directories of its tour.
* `tour_induction`: What holds of all tours.
* `matching_reads`, `matching_cases`: What a match comes to, with rules that can be read or not.
-/

namespace Maskwalk

namespace Keyed

/-- The reply to a listing, faults included. -/
def listReply (w : Keyed) (p : Path) : Except Failure (List Entry) :=
  match valueOf? p w.faults with
  | some reason => .error (.other reason)
  | none => w.listDir p

/-- The entries that a directory shows to a walk: none if it cannot be listed. -/
def entriesAt (w : Keyed) (dir : Path) : List Entry :=
  match w.listReply (Path.normalize dir) with
  | .ok entries => entries
  | .error _ => []

/-- What a listing comes to. One that is refused is a fault at the start of a walk only, and one of
    a directory that is not there is no fault even then. -/
def opened (w : Keyed) (isStart : Bool) (dir : Path) : Except Fault (List Entry) :=
  match w.listReply (Path.normalize dir) with
  | .ok entries => .ok entries
  | .error why =>
    if why.isAbsence || !isStart then .ok [] else .error (.unlistable (named dir) why.cause)

theorem opened_false (w : Keyed) (dir : Path) : w.opened false dir = .ok (w.entriesAt dir) := by
  unfold opened entriesAt
  cases w.listReply (Path.normalize dir) with
  | ok entries => rfl
  | error why =>
      simp only
      rw [Bool.not_false, Bool.or_true, if_pos rfl]

theorem entries_of_opened (w : Keyed) (isStart : Bool) (dir : Path) (entries : List Entry)
    (h : w.opened isStart dir = .ok entries) : entries = w.entriesAt dir := by
  unfold opened at h
  unfold entriesAt
  cases hr : w.listReply (Path.normalize dir) with
  | ok found =>
      rw [hr] at h
      injection h with h
      exact h.symm
  | error why =>
      rw [hr] at h
      simp only at h
      by_cases hab : (why.isAbsence || !isStart) = true
      · rw [if_pos hab] at h
        injection h with h
        exact h.symm
      · rw [if_neg hab] at h
        exact absurd h (by simp only [reduceCtorEq, not_false_eq_true])

/-- A listing that comes to a fault comes to one of a directory that cannot be listed. -/
theorem unlistable_of_opened (w : Keyed) (isStart : Bool) (dir : Path) (fault : Fault)
    (h : w.opened isStart dir = .error fault) :
    ∃ shown cause, fault = .unlistable shown cause := by
  unfold opened at h
  cases hr : w.listReply (Path.normalize dir) with
  | ok entries =>
      rw [hr] at h
      exact absurd h (by simp only [reduceCtorEq, not_false_eq_true])
  | error why =>
      rw [hr] at h
      simp only at h
      by_cases hab : (why.isAbsence || !isStart) = true
      · rw [if_pos hab] at h
        exact absurd h (by simp only [reduceCtorEq, not_false_eq_true])
      · rw [if_neg hab, Except.error.injEq] at h
        exact ⟨_, _, h.symm⟩

/-- The results that a walk finds in a directory. -/
def keptAt (w : Keyed) (s : Selection) (dir : Path) : List Path := s.kept dir (w.entriesAt dir)

/-- A listing changes nothing but the record of calls. -/
theorem settled_listDir (w : Keyed) (dir : Path) : ∃ calls,
    (Request.listDir dir).settled w = (w.listReply (Path.normalize dir), { w with calls }) := by
  change ∃ calls, w.unlessFaulty (.listDir (Path.normalize dir)) (Path.normalize dir)
    (fun w => (w.listDir (Path.normalize dir), w)) = _
  unfold unlessFaulty listReply
  cases valueOf? (Path.normalize dir) w.faults with
  | some reason => exact ⟨w.calls, rfl⟩
  | none => exact ⟨.listDir (Path.normalize dir) :: w.calls, rfl⟩

/-- A world of keys refuses a listing for reasons of a system only. -/
theorem isRefusal_of_listReply (w : Keyed) (p : Path) (why : Failure)
    (h : w.listReply p = .error why) : why.isRefusal = true := by
  unfold listReply at h
  cases hf : valueOf? p w.faults with
  | some reason =>
      rw [hf] at h
      injection h with h
      rw [← h]
      rfl
  | none =>
      rw [hf] at h
      unfold listDir at h
      by_cases hd : w.denied.elem p = true
      · rw [if_pos hd] at h
        injection h with h
        rw [← h]
        rfl
      · rw [if_neg hd] at h
        cases hn : valueOf? p w.dirs with
        | none =>
            rw [hn] at h
            injection h with h
            rw [← h]
            rfl
        | some names =>
            rw [hn] at h
            exact absurd h (by simp only [reduceCtorEq, not_false_eq_true])

end Keyed

namespace Attempt

variable {α β : Type}

/-- An attempt that comes to a result and leaves a world as it is, but for the recorded calls. -/
structure Reads (a : Attempt α) (w : Keyed) (r : Except Fault α) : Prop where
  result : (a.ran w).result = r
  world : ∃ calls, (a.ran w).world = { w with calls }

theorem Reads.pure (a : α) (w : Keyed) : Reads (Pure.pure a) w (.ok a) := ⟨rfl, w.calls, rfl⟩

theorem Reads.fault (fault : Fault) (w : Keyed) :
    Reads (throw fault : Attempt α) w (.error fault) :=
  ⟨rfl, w.calls, rfl⟩

theorem Reads.notice (n : Notice) (w : Keyed) : Reads (Attempt.notice n) w (.ok ()) :=
  ⟨rfl, w.calls, rfl⟩

theorem Reads.depth (w : Keyed) : Reads (Attempt.request .depth) w (.ok w.depth) :=
  ⟨rfl, w.calls, rfl⟩

theorem Reads.bind_ok {a : Attempt α} {f : α → Attempt β} {w : Keyed} {x : α} {r : Except Fault β}
    (ha : Reads a w (.ok x)) (hf : ∀ calls, Reads (f x) { w with calls } r) :
    Reads (a >>= f) w r := by
  rcases ha.world with ⟨calls, hw⟩
  rcases hf calls with ⟨hr, calls', hw'⟩
  constructor
  · rw [result_bind, ha.result, hw]
    exact hr
  · refine ⟨calls', ?_⟩
    rw [world_bind, ha.result, hw]
    exact hw'

theorem Reads.caught {a : Attempt α} {w : Keyed} {r : Except Fault α} (ha : Reads a w r) :
    Reads a.caught w (.ok r) := by
  rcases ha with ⟨hr, calls, hw⟩
  constructor
  · rw [ran_caught, hr]
  · exact ⟨calls, by rw [ran_caught, hw]⟩

/-- What an attempt asks that goes on from one that only reads, whatever calls are recorded. -/
theorem Reads.asked_bind_ok {a : Attempt α} {f : α → Attempt β} {w : Keyed} {x : α}
    {first further : List Request} (ha : Reads a w (.ok x)) (hfirst : a.asked w = first)
    (hf : ∀ calls, (f x).asked { w with calls } = further) :
    (a >>= f).asked w = first ++ further := by
  rcases ha.world with ⟨calls, hw⟩
  rw [asked_bind, ha.result, hw, further_ok, hfirst, hf calls]

/-- The world that is left by an attempt that goes on from one that only reads. -/
theorem Reads.world_of_bind {a : Attempt α} {f : α → Attempt β} {w : Keyed} {x : α}
    (ha : Reads a w (.ok x)) :
    ∃ calls, ((a >>= f).ran w).world = ((f x).ran { w with calls }).world := by
  rcases ha with ⟨hr, calls, hw⟩
  exact ⟨calls, by rw [world_bind, hr, hw, further_ok]⟩

theorem Reads.bind_error {a : Attempt α} {f : α → Attempt β} {w : Keyed} {fault : Fault}
    (ha : Reads a w (.error fault)) : Reads (a >>= f) w (.error fault) := by
  rcases ha.world with ⟨calls, hw⟩
  constructor
  · rw [result_bind, ha.result]
    rfl
  · refine ⟨calls, ?_⟩
    rw [world_bind, ha.result, hw]
    rfl

end Attempt

open Attempt

theorem listing_reads (isStart : Bool) (dir : Path) (w : Keyed) :
    Reads (listing isStart dir) w (w.opened isStart dir) := by
  rcases w.settled_listDir dir with ⟨calls, hs⟩
  have hreq : Reads (Attempt.request (.listDir dir)) w
      (.ok (w.listReply (Path.normalize dir))) := by
    refine ⟨?_, calls, ?_⟩
    · rw [ran_request, hs]
    · rw [ran_request, hs]
  refine Reads.bind_ok hreq (fun calls => ?_)
  unfold Keyed.opened
  cases h : w.listReply (Path.normalize dir) with
  | ok entries => exact Reads.pure entries _
  | error why =>
      -- Absence is an empty directory, and another refusal is a fault only where a walk starts.
      have href := w.isRefusal_of_listReply _ why h
      by_cases hab : why.isAbsence = true
      · simp only [hab, if_true, Bool.true_or]
        exact Reads.pure [] _
      · cases isStart with
        | true =>
            simp only [hab, href, Bool.not_true, Bool.or_self, Bool.false_eq_true, if_false,
              if_true]
            exact Reads.fault _ _
        | false =>
            simp only [hab, href, Bool.not_true, Bool.not_false, Bool.or_true, Bool.false_eq_true,
              if_false, if_true]
            exact Reads.bind_ok (Reads.notice _ _) (fun calls => Reads.pure [] _)

theorem asked_listing (isStart : Bool) (dir : Path) (w : Keyed) :
    (listing isStart dir).asked w = [.listDir (Path.normalize dir)] := by
  unfold listing
  rw [asked_bind, asked_request, ran_request]
  change [Request.listDir (Path.normalize dir)] ++ _ = _
  rw [List.append_right_eq_self, further_ok]
  cases (Request.settled (.listDir dir) w).1 with
  | ok entries => rfl
  | error why =>
      simp only
      cases why.isAbsence
      · cases why.isRefusal
        · rfl
        · cases isStart <;> rfl
      · rfl

namespace Selection

/-- Several tours, one after the other. -/
def together (visit : Path → Option (List Path)) : List Path → Option (List Path)
  | [] => some []
  | dir :: more =>
    match visit dir with
    | none => none
    | some dirs => (together visit more).map (dirs ++ ·)

/-- The directories that a walk visits, in order, given the entries that each one shows; nothing
    if the walk is given up. -/
def tour (s : Selection) (entries : Path → List Entry) : Nat → Path → Option (List Path)
  | 0, _ => none
  | depth + 1, dir =>
    if s.deep then
      (together (s.tour entries depth) (s.entered dir (entries dir))).map (dir :: ·)
    else some [dir]

/-- The requests of a visit to a directory. A walk that goes on below lists it a second time. -/
def lists (s : Selection) (dir : Path) : List Request :=
  if s.deep then [.listDir (Path.normalize dir), .listDir (Path.normalize dir)]
  else [.listDir (Path.normalize dir)]

/-- Tours in a row are complete just if each is. -/
theorem together_eq_some_iff (visit : Path → Option (List Path)) (dirs all : List Path) :
    together visit dirs = some all ↔
      (∀ d ∈ dirs, (visit d).isSome = true) ∧ all = dirs.flatMap fun d => (visit d).getD [] := by
  induction dirs generalizing all with
  | nil =>
      simp only [together, Option.some.injEq, List.flatMap_nil, List.not_mem_nil, false_implies,
        implies_true, true_and]
      exact eq_comm
  | cons dir more ih =>
      rw [together]
      cases hv : visit dir with
      | none =>
          simp only [reduceCtorEq, List.mem_cons, false_iff, not_and]
          intro h
          have := h dir (Or.inl rfl)
          rw [hv] at this
          exact absurd this (by decide)
      | some ds =>
          simp only [Option.map_eq_some_iff, ih, List.mem_cons, List.flatMap_cons, hv,
            Option.getD_some, forall_eq_or_imp, Option.isSome_some, true_and]
          constructor
          · rintro ⟨rest, ⟨hsome, hrest⟩, hall⟩
            exact ⟨hsome, by rw [← hall, hrest]⟩
          · rintro ⟨hsome, hall⟩
            exact ⟨_, ⟨hsome, rfl⟩, hall.symm⟩

/-- What holds of all tours: of a visit that does not go on, and of one that goes on by tours of
    which it holds. -/
theorem tour_induction (s : Selection) (entries : Path → List Entry)
    (motive : Path → List Path → Prop)
    (shallow : s.deep = false → ∀ dir, motive dir [dir])
    (deep : s.deep = true → ∀ dir (round : Path → List Path),
      (∀ c ∈ s.entered dir (entries dir), motive c (round c)) →
        motive dir (dir :: (s.entered dir (entries dir)).flatMap round)) :
    ∀ depth dir dirs, s.tour entries depth dir = some dirs → motive dir dirs := by
  intro depth
  induction depth with
  | zero =>
      intro dir dirs h
      exact absurd h (by simp only [tour, reduceCtorEq, not_false_eq_true])
  | succ depth ih =>
      intro dir dirs h
      unfold tour at h
      by_cases hd : s.deep = true
      · rw [if_pos hd, Option.map_eq_some_iff] at h
        rcases h with ⟨below, hbelow, hdirs⟩
        rw [together_eq_some_iff] at hbelow
        rw [← hdirs, hbelow.2]
        refine deep hd dir _ (fun c hc => ih c _ ?_)
        rcases Option.isSome_iff_exists.mp (hbelow.1 c hc) with ⟨ds, hds⟩
        rw [hds, Option.getD_some]
      · rw [if_neg hd, Option.some.injEq] at h
        rw [← h]
        exact shallow (Bool.eq_false_iff.mpr hd) dir

/-- A walk that does not go deep visits its start only. -/
theorem tour_of_shallow (s : Selection) (entries : Path → List Entry) (depth : Nat) (dir : Path)
    (h : s.deep = false) : s.tour entries (depth + 1) dir = some [dir] := by
  unfold tour
  rw [if_neg (Bool.eq_false_iff.mp h)]

/-- A tour comes to an end if all do that it goes on to. -/
theorem tour_succ_iff (s : Selection) (entries : Path → List Entry) (depth : Nat) (dir : Path) :
    (∃ dirs, s.tour entries (depth + 1) dir = some dirs) ↔
      (s.deep = true → ∀ c ∈ s.entered dir (entries dir),
        ∃ dirs, s.tour entries depth c = some dirs) := by
  cases hd : s.deep with
  | false =>
      exact iff_of_true ⟨[dir], s.tour_of_shallow _ depth dir hd⟩ fun h => absurd h.symm (by decide)
  | true =>
      rw [tour, if_pos hd]
      simp only [Option.map_eq_some_iff, together_eq_some_iff, true_imp_iff]
      constructor
      · rintro ⟨_, _, ⟨hall, _⟩, _⟩ c hc
        exact Option.isSome_iff_exists.mp (hall c hc)
      · intro hall
        exact ⟨_, _, ⟨fun c hc => Option.isSome_iff_exists.mpr (hall c hc), rfl⟩, rfl⟩

/-- A tour begins at its start. -/
theorem exists_cons_of_tour (s : Selection) (entries : Path → List Entry) (depth : Nat)
    (dir : Path) (dirs : List Path) (h : s.tour entries depth dir = some dirs) :
    ∃ below, dirs = dir :: below :=
  s.tour_induction entries (fun dir dirs => ∃ below, dirs = dir :: below)
    (fun _ _ => ⟨[], rfl⟩) (fun _ _ _ _ => ⟨_, rfl⟩) depth dir dirs h

end Selection

/-- The outcome of a walk with a given tour. -/
def Keyed.found (w : Keyed) (s : Selection) : Option (List Path) → Except Fault (List Path)
  | none => .error .endless
  | some dirs => .ok (dirs.flatMap (w.keptAt s))

theorem gather_reads (s : Selection) (w : Keyed) (depth : Nat)
    (hwalk : ∀ dir calls, Reads (walk s depth false dir) { w with calls }
      (w.found s (s.tour w.entriesAt depth dir))) (dirs : List Path) :
    ∀ calls, Reads (gather (walk s depth false) dirs) { w with calls }
      (w.found s (Selection.together (s.tour w.entriesAt depth) dirs)) := by
  induction dirs with
  | nil =>
      intro calls
      exact Reads.pure [] _
  | cons dir more ih =>
      intro calls
      have hdir := hwalk dir calls
      unfold gather
      rw [Selection.together]
      cases ht : s.tour w.entriesAt depth dir with
      | none =>
          rw [ht] at hdir
          exact Reads.bind_error hdir
      | some ds =>
          rw [ht] at hdir
          refine Reads.bind_ok hdir (fun calls => ?_)
          have hmore := ih calls
          cases hm : Selection.together (s.tour w.entriesAt depth) more with
          | none =>
              rw [hm] at hmore
              exact Reads.bind_error hmore
          | some rest =>
              rw [hm] at hmore
              -- What the first tour shows comes in front of what the others show.
              refine Reads.bind_ok hmore (fun calls => ?_)
              simp only [Keyed.found, Option.map_some, List.flatMap_append]
              exact Reads.pure _ _

/-- One step of a walk, which may be its first, with a directory that can be listed. -/
theorem walk_succ_reads (s : Selection) (w : Keyed) (depth : Nat)
    (hwalk : ∀ dir calls, Reads (walk s depth false dir) { w with calls }
      (w.found s (s.tour w.entriesAt depth dir))) (isStart : Bool) (dir : Path)
    (hopen : w.opened isStart dir = .ok (w.entriesAt dir)) : ∀ calls,
    Reads (walk s (depth + 1) isStart dir) { w with calls }
      (w.found s (s.tour w.entriesAt (depth + 1) dir)) := by
  intro calls
  have hfirst := listing_reads isStart dir { w with calls }
  rw [show ({ w with calls } : Keyed).opened isStart dir = _ from hopen] at hfirst
  unfold walk Selection.tour
  refine Reads.bind_ok hfirst (fun calls => ?_)
  by_cases hd : s.deep = true
  -- A deep walk lists the directory once more, and comes back to its own results at the end.
  · have hagain := listing_reads false dir { w with calls }
    rw [Keyed.opened_false] at hagain
    simp only [hd, if_true]
    refine Reads.bind_ok hagain (fun calls => ?_)
    have hbelow := gather_reads s w depth hwalk (s.entered dir (w.entriesAt dir)) calls
    cases ht : Selection.together (s.tour w.entriesAt depth) (s.entered dir (w.entriesAt dir)) with
    | none =>
        rw [ht] at hbelow
        exact Reads.bind_error hbelow
    | some ds =>
        rw [ht] at hbelow
        exact Reads.bind_ok hbelow (fun calls => Reads.pure _ _)
  · simp only [hd, Bool.false_eq_true, if_false, Keyed.found, List.flatMap_singleton]
    exact Reads.pure _ _

/-- A walk finds what its tour shows. -/
theorem walk_reads (s : Selection) (w : Keyed) (depth : Nat) : ∀ dir calls,
    Reads (walk s depth false dir) { w with calls } (w.found s (s.tour w.entriesAt depth dir)) := by
  induction depth with
  | zero =>
      intro dir calls
      exact Reads.fault _ _
  | succ depth ih =>
      intro dir calls
      exact walk_succ_reads s w depth ih false dir (w.opened_false dir) calls

/-- A walk that starts at a directory finds what its tour shows, unless that directory cannot be
    listed. -/
theorem walk_start_reads (s : Selection) (w : Keyed) (depth : Nat) (dir : Path) :
    Reads (walk s (depth + 1) true dir) w (match w.opened true dir with
      | .ok _ => w.found s (s.tour w.entriesAt (depth + 1) dir)
      | .error fault => .error fault) := by
  cases ho : w.opened true dir with
  | ok entries =>
      rw [w.entries_of_opened true dir entries ho] at ho
      exact walk_succ_reads s w depth (walk_reads s w depth) true dir ho w.calls
  | error fault =>
      have hfirst := listing_reads true dir w
      rw [ho] at hfirst
      exact Reads.bind_error hfirst

theorem asked_gather (s : Selection) (w : Keyed) (depth : Nat)
    (hwalk : ∀ dir dirs calls, s.tour w.entriesAt depth dir = some dirs →
      (walk s depth false dir).asked { w with calls } = dirs.flatMap s.lists) (dirs : List Path) :
    ∀ all calls, Selection.together (s.tour w.entriesAt depth) dirs = some all →
      (gather (walk s depth false) dirs).asked { w with calls } = all.flatMap s.lists := by
  induction dirs with
  | nil =>
      intro all calls h
      rw [Selection.together, Option.some.injEq] at h
      rw [← h]
      rfl
  | cons dir more ih =>
      intro all calls h
      rw [Selection.together] at h
      cases ht : s.tour w.entriesAt depth dir with
      | none =>
          rw [ht] at h
          exact absurd h (by simp only [reduceCtorEq, not_false_eq_true])
      | some ds =>
          rw [ht] at h
          rcases Option.map_eq_some_iff.mp h with ⟨rest, hrest, hall⟩
          have hdir := walk_reads s w depth dir calls
          rw [ht] at hdir
          -- After the first directory, the rest are gathered and nothing more is asked.
          have hhere : ∀ calls, (do
              let there ← gather (walk s depth false) more
              return ds.flatMap (w.keptAt s) ++ there : Attempt (List Path)).asked { w with calls }
                = rest.flatMap s.lists ++ [] := by
            intro calls
            have hmore := gather_reads s w depth (walk_reads s w depth) more calls
            rw [hrest] at hmore
            exact hmore.asked_bind_ok (ih rest calls hrest) (fun _ => rfl)
          unfold gather
          rw [hdir.asked_bind_ok (hwalk dir ds calls ht) hhere, ← hall, List.append_nil,
            List.flatMap_append]

/-- A walk whose first directory can be listed lists the directories of its tour. -/
theorem asked_walk (s : Selection) (w : Keyed) (depth : Nat) : ∀ isStart dir dirs calls,
    w.opened isStart dir = .ok (w.entriesAt dir) → s.tour w.entriesAt depth dir = some dirs →
      (walk s depth isStart dir).asked { w with calls } = dirs.flatMap s.lists := by
  induction depth with
  | zero =>
      intro isStart dir dirs calls _ h
      exact absurd h (by simp only [Selection.tour, reduceCtorEq, not_false_eq_true])
  | succ depth ih =>
      intro isStart dir dirs calls hopen h
      have hwalk : ∀ dir dirs calls, s.tour w.entriesAt depth dir = some dirs →
          (walk s depth false dir).asked { w with calls } = dirs.flatMap s.lists :=
        fun dir dirs calls => ih false dir dirs calls (w.opened_false dir)
      have hfirst := listing_reads isStart dir { w with calls }
      rw [show ({ w with calls } : Keyed).opened isStart dir = _ from hopen] at hfirst
      unfold Selection.tour at h
      unfold walk
      by_cases hd : s.deep = true
      · rw [if_pos hd, Option.map_eq_some_iff] at h
        rcases h with ⟨below, hbelow, hdirs⟩
        -- A deep walk lists a directory twice before it goes on to what is entered from it.
        have hlists : dirs.flatMap s.lists = [.listDir (Path.normalize dir)] ++
            ([.listDir (Path.normalize dir)] ++ (below.flatMap s.lists ++ [])) := by
          rw [← hdirs, List.flatMap_cons, Selection.lists, if_pos hd, List.append_nil]
          rfl
        rw [hlists]
        refine hfirst.asked_bind_ok (asked_listing isStart dir _) (fun calls => ?_)
        simp only [hd, if_true]
        have hagain := listing_reads false dir { w with calls }
        rw [Keyed.opened_false] at hagain
        refine hagain.asked_bind_ok (asked_listing false dir _) (fun calls => ?_)
        have hmore := gather_reads s w depth (walk_reads s w depth)
          (s.entered dir (w.entriesAt dir)) calls
        rw [hbelow] at hmore
        exact hmore.asked_bind_ok (asked_gather s w depth hwalk _ below calls hbelow) (fun _ => rfl)
      · rw [if_neg hd, Option.some.injEq] at h
        have hlists : dirs.flatMap s.lists = [.listDir (Path.normalize dir)] ++ [] := by
          rw [← h, List.flatMap_singleton, Selection.lists, if_neg hd]
          rfl
        rw [hlists]
        refine hfirst.asked_bind_ok (asked_listing isStart dir _) (fun calls => ?_)
        simp only [hd, Bool.false_eq_true, if_false]
        exact asked_pure _ _

/-- A walk whose first directory cannot be listed asks for that and no more. -/
theorem asked_walk_refused (s : Selection) (w : Keyed) (depth : Nat) (dir : Path) (fault : Fault)
    (hopen : w.opened true dir = .error fault) (calls : List Request) :
    (walk s (depth + 1) true dir).asked { w with calls } = [.listDir (Path.normalize dir)] := by
  have hfirst := listing_reads true dir { w with calls }
  rw [show ({ w with calls } : Keyed).opened true dir = _ from hopen] at hfirst
  unfold walk
  rw [asked_bind, asked_listing, hfirst.result, further_error, asked_throw, List.append_nil]

/-- The rule that leaves out nothing does so. -/
theorem leftOut_never (n : Text) : leftOut (some Regex.never) n = false := by
  -- By induction on the text, since the expression is tried at every place of it.
  have hfrom : ∀ (t front : Text) (offset : Nat),
      Regex.foundFrom .never front offset t = false := by
    intro t
    induction t with
    | nil =>
        intro front offset
        rfl
    | cons c rest ih =>
        intro front offset
        rw [Regex.foundFrom, ih, Bool.or_false]
        rfl
  exact hfrom n [] 0

/-- The rule that holds for a match, if its expression can be read. -/
def Rule.inForce (set : Option Regex) : Option Rule → Except Regex.Problem (Option Regex)
  | none => .ok set
  | some rule => rule.compile.map some

/-- What a selection comes to from a directory on. -/
def Keyed.matched (w : Keyed) (s : Selection) (start : Path) : Except Fault (List Path) :=
  match w.opened true start with
  | .ok _ => w.found s (s.tour w.entriesAt (w.depth + 1) start)
  | .error fault => .error fault

namespace Matcher

theorem ruleOr_reads (set : Option Regex) (given : Option Rule) (r : Option Regex)
    (h : Rule.inForce set given = .ok r) (w : Keyed) : Reads (ruleOr set given) w (.ok r) := by
  cases given with
  | none =>
      rw [Rule.inForce, Except.ok.injEq] at h
      rw [← h]
      exact Reads.pure set w
  | some rule =>
      change rule.compile.map some = .ok r at h
      unfold ruleOr
      simp only
      cases hc : rule.compile with
      | ok compiled =>
          rw [hc] at h
          injection h with h
          rw [← h]
          exact Reads.pure _ w
      | error problem =>
          rw [hc] at h
          injection h

theorem asked_ruleOr (set : Option Regex) (given : Option Rule) (w : Keyed) :
    (ruleOr set given).asked w = [] := by
  cases given with
  | none => rfl
  | some rule =>
      unfold ruleOr
      simp only
      cases rule.compile with
      | ok compiled => rfl
      | error problem => rfl

/-- A rule whose expression cannot be read is a fault. -/
theorem ruleOr_refused (set : Option Regex) (given : Option Rule) (problem : Regex.Problem)
    (h : Rule.inForce set given = .error problem) (w : Keyed) :
    Reads (ruleOr set given) w (.error (.badPattern problem)) := by
  cases given with
  | none => exact absurd h (by simp only [Rule.inForce, reduceCtorEq, not_false_eq_true])
  | some rule =>
      change rule.compile.map some = .error problem at h
      unfold ruleOr
      simp only
      cases hc : rule.compile with
      | ok compiled =>
          rw [hc] at h
          injection h
      | error found =>
          rw [hc] at h
          injection h with h
          rw [← h]
          exact Reads.fault _ w

section

variable (m : Matcher) (mask : Path) (files : Bool) (dirRule fileRule : Option Rule)
  (rd rf : Option Regex) (w : Keyed)

/-- A match with a rule that cannot be read is refused for it, for the one for directories first. -/
theorem matching_refused (problem : Regex.Problem)
    (h : Rule.inForce m.dirRule dirRule = .error problem ∨
      (∃ rd, Rule.inForce m.dirRule dirRule = .ok rd) ∧
        Rule.inForce m.fileRule fileRule = .error problem) :
    Reads (m.matching mask files dirRule fileRule) w (.error (.badPattern problem)) := by
  unfold matching
  rcases h with hd | ⟨⟨rd, hd⟩, hf⟩
  · exact (ruleOr_refused _ _ problem hd w).bind_error
  · exact (ruleOr_reads _ _ rd hd w).bind_ok
      (fun calls => (ruleOr_refused _ _ problem hf _).bind_error)

/-- A match either has its rules in force, or is refused for one of them and asks nothing. -/
theorem matching_cases :
    (∃ rd rf, Rule.inForce m.dirRule dirRule = .ok rd ∧ Rule.inForce m.fileRule fileRule = .ok rf) ∨
    ∃ problem,
      ((m.matching mask files dirRule fileRule).ran w).result = .error (.badPattern problem) ∧
      (m.matching mask files dirRule fileRule).asked w = [] := by
  -- The rule for directories is read first, and that for files only after it.
  have hrefused := fun problem h =>
    (m.matching_refused mask files dirRule fileRule w problem h).result
  cases hd : Rule.inForce m.dirRule dirRule with
  | error problem =>
      refine Or.inr ⟨problem, hrefused problem (Or.inl hd), ?_⟩
      unfold matching
      rw [asked_bind, asked_ruleOr, (ruleOr_refused _ _ problem hd w).result, further_error,
        asked_throw, List.append_nil]
  | ok rd =>
      cases hf : Rule.inForce m.fileRule fileRule with
      | error problem =>
          refine Or.inr ⟨problem, hrefused problem (Or.inr ⟨⟨rd, hd⟩, hf⟩), ?_⟩
          unfold matching
          refine (ruleOr_reads _ _ rd hd w).asked_bind_ok (asked_ruleOr _ _ _) (fun calls => ?_)
          rw [asked_bind, asked_ruleOr, (ruleOr_refused _ _ problem hf _).result, further_error,
            asked_throw]
          rfl
      | ok rf => exact Or.inl ⟨rd, rf, rfl, rfl⟩

/-- A match finds what its selection comes to, where the mask starts. -/
theorem matching_reads (hd : Rule.inForce m.dirRule dirRule = .ok rd)
    (hf : Rule.inForce m.fileRule fileRule = .ok rf) :
    Reads (m.matching mask files dirRule fileRule) w
      (w.matched (m.selection (Path.normalize mask) files rd rf)
        (Mask.start (Path.normalize mask))) := by
  unfold matching
  refine Reads.bind_ok (ruleOr_reads _ _ rd hd w) (fun calls => ?_)
  refine Reads.bind_ok (ruleOr_reads _ _ rf hf _) (fun calls => ?_)
  refine Reads.bind_ok (Reads.notice _ _) (fun calls => ?_)
  refine (Reads.depth _).bind_ok (fun calls => ?_)
  exact walk_start_reads _ { w with calls } w.depth _

/-- A match asks for the depth of the world and for what its walk lists. -/
theorem asked_matching (hd : Rule.inForce m.dirRule dirRule = .ok rd)
    (hf : Rule.inForce m.fileRule fileRule = .ok rf) (requests : List Request)
    (hwalk : ∀ calls, (walk (m.selection (Path.normalize mask) files rd rf) (w.depth + 1) true
      (Mask.start (Path.normalize mask))).asked { w with calls } = requests) :
    (m.matching mask files dirRule fileRule).asked w = .depth :: requests := by
  unfold matching
  refine (ruleOr_reads _ _ rd hd w).asked_bind_ok (asked_ruleOr _ _ _) (fun calls => ?_)
  refine (ruleOr_reads _ _ rf hf _).asked_bind_ok (asked_ruleOr _ _ _) (fun calls => ?_)
  refine (Reads.notice _ _).asked_bind_ok (asked_notice _ _) (fun calls => ?_)
  exact (Reads.depth _).asked_bind_ok (asked_request .depth _) hwalk

end

end Matcher

end Maskwalk
