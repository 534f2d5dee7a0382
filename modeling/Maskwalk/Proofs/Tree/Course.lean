import Maskwalk.Proofs.Asking
import Maskwalk.Proofs.Tree.Making

/-!
# The course of a making

A path is made front by front, from the top down. Each front is looked at, and made if it is no
directory. The first that cannot be made ends the work, and what was made before stays. `Course` is
this as a relation, with one rule for each way on: a front is there, it is made, or it is refused.
It keeps the requests, each with the world that it was put to, so that what is asked and when can be
read off it together with what comes of it.

A making follows the course of its fronts in every world of keys, whatever it holds and however it
refuses. The fronts are normal forms, also on a share, where they lie below the plain root; so the
keys that are looked up and made are these paths themselves. What a course leaves alone, and how it
ends, is then an induction on its rules.

## Main definitions

* `fronts`: the directories to be made for a path, from the top down.
* `Course`: how they are made in a world.
* `Keyed.Widened`: worlds with some more directories.
* `FailsAt`: a making that was refused at a front.

## Theorems

* `makeBelow_course`, `makeDirs_course`: A making follows the course of its fronts.
* `Course.widened`, `Course.made_fresh`, `Course.complete`, `Course.fails`: What comes of a course.
* `makeDirs_contract`: What a making asks, what it leaves alone, and how it fails.
-/

namespace Maskwalk

open Attempt

/-- The directories to be made for a path, from the top down: what is in front of the slashes of its
    normal form, and the whole. Those that end in a segment that looks absolute are left out. -/
def fronts (p : Path) : List Path :=
  madeBelow (if (Path.normalize p).head? = some '/' then ['/'] else [])
    (((Path.normalize p).pieces Path.isSlash).filter (· ≠ []))

/-- The path that a request makes a directory at, if it does. -/
def Request.madePath? : Request → Option Path
  | .mkdir p => some p
  | _ => none

namespace Keyed

/-- The second world is the first with some more directories, which are among those given. Files and
    all else are as they were, and directories list what they did and then perhaps more. -/
structure Widened (w : Keyed) (given : List Path) (w' : Keyed) : Prop where
  frame : ∃ dirs calls, w' = { w with dirs, calls }
  names : ∀ d names, w.names? d = some names → ∃ more, w'.names? d = some (names ++ more)
  given : ∀ d, w'.hasDir d = true → w.hasDir d = true ∨ d ∈ given

namespace Widened

theorem of_calls (w : Keyed) (given : List Path) (calls : List Request) :
    w.Widened given { w with calls } :=
  ⟨⟨w.dirs, calls, rfl⟩, fun d names h => ⟨[], by rw [List.append_nil]; exact h⟩, fun _ => Or.inl⟩

variable {w w' w'' : Keyed} {given more : List Path}

theorem trans (h : w.Widened given w') (h' : w'.Widened more w'') :
    w.Widened (given ++ more) w'' := by
  refine ⟨?_, fun d names hd => ?_, fun d hd => ?_⟩
  · rcases h.frame with ⟨_, _, rfl⟩
    rcases h'.frame with ⟨dirs, calls, rfl⟩
    exact ⟨dirs, calls, rfl⟩
  · rcases h.names d names hd with ⟨first, hfirst⟩
    rcases h'.names d _ hfirst with ⟨second, hsecond⟩
    exact ⟨first ++ second, by rw [hsecond, List.append_assoc]⟩
  · rcases h'.given d hd with hd | hd
    · exact (h.given d hd).imp_right (List.mem_append_left more)
    · exact Or.inr (List.mem_append_right _ hd)

theorem hasDir (h : w.Widened given w') (d : Path) (hd : w.hasDir d = true) :
    w'.hasDir d = true := by
  rcases (w.hasDir_iff d).mp hd with ⟨names, hnames⟩
  rcases h.names d names hnames with ⟨more, hmore⟩
  exact (w'.hasDir_iff d).mpr ⟨_, hmore⟩

end Widened

/-- A directory that is made at a path in normal form is one more directory. -/
theorem settled_mkdir_widened (w : Keyed) (q : Path) (hq : Path.normalize q = q)
    (hok : ((Request.mkdir q).settled w).1 = .ok ()) :
    w.Widened [q] ((Request.mkdir q).settled w).2 := by
  rcases w.settled_mkdir_ok q hq hok with ⟨hmade, _, hnew, habove, _⟩
  refine ⟨?_, fun d names hd => ?_, fun d hd => ?_⟩
  · rcases addDirWithin_frame (q.length + 1) q (w.record (.mkdir q)) with ⟨dirs, hdirs⟩
    exact ⟨dirs, _, hmade.trans hdirs⟩
  · rw [hmade, names?_addDir_of_above (w.record (.mkdir q)) q d hnew habove]
    change ∃ more, ((w.names? d).or _).map _ = _
    rw [hd, Option.some_or, Option.map_some]
    by_cases hparent : d = parent q
    · exact ⟨[name q], by rw [if_pos hparent]⟩
    · exact ⟨[], by rw [if_neg hparent, List.append_nil]⟩
  · rw [hasDir_settled_mkdir w q hq hok, Bool.or_eq_true, decide_eq_true_eq] at hd
    exact hd.imp_right List.mem_singleton.mpr

/-- A directory that is not made is refused by the system, and at most the request is recorded. -/
theorem settled_mkdir_error (w : Keyed) (q : Path) (why : Failure)
    (h : ((Request.mkdir q).settled w).1 = .error why) :
    why.isRefusal = true ∧ ∃ calls, ((Request.mkdir q).settled w).2 = { w with calls } := by
  change (w.answer (.mkdir (Path.normalize q))).1 = .error why at h
  change _ ∧ ∃ calls, (w.answer (.mkdir (Path.normalize q))).2 = _
  generalize Path.normalize q = k at h ⊢
  rw [answer, unlessFaulty] at h ⊢
  cases hfault : valueOf? k w.faults with
  | some reason =>
      rw [hfault] at h
      rw [← Except.error.inj h]
      exact ⟨rfl, w.calls, rfl⟩
  | none =>
      rw [hfault] at h
      simp only at h ⊢
      rcases mkdir_cases (w.record (.mkdir k)) k with ⟨why', hm, hwhy⟩ | ⟨hm, _⟩
      · rw [hm] at h ⊢
        rw [← Except.error.inj h]
        exact ⟨hwhy, _, rfl⟩
      · rw [hm] at h
        exact absurd h (by simp only [reduceCtorEq, not_false_eq_true])

/-- What comes of a directory that was looked at and made, -/
theorem looked_made {w v : Keyed} {q : Path} (hq : Path.normalize q = q)
    (hmade : (Request.mkdir q).settled (w.record (.isDir q)) = (.ok (), v)) :
    w.Widened [q] v ∧ v.hasDir q = true := by
  have hreply : ((Request.mkdir q).settled (w.record (.isDir q))).1 = .ok () := by rw [hmade]
  have hstep := (w.record (.isDir q)).settled_mkdir_widened q hq hreply
  have hdir := (w.record (.isDir q)).hasDir_settled_mkdir q hq hreply q
  rw [hmade] at hstep hdir
  exact ⟨(Widened.of_calls w [] _).trans hstep,
    hdir.trans (by rw [decide_eq_true rfl, Bool.or_true])⟩

/-- and of one that was looked at and refused. -/
theorem looked_refused {w v : Keyed} {q : Path} {why : Failure}
    (hrefused : (Request.mkdir q).settled (w.record (.isDir q)) = (.error why, v)) :
    ∃ calls, v = { w with calls } := by
  rcases (w.record (.isDir q)).settled_mkdir_error q why (by rw [hrefused]) with ⟨_, calls, hcalls⟩
  rw [hrefused] at hcalls
  exact ⟨calls, hcalls⟩

end Keyed

section

variable {above : Path} {segments : List Text}

/-- A making passes over empty segments. -/
theorem makeBelow_filter (segments : List Text) : ∀ above : Path,
    makeBelow above segments = makeBelow above (segments.filter (· ≠ [])) := by
  induction segments with
  | nil => exact fun _ => rfl
  | cons segment more ih =>
      intro above
      by_cases hne : segment = []
      · rw [hne, makeBelow_nil_cons, ih, List.filter_cons_of_neg (by simp)]
      · rw [List.filter_cons_of_pos (by simpa using hne), makeBelow, makeBelow, if_neg hne,
          if_neg hne]
        simp only [ih (above ++ segment ++ ['/'])]

/-- What is made below a path has that path in front. -/
theorem prefix_of_mem_madeBelow (q : Path) (hq : q ∈ madeBelow above segments) : above <+: q := by
  rcases front_of_mem_madeBelow segments above q hq with ⟨_, _, _, _, hfront⟩
  rw [hfront]
  exact List.prefix_append _ _

/-- What is made for segments lies one in another, from the top down. -/
theorem madeBelow_pairwise (segments : List Text) : ∀ above : Path,
    (madeBelow above segments).Pairwise fun a b => a ++ ['/'] <+: b := by
  induction segments with
  | nil => exact fun _ => List.Pairwise.nil
  | cons segment more ih =>
      intro above
      rw [madeBelow]
      by_cases hg : isGiven segment = true
      · rw [if_pos hg]
        exact ih _
      · rw [if_neg hg]
        exact List.pairwise_cons.mpr ⟨fun q hq => prefix_of_mem_madeBelow q hq, ih _⟩

end

/-- Of two fronts the one that is made first has the other below it. -/
theorem fronts_pairwise (p : Path) : (fronts p).Pairwise fun a b => a ++ ['/'] <+: b :=
  madeBelow_pairwise _ _

-- A variable is left out, and a share is taken for a directory below the root.
example : fronts "//h/$x/d\\e/".toList =
    ["/h".toList, "/h/$x/d".toList, "/h/$x/d/e".toList] := by decide

namespace Path

/-- The two absolute roots treat segments alike. -/
theorem piled_rooted_of_share (stack : List Text) (h : Piled .share stack) :
    Piled .rooted stack := by
  induction stack with
  | nil => trivial
  | cons top below ih => exact ⟨h.1, h.2.1, ih h.2.2⟩

/-- The segments of a path that is written down are found again, without empty ones. -/
theorem filter_pieces_written (root : Root) (segments : List Text)
    (h : ∀ s ∈ segments, IsSegment s) :
    ((written root segments).pieces isSlash).filter (· ≠ []) = segments := by
  have hfree : ∀ s ∈ segments, ∀ c ∈ s, isSlash c = false := fun s hs =>
    free_of_no_slash s (h s hs).no_slash
  have hjoined : ((Text.joined ['/'] segments).pieces isSlash).filter (· ≠ []) = segments := by
    by_cases hne : segments = []
    · rw [hne]
      rfl
    · rw [Text.pieces_joined '/' rfl segments hne hfree]
      exact List.filter_eq_self.mpr fun s hs => by simpa using (h s hs).ne_nil
  -- Each slash of a root stands behind an empty segment.
  have hslash : ∀ t : Text, (Text.pieces isSlash ('/' :: t)).filter (· ≠ []) =
      (Text.pieces isSlash t).filter (· ≠ []) := by
    intro t
    rw [Text.pieces_sep_cons '/' t rfl]
    exact List.filter_cons_of_neg (by simp)
  cases root with
  | relative => exact hjoined
  | rooted => exact (hslash _).trans hjoined
  | share => exact (hslash _).trans ((hslash _).trans hjoined)

end Path

/-- Fronts are their own normal forms. -/
theorem fronts_normal (p : Path) (q : Path) (hq : q ∈ fronts p) : Path.normalize q = q := by
  unfold fronts at hq
  rcases Path.normalize_cases p with h | h | ⟨root, segments, hpiled, _, h⟩
  · rw [h] at hq
    exact absurd hq List.not_mem_nil
  · rw [h] at hq
    change q ∈ [Path.here] at hq
    rw [List.mem_singleton.mp hq]
    rfl
  · have hseg := Path.segments_of_piled root segments hpiled
    rw [h, Path.filter_pieces_written root segments hseg] at hq
    rcases front_of_mem_madeBelow segments _ q hq with ⟨front, back, hf, _, hfront⟩
    rw [hf, List.reverse_append] at hpiled
    have hpart := Path.piled_of_append root _ _ hpiled
    -- Below a share it is the plain root that the fronts start at.
    cases root with
    | relative =>
        have hhead : (Path.written .relative segments).head? ≠ some '/' :=
          Path.joined_head segments hseg
        rw [hfront, if_neg hhead]
        exact Path.normalize_written .relative front hpart
    | rooted =>
        rw [hfront]
        exact Path.normalize_written .rooted front hpart
    | share =>
        rw [hfront]
        exact Path.normalize_written .rooted front (Path.piled_rooted_of_share _ hpart)

/-- The course of a making: its fronts are looked at in turn, and made if they are no directories,
    up to one that is refused. It keeps the requests with the worlds that they are put to, and leads
    to an outcome and a last world. -/
inductive Course : List Path → Keyed → List (Request × Keyed) → Outcome → Keyed → Prop where
  | done {w : Keyed} : Course [] w [] .done w
  | there {q : Path} {more : List Path} {w w' : Keyed} {stages : List (Request × Keyed)}
    {o : Outcome} (hthere : w.hasDir q = true)
    (rest : Course more (w.record (.isDir q)) stages o w') :
    Course (q :: more) w ((.isDir q, w) :: stages) o w'
  | made {q : Path} {more : List Path} {w v w' : Keyed} {stages : List (Request × Keyed)}
    {o : Outcome} (hmissing : w.hasDir q = false)
    (hmade : (Request.mkdir q).settled (w.record (.isDir q)) = (.ok (), v))
    (rest : Course more v stages o w') :
    Course (q :: more) w ((.isDir q, w) :: (.mkdir q, w.record (.isDir q)) :: stages) o w'
  | refused {q : Path} {more : List Path} {w w' : Keyed} {why : Failure}
    (hmissing : w.hasDir q = false)
    (hrefused : (Request.mkdir q).settled (w.record (.isDir q)) = (.error why, w')) :
    Course (q :: more) w [(.isDir q, w), (.mkdir q, w.record (.isDir q))] (.failedAt q why) w'

/-- A request is put to the world, and then all that is done with its reply. -/
theorem Attempt.stages_request_bind {σ α : Type} [World σ] (q : Request) (f : q.Reply → Attempt α)
    (w : σ) : (request q >>= f).run.stages w =
      (q, w) :: (f (q.settled w).1).run.stages (q.settled w).2 := rfl

/-- A making below a path follows the course of what is to be made there. -/
theorem makeBelow_course (segments : List Text) : ∀ (above : Path) (w : Keyed),
    (∀ s ∈ segments, s ≠ []) → (∀ q ∈ madeBelow above segments, Path.normalize q = q) →
    ∃ o, ((makeBelow above segments).ran w).result = .ok o ∧
      Course (madeBelow above segments) w ((makeBelow above segments).run.stages w) o
        ((makeBelow above segments).ran w).world := by
  induction segments with
  | nil => exact fun above w _ _ => ⟨.done, rfl, .done⟩
  | cons segment more ih =>
      intro above w hne hnormal
      have hsegment := hne segment List.mem_cons_self
      have hmore : ∀ s ∈ more, s ≠ [] := fun s hs => hne s (List.mem_cons_of_mem _ hs)
      cases hg : isGiven segment with
      | true =>
          rw [makeBelow_given above segment more hsegment hg]
          rw [madeBelow, if_pos hg] at hnormal ⊢
          exact ih _ w hmore hnormal
      | false =>
          rw [madeBelow, if_neg (Bool.eq_false_iff.mp hg)] at hnormal ⊢
          have hkey := hnormal _ List.mem_cons_self
          have hrest : ∀ q ∈ madeBelow (above ++ segment ++ ['/']) more, Path.normalize q = q :=
            fun q hq => hnormal q (List.mem_cons_of_mem _ hq)
          rw [makeBelow, if_neg hsegment]
          simp only [hg, Bool.false_eq_true, if_false]
          rw [ran_request_bind, stages_request_bind, w.settled_isDir _ hkey]
          cases hthere : w.hasDir (above ++ segment) with
          | true =>
              rcases ih _ (w.record (.isDir (above ++ segment))) hmore hrest with ⟨o, ho, hcourse⟩
              exact ⟨o, ho, .there hthere hcourse⟩
          | false =>
              simp only [Bool.false_eq_true, if_false]
              rw [ran_request_bind, stages_request_bind]
              have herror := Keyed.settled_mkdir_error (w.record (.isDir (above ++ segment)))
                (above ++ segment)
              cases hm : (Request.mkdir (above ++ segment)).settled
                  (w.record (.isDir (above ++ segment))) with
              | mk reply v =>
                  cases reply with
                  | ok u =>
                      rcases ih _ v hmore hrest with ⟨o, ho, hcourse⟩
                      exact ⟨o, ho, .made hthere hm hcourse⟩
                  | error why =>
                      have hrefusal := (herror why (by rw [hm])).1
                      simp only [refused, hrefusal, if_true]
                      exact ⟨_, rfl, .refused hthere hm⟩

/-- A making follows the course of its fronts. -/
theorem makeDirs_course (p : Path) (w : Keyed) : ∃ o, ((makeDirs p).ran w).result = .ok o ∧
    Course (fronts p) w ((makeDirs p).run.stages w) o ((makeDirs p).ran w).world := by
  rw [show makeDirs p = _ from makeBelow_filter _ _]
  exact makeBelow_course _ _ w (fun s hs => by simpa using (List.mem_filter.mp hs).2)
    (fronts_normal p)

/-- A making that was refused at a front, the only one for which it was: that is no directory, those
    above it are, and nothing else has been looked at or made. -/
structure FailsAt (w : Keyed) (stages : List (Request × Keyed)) (w' : Keyed) (earlier : List Path)
    (q : Path) (why : Failure) : Prop where
  refused : ∃ v, (.mkdir q, v) ∈ stages ∧ ((Request.mkdir q).settled v).1 = .error why
  others : ∀ d v, (.mkdir d, v) ∈ stages → d ≠ q → ((Request.mkdir d).settled v).1 = .ok ()
  missing : w'.hasDir q = false
  above : ∀ d ∈ earlier, w'.hasDir d = true
  asked : ∀ r v, (r, v) ∈ stages → ∃ d ∈ earlier ++ [q], r = .isDir d ∨ r = .mkdir d
  widened : w.Widened earlier w'

/-- A making fails in the same way if one more directory is looked at first, and made if it was
    none. -/
theorem FailsAt.behind {w v w' : Keyed} {stages : List (Request × Keyed)} {earlier : List Path}
    {q₀ q : Path} {why : Failure} (first : List (Request × Keyed))
    (h : FailsAt v stages w' earlier q why)
    (hstep : w.Widened [q₀] v) (hthere : v.hasDir q₀ = true)
    (hfirst : ∀ r u, (r, u) ∈ first → r = .isDir q₀ ∨
      r = .mkdir q₀ ∧ ((Request.mkdir q₀).settled u).1 = .ok ()) :
    FailsAt w (first ++ stages) w' (q₀ :: earlier) q why := by
  rcases h.refused with ⟨v, hv, hwhy⟩
  refine ⟨⟨v, List.mem_append_right _ hv, hwhy⟩, fun d u hd hne => ?_, h.missing, fun d hd => ?_,
    fun r u hr => ?_, hstep.trans h.widened⟩
  · rcases List.mem_append.mp hd with hd | hd
    · rcases hfirst _ u hd with hr | ⟨hr, hok⟩
      · exact absurd hr nofun
      · cases hr
        exact hok
    · exact h.others d u hd hne
  · rcases List.mem_cons.mp hd with hd | hd
    · rw [hd]
      exact h.widened.hasDir q₀ hthere
    · exact h.above d hd
  · rcases List.mem_append.mp hr with hr | hr
    · exact ⟨q₀, List.mem_cons_self, (hfirst r u hr).imp_right And.left⟩
    · rcases h.asked r u hr with ⟨d, hd, hrd⟩
      exact ⟨d, List.mem_cons_of_mem _ hd, hrd⟩

namespace Course

variable {given : List Path} {w w' : Keyed} {stages : List (Request × Keyed)} {o : Outcome}

/-- A course adds directories, and none but those given. -/
theorem widened (h : Course given w stages o w') (hnormal : ∀ q ∈ given, Path.normalize q = q) :
    w.Widened given w' := by
  induction h with
  | done => exact .of_calls _ _ _
  | @there q more w _ _ _ _ _ ih =>
      exact (Keyed.Widened.of_calls w [q] _).trans
        (ih fun d hd => hnormal d (List.mem_cons_of_mem _ hd))
  | made _ hmade _ ih =>
      exact (Keyed.looked_made (hnormal _ List.mem_cons_self) hmade).1.trans
        (ih fun d hd => hnormal d (List.mem_cons_of_mem _ hd))
  | refused _ hrefused =>
      rcases Keyed.looked_refused hrefused with ⟨calls, rfl⟩
      exact .of_calls _ _ calls

/-- What is made is made in turn. -/
theorem made_sublist (h : Course given w stages o w') :
    (stages.filterMap (·.1.madePath?)).Sublist given := by
  induction h with
  | done => exact List.Sublist.slnil
  | there _ _ ih => exact ih.cons _
  | made _ _ _ ih => exact ih.cons_cons _
  | refused _ _ => exact (List.nil_sublist _).cons_cons _

/-- What is made is no directory at that time. -/
theorem made_fresh (h : Course given w stages o w') (q : Path) (v : Keyed)
    (hq : (.mkdir q, v) ∈ stages) : v.hasDir q = false := by
  induction h with
  | done => exact absurd hq List.not_mem_nil
  | there _ _ ih =>
      rcases List.mem_cons.mp hq with hq | hq
      · exact absurd hq nofun
      · exact ih hq
  | made hmissing _ _ ih =>
      rcases List.mem_cons.mp hq with hq | hq
      · exact absurd hq nofun
      · rcases List.mem_cons.mp hq with hq | hq
        · cases hq
          exact hmissing
        · exact ih hq
  | refused hmissing _ =>
      rcases List.mem_cons.mp hq with hq | hq
      · exact absurd hq nofun
      · cases List.mem_singleton.mp hq
        exact hmissing

/-- After a course that ends well all directories given are there. -/
theorem complete (h : Course given w stages o w') (hnormal : ∀ q ∈ given, Path.normalize q = q)
    (hok : o.ok = true) : ∀ q ∈ given, w'.hasDir q = true := by
  induction h with
  | done => exact fun q hq => absurd hq List.not_mem_nil
  | there hthere rest ih =>
      have hmore := (List.forall_mem_cons.mp hnormal).2
      exact List.forall_mem_cons.mpr ⟨(rest.widened hmore).hasDir _ hthere, ih hmore hok⟩
  | made _ hmade rest ih =>
      rcases List.forall_mem_cons.mp hnormal with ⟨hkey, hmore⟩
      exact List.forall_mem_cons.mpr
        ⟨(rest.widened hmore).hasDir _ (Keyed.looked_made hkey hmade).2, ih hmore hok⟩
  | refused _ _ => exact absurd hok (by simp [Outcome.failedAt])

/-- A course that fails does so at one of the directories given. -/
theorem fails (h : Course given w stages o w') (hnormal : ∀ q ∈ given, Path.normalize q = q)
    (hok : o.ok = false) : ∃ earlier q later why, given = earlier ++ q :: later ∧
      o = .failedAt q why ∧ FailsAt w stages w' earlier q why := by
  induction h with
  | done => exact absurd hok (by decide)
  | @there q₀ more w w' stages o hthere rest ih =>
      rcases ih (fun d hd => hnormal d (List.mem_cons_of_mem _ hd)) hok with
        ⟨earlier, q, later, why, hgiven, ho, hfails⟩
      refine ⟨q₀ :: earlier, q, later, why, by rw [hgiven, List.cons_append], ho, ?_⟩
      refine hfails.behind [(.isDir q₀, w)] (.of_calls w _ _) hthere fun r v hr => ?_
      cases List.mem_singleton.mp hr
      exact Or.inl rfl
  | @made q₀ more w v w' stages o hmissing hmade rest ih =>
      rcases ih (fun d hd => hnormal d (List.mem_cons_of_mem _ hd)) hok with
        ⟨earlier, q, later, why, hgiven, ho, hfails⟩
      refine ⟨q₀ :: earlier, q, later, why, by rw [hgiven, List.cons_append], ho, ?_⟩
      rcases Keyed.looked_made (hnormal q₀ List.mem_cons_self) hmade with ⟨hstep, hdir⟩
      refine hfails.behind [(.isDir q₀, w), (.mkdir q₀, w.record (.isDir q₀))] hstep hdir
        fun r u hr => ?_
      rcases List.mem_cons.mp hr with hr | hr
      · cases hr
        exact Or.inl rfl
      · cases List.mem_singleton.mp hr
        exact Or.inr ⟨rfl, by rw [hmade]⟩
  | @refused q more w w' why hmissing hrefused =>
      rcases Keyed.looked_refused hrefused with ⟨calls, rfl⟩
      refine ⟨[], q, more, why, rfl, rfl, ⟨_, List.mem_cons_of_mem _ List.mem_cons_self,
        by rw [hrefused]⟩, fun d v hd hne => ?_, hmissing, fun d hd => absurd hd List.not_mem_nil,
        fun r v hr => ⟨q, List.mem_singleton_self q, ?_⟩, .of_calls w [] calls⟩
      · rcases List.mem_cons.mp hd with hd | hd
        · exact absurd hd nofun
        · cases List.mem_singleton.mp hd
          exact absurd rfl hne
      · rcases List.mem_cons.mp hr with hr | hr
        · cases hr
          exact Or.inl rfl
        · cases List.mem_singleton.mp hr
          exact Or.inr rfl

end Course

/-- A making asks for directories in turn, each inside those before it, and only where there is none
    at that time. It leaves all but the directories as it is, and adds to these at most its fronts,
    at the end of what is listed. If it ends well, they are all there. If it fails, it does so at
    one of them, with the cause of the refusal, once all in front of that are there and before it
    looks at any other. -/
theorem makeDirs_contract (p : Path) (w : Keyed) :
    let stages := (makeDirs p).run.stages w
    let made := stages.filterMap (·.1.madePath?)
    let left := ((makeDirs p).ran w).world
    ∃ o, ((makeDirs p).ran w).result = .ok o ∧
      made.Sublist (fronts p) ∧ made.Pairwise (fun a b => a ++ ['/'] <+: b) ∧
      (∀ q v, (.mkdir q, v) ∈ stages → v.hasDir q = false) ∧
      w.Widened (fronts p) left ∧
      (o.ok = true → ∀ q ∈ fronts p, left.hasDir q = true) ∧
      (o.ok = false → ∃ earlier q later why, fronts p = earlier ++ q :: later ∧
        o = .failedAt q why ∧ FailsAt w stages left earlier q why) := by
  rcases makeDirs_course p w with ⟨o, ho, hcourse⟩
  exact ⟨o, ho, hcourse.made_sublist, (fronts_pairwise p).sublist hcourse.made_sublist,
    hcourse.made_fresh, hcourse.widened (fronts_normal p), hcourse.complete (fronts_normal p),
    hcourse.fails (fronts_normal p)⟩

end Maskwalk
