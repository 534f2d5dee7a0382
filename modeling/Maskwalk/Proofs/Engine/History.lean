import Maskwalk.Engine.Session
import Maskwalk.Proofs.Engine.Queries
import Maskwalk.Proofs.Tree.Keeping

/-!
# Histories

A session on a world of keys is a history of steps, each of which may fail at any point and leave
its work half done. Whatever the steps are, and in whatever order, a world that was consistent at
the start stays so, as long as the steps that make or remove something at a path are given safe
paths. This holds between the steps and at every request of a step, and so a change that fails is
always refused by the system, and never shows that the tables have fallen into disarray.

A step is one program, which keeps careful terms (`Step.perform_keeps`), and a history is an
induction over its events. What may be done with the tree can change in between.

## Main definitions

* `Step.IsCareful`, `Event.IsCareful`: steps and events that keep to safe paths.
* `Session.stages`: the requests of a step, each with the world that it finds.

## Theorems

* `Step.perform_keeps`: A careful step keeps careful terms.
* `Session.after_consistent`: What happens to a world at one event.
* `Session.through_consistent`: What happens to it in the course of a history.
-/

namespace Maskwalk

open Keyed (Consistent)

/-- Whether a step that makes or removes something at a path does so at a safe one. -/
def Step.IsCareful : Step → Prop
  | .makeDirs path _ | .removeTree path _ => Path.IsSafe path
  | .mkdir path | .rmdir path | .remove path => Path.IsSafe path
  | _ => True

/-- Whether a change from outside leaves the tree as it is. -/
def Keyed.Change.isSetting : Keyed.Change → Bool
  | .addFile .. | .addDir _ => false
  | _ => true

/-- Whether an event leaves the tree as it is, or keeps to safe paths. -/
def Event.IsCareful : Event → Prop
  | .step s => s.IsCareful
  | .scripts _ => True
  | .change c => c.isSetting = true

theorem settle_quiet (strict : Bool) (outcome : Outcome) : (settle strict outcome).Quiet := by
  unfold settle
  split
  · split
    · exact Attempt.Quiet.throw _
    · exact Attempt.Quiet.pure _
  · exact Attempt.Quiet.pure _

/-- A careful step keeps careful terms. -/
theorem Step.perform_keeps (e : Engine) (s : Step) (hs : s.IsCareful) :
    (s.perform e).Keeps Terms.careful fun _ => True := by
  have hsettled : ∀ {a : Attempt Outcome} (strict : Bool), (a.Keeps Terms.careful fun _ => True) →
      (Act.attempt (a >>= settle strict)).Keeps Terms.careful fun _ => True :=
    fun strict ha => Act.Keeps.attempt
      (ha.bind fun outcome _ => (settle_quiet strict outcome).keeps careful_allowsQueries)
  cases s with
  | makeDirs path strict => exact hsettled strict (makeDirs_keeps path hs.inner)
  | removeAll target strict => exact hsettled strict (removeAll_keeps e.matcher target)
  | removeTree path strict => exact hsettled strict (removeTree_keeps e.matcher path hs.inner)
  | mkdir path | rmdir path | remove path =>
      refine Act.Keeps.attempt (Attempt.Keeps.bind (Attempt.Keeps.request hs.inner fun _ hr => hr)
        fun reply _ => ?_)
      exact ((Attempt.Quiet.orFail reply).returned _).keeps careful_allowsQueries
  | _ => exact (Step.perform_quiet e _ rfl).keeps careful_allowsQueries

namespace Session

/-- The requests of a step in a session, each with the world that it finds. -/
def stages (s : Session Keyed) (step : Step) : List (Request × Keyed) :=
  ((step.perform s.engine).start s.memory).stages s.world

section

variable (s : Session Keyed) (hw : s.world.Consistent)

include hw

/-- A careful step leaves a consistent world consistent, and no request on the way is careless. -/
theorem perform_consistent (step : Step) (hstep : step.IsCareful) :
    (s.perform step).2.world.Consistent ∧
      ∀ q w, (q, w) ∈ s.stages step → q.IsCareful ∧ w.Consistent := by
  rcases (Step.perform_keeps s.engine step hstep s.memory).run Keyed.careful_upheld s.world hw with
    ⟨hstages, hworld, _⟩
  exact ⟨hworld, hstages⟩

/-- A consistent world is consistent after an event. -/
theorem after_consistent (event : Event) (he : event.IsCareful) :
    (s.after event).world.Consistent := by
  cases event with
  | step step => exact (s.perform_consistent hw step he).1
  | scripts list => exact hw
  | change change =>
      cases change with
      | addFile | addDir => exact absurd he Bool.false_ne_true
      | setVariable name value => cases value <;> exact hw.of_tables rfl rfl
      | _ => exact hw.of_tables rfl rfl

omit hw in
/-- A consistent world is consistent after a history. -/
theorem consistent_of_through (history : List Event) (hh : ∀ e ∈ history, e.IsCareful) :
    ∀ s : Session Keyed, s.world.Consistent → (s.through history).world.Consistent := by
  induction history with
  | nil => exact fun s hw => hw
  | cons event more ih =>
      intro s hw
      exact ih (fun e he => hh e (List.mem_cons_of_mem _ he)) _
        (s.after_consistent hw event (hh event List.mem_cons_self))

/-- In the course of a history of careful events a consistent world stays consistent: after every
    event, and before and after every request of a step. A change that fails is refused by the
    system. -/
theorem through_consistent (history : List Event) (hh : ∀ e ∈ history, e.IsCareful) :
    (∀ earlier later, history = earlier ++ later → (s.through earlier).world.Consistent) ∧
    ∀ earlier step later, history = earlier ++ .step step :: later →
      ∀ q w, (q, w) ∈ (s.through earlier).stages step →
        w.Consistent ∧ (q.settled w).2.Consistent ∧
          ∀ why, q.Fails (q.settled w).1 why → why.isRefusal = true := by
  have hearlier : ∀ earlier later, history = earlier ++ later →
      (s.through earlier).world.Consistent := fun earlier later heq =>
    consistent_of_through earlier (fun e he => hh e (by
      rw [heq]
      exact List.mem_append_left _ he)) s hw
  refine ⟨hearlier, fun earlier step later heq q w hq => ?_⟩
  have hstep : step.IsCareful := hh (.step step) (by
    rw [heq]
    exact List.mem_append_right _ List.mem_cons_self)
  rcases ((s.through earlier).perform_consistent (hearlier earlier _ heq) step hstep).2 q w hq with
    ⟨hcareful, hconsistent⟩
  exact ⟨hconsistent, hconsistent.settled q hcareful⟩

end

/-- A session on the world of a small tree. -/
def onGrove : Session Keyed where
  config := {}
  host := ⟨"Linux".toList, "x86_64".toList, "6.1".toList, "debian".toList⟩
  hostOs := none
  engine := {
    platform := ⟨"linux".toList, none, ⟨"Linux".toList, "x86_64".toList, "6.1".toList, []⟩⟩
    matcher := ⟨true, none, none⟩
    scripts := none
    searchVariable := "PATH".toList
    linkerConf := "/etc/ld.so.conf".toList }
  memory := .fresh
  world := .grove

/-- A history in which a removal fails, since a directory further down has become read-only. -/
def pruning : List Event := [
  .step (.makeDirs "a/c/d".toList true),
  .change (.setReadonly "a/b".toList),
  .step (.removeTree "a".toList true),
  .step (.removeAll (.mask "/*".toList) false)]

theorem through_consistent_pruning :
    (onGrove.world.Consistent ∧ ∀ e ∈ pruning, e.IsCareful) ∧
    (∀ earlier later, pruning = earlier ++ later → (onGrove.through earlier).world.Consistent) ∧
    ∀ earlier step later, pruning = earlier ++ .step step :: later →
      ∀ q w, (q, w) ∈ (onGrove.through earlier).stages step →
        w.Consistent ∧ (q.settled w).2.Consistent ∧
          ∀ why, q.Fails (q.settled w).1 why → why.isRefusal = true := by
  have hgrove : onGrove.world.Consistent := Keyed.ordinary_grove.consistent (by decide) (by decide)
  have hcareful : ∀ e ∈ pruning, e.IsCareful := by
    simp only [pruning, List.forall_mem_cons, Event.IsCareful, Step.IsCareful]
    exact ⟨by decide, rfl, by decide, trivial, fun e he => absurd he List.not_mem_nil⟩
  exact ⟨⟨hgrove, hcareful⟩, through_consistent onGrove hgrove pruning hcareful⟩

-- What could not be removed is still listed, and nothing else is left of the tree.
set_option maxRecDepth 4000 in
example : (onGrove.through pruning).world.dirs =
    [([], [['a']]), (['/'], []), (['a'], [['b']]), (['a', '/', 'b'], [['g']])] := by decide

end Session

end Maskwalk
