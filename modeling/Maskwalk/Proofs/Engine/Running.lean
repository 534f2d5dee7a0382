import Maskwalk.Engine.Session
import Maskwalk.Proofs.Run

/-!
# Runs of acts and steps

An act runs like an attempt, with a memory that is handed on from its first half to its second,
even if there is a fault in between (`Act.ran_bind`). An attempt that is taken as an act leaves the
memory alone, and most steps of a session are such attempts. So what a session comes to with one of
these, and what it asks, is read off the attempt (`Session.perform_of_attempt`).

## Main definitions

* `Act.ran`, `Act.asked`: What an act comes to on a world, and the requests that reach it.
* `Session.asked`: The requests of a step that reach the world.

## Theorems

* `Act.ran_bind`, `Act.asked_bind`: A run in two halves, and the requests of both.
* `Act.ran_attempt`, `Act.ran_returned`: The run of an attempt, and what is made of a result.
* `ran_settle`: The run of a change.
* `Session.perform_of_attempt`, `Session.asked_of_attempt`: Steps that leave the memory alone.
* `Session.perform_of_act`: Steps that look at it.
* `Session.perform_of_change`: Steps that change the world.
* `Session.isFile_answer`, `Session.isDir_answer`: What is said about a path in a world of keys.
-/

namespace Maskwalk

section

variable {σ α β : Type} [World σ]

namespace Act

/-- What an act comes to on a world, starting from a memory. -/
def ran (a : Act α) (m : Memory) (w : σ) : Ran σ (Except Fault α × Memory) := (a.start m).run w

/-- What is left to do after the first half of an act, if it did not end in a fault. -/
def further (f : α → Act β) : Except Fault α → Act β
  | .ok a => f a
  | .error fault => throw fault

theorem start_bind (a : Act α) (f : α → Act β) (m : Memory) :
    (a >>= f).start m = (a.start m).bind fun r => (further f r.1).start r.2 := by
  change (Inquiry.bind (a.start m) fun r => (ExceptT.bindCont f r.1).run r.2) = _
  refine congrArg _ (funext fun r => ?_)
  rcases r with ⟨r, m'⟩
  cases r with
  | ok x => rfl
  | error fault => rfl

/-- The second half of an act runs with the memory and on the world that the first half leaves. -/
theorem ran_bind (a : Act α) (f : α → Act β) (m : Memory) (w : σ) :
    (a >>= f).ran m w =
      let first := a.ran m w
      let second := (further f first.result.1).ran first.result.2 first.world
      ⟨second.result, first.notices ++ second.notices, second.world⟩ := by
  rw [ran, start_bind, Inquiry.run_bind]
  rfl

/-- An act goes on from a first half that says nothing. -/
theorem ran_bind_silent {a : Act α} {f : α → Act β} {m m' : Memory} {w w' : σ} {x : α}
    (h : a.ran m w = ⟨(.ok x, m'), [], w'⟩) : (a >>= f).ran m w = (f x).ran m' w' := by
  rw [ran_bind, h]
  rfl

/-- A change of the memory leaves the world alone. -/
theorem ran_modify (change : Memory → Memory) (m : Memory) (w : σ) :
    (modify change : Act PUnit).ran m w = ⟨(.ok PUnit.unit, change m), [], w⟩ := rfl

/-- An act and what is made of its result. -/
theorem ran_returned (a : Act α) (f : α → β) (m : Memory) (w : σ) :
    (a >>= fun x => pure (f x)).ran m w =
      let ran := a.ran m w
      ⟨(ran.result.1.map f, ran.result.2), ran.notices, ran.world⟩ := by
  rw [ran_bind]
  rcases a.ran m w with ⟨⟨result, m'⟩, notices, world⟩
  cases result with
  | ok _ => exact congrArg (Ran.mk _ · _) (List.append_nil notices)
  | error fault => exact congrArg (Ran.mk _ · _) (List.append_nil notices)

/-- An attempt leaves the memory alone. -/
theorem ran_attempt (a : Attempt α) (m : Memory) (w : σ) :
    (attempt a).ran m w = ⟨((a.ran w).result, m), (a.ran w).notices, (a.ran w).world⟩ := by
  change (Inquiry.bind a.run fun r => .done (r, m)).run w = _
  rw [Inquiry.run_bind]
  simp only [Inquiry.run_done, List.append_nil]
  rfl

/-- The requests of an act that reach the world, in their order. -/
def asked (a : Act α) (m : Memory) (w : σ) : List Request := (a.start m).asked w

/-- An act asks what its first half asks, and then what its second half asks. -/
theorem asked_bind (a : Act α) (f : α → Act β) (m : Memory) (w : σ) :
    (a >>= f).asked m w = a.asked m w ++
      (further f (a.ran m w).result.1).asked (a.ran m w).result.2 (a.ran m w).world := by
  rw [asked, start_bind, Inquiry.asked_bind]
  rfl

theorem asked_attempt (a : Attempt α) (m : Memory) (w : σ) :
    (attempt a).asked m w = a.asked w := by
  change (Inquiry.bind a.run fun r => .done (r, m)).asked w = _
  rw [Inquiry.asked_bind]
  exact List.append_nil _

end Act

/-- A request and what is done with its reply. -/
theorem Attempt.ran_request_bind (q : Request) (f : q.Reply → Attempt α) (w : σ) :
    (request q >>= f).ran w = (f (q.settled w).1).ran (q.settled w).2 := rfl

theorem Attempt.asked_request_bind (q : Request) (f : q.Reply → Attempt β) (w : σ) :
    (request q >>= f).asked w = q.normal :: (f (q.settled w).1).asked (q.settled w).2 := rfl

/-- What is made of a result asks nothing more. -/
theorem Attempt.asked_returned (a : Attempt α) (f : α → β) (w : σ) :
    (a >>= fun x => pure (f x)).asked w = a.asked w := by
  rw [asked_bind]
  cases (a.ran w).result with
  | ok x => exact List.append_nil _
  | error fault => exact List.append_nil _

/-- A change comes to what it leaves and, if there is an answer, to its outcome. -/
theorem ran_settle (a : Attempt Outcome) (strict : Bool) (w : σ) :
    ((a >>= settle strict).ran w).world = (a.ran w).world ∧
      ∀ o, ((a >>= settle strict).ran w).result = .ok (.outcome o) → (a.ran w).result = .ok o := by
  have hfault : ∀ (fault : Fault) o,
      (Except.error fault : Except Fault Answer) ≠ .ok (.outcome o) :=
    fun fault o => by simp only [ne_eq, reduceCtorEq, not_false_eq_true]
  have hanswer : ∀ outcome o,
      (Except.ok (.outcome outcome) : Except Fault Answer) = .ok (.outcome o) →
      (Except.ok outcome : Except Fault Outcome) = .ok o := fun outcome o ho => by
    rw [Answer.outcome.inj (Except.ok.inj ho)]
  rw [Attempt.world_bind, Attempt.result_bind]
  cases (a.ran w).result with
  | error fault => exact ⟨rfl, fun o ho => absurd ho (hfault fault o)⟩
  | ok outcome =>
      rw [Attempt.further_ok, settle]
      cases outcome.fault? with
      | none => exact ⟨rfl, hanswer outcome⟩
      | some fault =>
          cases strict with
          | false => exact ⟨rfl, hanswer outcome⟩
          | true => exact ⟨rfl, fun o ho => absurd ho (hfault fault o)⟩

namespace Session

variable (s : Session σ)

/-- A step that is an attempt comes to what the attempt does. -/
theorem perform_of_attempt (step : Step) (a : Attempt Answer)
    (h : step.attempt? s.engine = some a) : s.perform step =
      (⟨(a.ran s.world).result, (a.ran s.world).notices⟩,
        { s with world := (a.ran s.world).world }) := by
  have hact : step.perform s.engine = Act.attempt a := by
    unfold Step.perform
    rw [h]
  have hran := Act.ran_attempt a s.memory s.world
  unfold Act.ran at hran
  unfold perform
  rw [hact, hran]

/-- A step that looks at the memory comes to what its act does. -/
theorem perform_of_act (step : Step) (a : Act α) (f : α → Answer)
    (h : step.perform s.engine = a >>= fun x => pure (f x)) :
    let ran := a.ran s.memory s.world
    s.perform step = (⟨ran.result.1.map f, ran.notices⟩,
      { s with memory := ran.result.2, world := ran.world }) := by
  have hran := Act.ran_returned a f s.memory s.world
  unfold Act.ran at hran
  unfold perform
  rw [h, hran]
  rfl

/-- The requests that reach the world during a step, in their order. -/
def asked (step : Step) : List Request := (step.perform s.engine).asked s.memory s.world

/-- A step that is an attempt asks what the attempt asks. -/
theorem asked_of_attempt (step : Step) (a : Attempt Answer)
    (h : step.attempt? s.engine = some a) : s.asked step = a.asked s.world := by
  unfold asked Step.perform
  rw [h]
  exact Act.asked_attempt a s.memory s.world

/-- A step that is a change leaves the world that the change leaves, and its answer is the
    outcome. -/
theorem perform_of_change (step : Step) (a : Attempt Outcome) (strict : Bool)
    (h : step.attempt? s.engine = some (a >>= settle strict)) :
    (s.perform step).2.world = (a.ran s.world).world ∧
      ∀ o, (s.perform step).1.result = .ok (.outcome o) → (a.ran s.world).result = .ok o := by
  rw [s.perform_of_attempt step _ h]
  exact ran_settle a strict s.world

end Session

end

namespace Session

variable (s : Session Keyed) (p : Path)

/-- In a world of keys a path is a file if its normal form is the key of one, -/
theorem isFile_answer : (s.perform (.isFile p)).1.result =
    .ok (.flag (s.world.hasFile (Path.normalize p))) := rfl

/-- and the same goes for directories. -/
theorem isDir_answer : (s.perform (.isDir p)).1.result =
    .ok (.flag (s.world.hasDir (Path.normalize p))) := rfl

end Session

end Maskwalk
