import Maskwalk.Notice
import Maskwalk.World.Request

/-!
# Inquiries

An inquiry is a computation that puts requests to a world and says notices on the way. It is a
tree: a leaf is a result, a node is a request with one branch for every reply, or a notice. The
same inquiry can be run on any world, and what it asks can be read off the tree before any world
is chosen.

`run` walks down the branch that a world's replies select. Every request is settled on the way, so
a world never sees a path that is not in its normal form. Running a computation followed by another
is running the one and then the other on the world it leaves (`run_bind`).

## Main definitions

* `Inquiry`: computations that ask.
* `Inquiry.run`: the result of an inquiry on a world, its notices, and the world after it.
* `Inquiry.run_bind`: runs compose.
-/

namespace Maskwalk

/-- A computation that puts requests to a world and says notices. -/
inductive Inquiry (α : Type) : Type where
  | done (result : α)
  | ask (request : Request) (next : request.Reply → Inquiry α)
  | say (notice : Notice) (next : Inquiry α)

/-- What a run leaves: a result, the notices in the order they were said, and a world. -/
structure Ran (σ α : Type) where
  result : α
  notices : List Notice
  world : σ

namespace Inquiry

/-- One inquiry after another that depends on its result. -/
def bind {α β : Type} : Inquiry α → (α → Inquiry β) → Inquiry β
  | done a, f => f a
  | ask q next, f => ask q fun reply => bind (next reply) f
  | say n next, f => say n (bind next f)

instance : Monad Inquiry where
  pure := done
  bind := bind

/-- Runs an inquiry on a world. -/
def run {σ α : Type} [World σ] : Inquiry α → σ → Ran σ α
  | done a, w => ⟨a, [], w⟩
  | ask q next, w =>
    let (reply, w) := q.settled w
    run (next reply) w
  | say n next, w =>
    let ran := run next w
    { ran with notices := n :: ran.notices }

/-- A single request. -/
def request (q : Request) : Inquiry q.Reply := ask q done

/-- A single notice. -/
def notice (n : Notice) : Inquiry Unit := say n (done ())

@[simp] theorem run_done {σ α : Type} [World σ] (a : α) (w : σ) : (done a).run w = ⟨a, [], w⟩ :=
  rfl

@[simp] theorem run_ask {σ α : Type} [World σ] (q : Request) (next : q.Reply → Inquiry α) (w : σ) :
    (ask q next).run w = (next (q.settled w).1).run (q.settled w).2 :=
  rfl

@[simp] theorem run_say {σ α : Type} [World σ] (n : Notice) (next : Inquiry α) (w : σ) :
    (say n next).run w =
      ⟨(next.run w).result, n :: (next.run w).notices, (next.run w).world⟩ :=
  rfl

/-- A run of two inquiries in a row is a run of the first, and a run of the second on the world
    that the first leaves; the notices follow each other. -/
theorem run_bind {σ α β : Type} [World σ] (i : Inquiry α) (f : α → Inquiry β) (w : σ) :
    (i.bind f).run w =
      let first := i.run w
      let second := (f first.result).run first.world
      ⟨second.result, first.notices ++ second.notices, second.world⟩ := by
  induction i generalizing w with
  | done a => simp [bind]
  | ask q next ih => simp [bind, ih]
  | say n next ih => simp [bind, ih]

end Inquiry

end Maskwalk
