import Maskwalk.Fault

/-!
# Runs of attempts

What an attempt comes to on a world, and what it asks on the way. Running an attempt is running
the inquiry it is; a fault ends it, and what was done before stays done. `ran_bind` is the one
fact that takes programs apart: the second half of an attempt runs on the world that the first
half leaves, unless that ended in a fault.

`asked` collects the requests of a run in the order in which they reach the world, with their
paths in normal form. It is read off the program and not off the world, so it also holds the
requests that a world refuses without recording them.

## Main definitions

* `Attempt.ran`: What an attempt comes to on a world.
* `Inquiry.asked`, `Attempt.asked`: The requests that reach the world.
* `Request.normal`: A request with its path in normal form.

## Theorems

* `Attempt.ran_bind`: A run in two halves.
* `Attempt.asked_bind`: The requests of both halves.
-/

namespace Maskwalk

/-- A request with its path in normal form, as it reaches the world. -/
def Request.normal : Request → Request
  | .listDir p => .listDir (Path.normalize p)
  | .isFile p => .isFile (Path.normalize p)
  | .isDir p => .isDir (Path.normalize p)
  | .mkdir p => .mkdir (Path.normalize p)
  | .rmdir p => .rmdir (Path.normalize p)
  | .remove p => .remove (Path.normalize p)
  | .stat p => .stat (Path.normalize p)
  | .readText p => .readText (Path.normalize p)
  | q => q

section Runs

variable {σ α β : Type} [World σ]

namespace Inquiry

/-- The requests that reach the world during a run, in their order. -/
def asked : Inquiry α → σ → List Request
  | done _, _ => []
  | ask q next, w => q.normal :: asked (next (q.settled w).1) (q.settled w).2
  | say _ next, w => asked next w

theorem asked_bind (i : Inquiry α) (f : α → Inquiry β) (w : σ) :
    (i.bind f).asked w = i.asked w ++ (f (i.run w).result).asked (i.run w).world := by
  induction i generalizing w with
  | done a => rfl
  | ask q next ih =>
      change q.normal :: _ = q.normal :: _ ++ _
      rw [ih, List.cons_append]
      rfl
  | say n next ih =>
      change (next.bind f).asked w = _
      rw [ih]
      rfl

end Inquiry

namespace Attempt

/-- What an attempt comes to on a world. -/
def ran (a : Attempt α) (w : σ) : Ran σ (Except Fault α) := Inquiry.run a.run w

/-- The requests that reach the world during an attempt, in their order. -/
def asked (a : Attempt α) (w : σ) : List Request := Inquiry.asked a.run w

/-- What is left to do after the first half of an attempt, if it did not end in a fault. -/
def further (f : α → Attempt β) : Except Fault α → Attempt β
  | .ok a => f a
  | .error fault => throw fault

@[simp] theorem ran_request (q : Request) (w : σ) :
    (request q).ran w = ⟨.ok (q.settled w).1, [], (q.settled w).2⟩ := rfl

theorem bindCont_eq_further (f : α → Attempt β) :
    (ExceptT.bindCont f : Except Fault α → Inquiry (Except Fault β))
      = fun r => (further f r).run := by
  funext r
  cases r with
  | ok a => rfl
  | error fault => rfl

/-- The second half of an attempt runs on the world that the first half leaves, and not at all if
    that ended in a fault. -/
theorem ran_bind (a : Attempt α) (f : α → Attempt β) (w : σ) :
    (a >>= f).ran w =
      let first := a.ran w
      let second := (further f first.result).ran first.world
      ⟨second.result, first.notices ++ second.notices, second.world⟩ := by
  -- Binding attempts is binding inquiries, with the fault passed on in between.
  change (Inquiry.bind a.run (ExceptT.bindCont f)).run w = _
  rw [bindCont_eq_further, Inquiry.run_bind]
  rfl

theorem result_bind (a : Attempt α) (f : α → Attempt β) (w : σ) :
    ((a >>= f).ran w).result = ((further f (a.ran w).result).ran (a.ran w).world).result := by
  rw [ran_bind]

theorem world_bind (a : Attempt α) (f : α → Attempt β) (w : σ) :
    ((a >>= f).ran w).world = ((further f (a.ran w).result).ran (a.ran w).world).world := by
  rw [ran_bind]

theorem notices_bind (a : Attempt α) (f : α → Attempt β) (w : σ) :
    ((a >>= f).ran w).notices =
      (a.ran w).notices ++ ((further f (a.ran w).result).ran (a.ran w).world).notices := by
  rw [ran_bind]

@[simp] theorem further_ok (f : α → Attempt β) (a : α) : further f (.ok a) = f a := rfl

@[simp] theorem further_error (f : α → Attempt β) (fault : Fault) :
    further f (.error fault) = throw fault := rfl

theorem result_throw (fault : Fault) (w : σ) :
    ((throw fault : Attempt α).ran w).result = .error fault := rfl

/-- An attempt whose fault is caught always has a result: what came out of it. -/
theorem ran_caught (a : Attempt α) (w : σ) :
    a.caught.ran w = ⟨.ok (a.ran w).result, (a.ran w).notices, (a.ran w).world⟩ := by
  -- Catching wraps the result whatever it is, and asks nothing more.
  change (Inquiry.bind a.run fun r => Inquiry.done (Except.ok r)).run w = _
  rw [Inquiry.run_bind]
  simp only [Inquiry.run_done, List.append_nil]
  rfl

@[simp] theorem asked_pure (a : α) (w : σ) : (pure a : Attempt α).asked w = [] := rfl

@[simp] theorem asked_throw (fault : Fault) (w : σ) : (throw fault : Attempt α).asked w = [] := rfl

@[simp] theorem asked_request (q : Request) (w : σ) : (request q).asked w = [q.normal] := rfl

@[simp] theorem asked_notice (n : Notice) (w : σ) : (notice n).asked w = [] := rfl

/-- An attempt asks what its first half asks and then, if there was no fault, what its second half
    asks. -/
theorem asked_bind (a : Attempt α) (f : α → Attempt β) (w : σ) :
    (a >>= f).asked w = a.asked w ++ (further f (a.ran w).result).asked (a.ran w).world := by
  change (Inquiry.bind a.run (ExceptT.bindCont f)).asked w = _
  rw [bindCont_eq_further, Inquiry.asked_bind]
  rfl

theorem asked_caught (a : Attempt α) (w : σ) : a.caught.asked w = a.asked w := by
  change (Inquiry.bind a.run fun r => Inquiry.done (Except.ok r)).asked w = _
  rw [Inquiry.asked_bind]
  exact List.append_nil _

end Attempt

end Runs

end Maskwalk
