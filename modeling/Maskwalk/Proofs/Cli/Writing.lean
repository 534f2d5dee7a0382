import Maskwalk.Cli.Output
import Maskwalk.Proofs.Engine.Running

/-!
# Jobs at work

What a job comes to depends on its memory, on the world, and on the device that its output goes to.
Putting in the answers of the device is compatible with doing one thing after another, and so a job
runs in two halves like an act: the second half starts from what the first half has written, be it
that the device refused a piece or that something else went wrong in between.

A row of lines is printed up to the first piece that the device refuses. All that a job has printed
before stays in front of it.

## Main definitions

* `Job.ran`: What a job comes to.

## Theorems

* `Device.send_append`: Two rows of pieces.
* `Device.send_ready`, `Device.send_refused`: What is written if nothing is refused, or something.
* `Writing.onto_bind`: Two computations that write.
* `Job.ran_bind`, `Job.ran_act`: A run in two halves, and the run of an act.
* `Job.ran_print_bind`: A job that goes on from lines that it prints.
-/

namespace Maskwalk

namespace Device

variable (d : Device) (written : Text)

/-- The second of two rows of pieces is sent behind the first, unless that one was cut short. -/
theorem send_append (pieces more : List Text) : d.send written (pieces ++ more) =
    match d.send written pieces with
    | (sent, none) => d.send sent more
    | (sent, some why) => (sent, some why) := by
  induction pieces generalizing written with
  | nil => rfl
  | cons piece pieces ih =>
      simp only [List.cons_append, send]
      cases d.refusal? written piece with
      | none => exact ih _
      | some why => rfl

/-- A device that takes everything gets all pieces. -/
theorem send_ready (pieces : List Text) :
    ready.send written pieces = (written ++ pieces.flatten, none) := by
  induction pieces generalizing written with
  | nil => rw [List.flatten_nil, List.append_nil]; rfl
  | cons piece pieces ih =>
      rw [List.flatten_cons, ← List.append_assoc]
      exact ih _

/-- A row that is cut short has a piece that is refused, and what is in front of it is written. -/
theorem send_refused {pieces : List Text} {why : Text}
    (h : (d.send written pieces).2 = some why) :
    ∃ front piece rest, pieces = front ++ piece :: rest ∧
      (d.send written pieces).1 = written ++ front.flatten ∧
      d.refusal? (written ++ front.flatten) piece = some why := by
  induction pieces generalizing written with
  | nil => exact absurd h nofun
  | cons piece pieces ih =>
      unfold send at h ⊢
      cases hrefusal : d.refusal? written piece with
      | none =>
          rw [hrefusal] at h
          rcases ih _ h with ⟨front, next, rest, rfl, hsent, hnext⟩
          refine ⟨piece :: front, next, rest, rfl, ?_⟩
          rw [List.flatten_cons, ← List.append_assoc]
          exact ⟨hsent, hnext⟩
      | some reason =>
          rw [hrefusal] at h
          refine ⟨[], piece, pieces, rfl, (List.append_nil written).symm, ?_⟩
          rw [List.flatten_nil, List.append_nil, hrefusal]
          exact h

end Device

namespace Writing

variable {α β : Type} (d : Device)

/-- The second of two computations goes on behind what the first has written. -/
theorem onto_bind (i : Writing α) (f : α → Writing β) (written : Text) :
    (i.bind f).onto d written = (i.onto d written).bind fun r => (f r.1).onto d r.2 := by
  induction i generalizing written with
  | done a => rfl
  | ask q next ih => exact congrArg (Inquiry.ask q) (funext fun reply => ih reply written)
  | say n next ih => exact congrArg (Inquiry.say n) (ih written)
  | write piece next ih =>
      simp only [bind, onto]
      cases d.refusal? written piece with
      | none => exact ih none _
      | some why => exact ih (some why) _

theorem onto_ofInquiry (i : Inquiry α) (written : Text) :
    (ofInquiry i).onto d written = i.bind fun a => .done (a, written) := by
  induction i with
  | done a => rfl
  | ask q next ih => exact congrArg (Inquiry.ask q) (funext ih)
  | say n next ih => exact congrArg (Inquiry.say n) ih

end Writing

namespace Job

variable {σ α β : Type} [World σ] (d : Device)

/-- What a job comes to on a world, with its output on a device behind what is already written:
    a result or a fault, the memory, and all that is written. -/
def ran (j : Job α) (m : Memory) (written : Text) (w : σ) :
    Ran σ ((Except Fault α × Memory) × Text) :=
  ((j.start m).onto d written).run w

/-- What is left to do after the first half of a job, if it did not end in a fault. -/
def further (f : α → Job β) : Except Fault α → Job β
  | .ok a => f a
  | .error fault => throw fault

theorem start_bind (j : Job α) (f : α → Job β) (m : Memory) :
    (j >>= f).start m = (j.start m).bind fun r => (further f r.1).start r.2 := by
  change (Writing.bind (j.start m) fun r => (ExceptT.bindCont f r.1).run r.2) = _
  refine congrArg _ (funext fun r => ?_)
  rcases r with ⟨r, m'⟩
  cases r with
  | ok x => rfl
  | error fault => rfl

/-- The second half of a job goes on from the memory, the output and the world that the first half
    leaves. -/
theorem ran_bind (j : Job α) (f : α → Job β) (m : Memory) (written : Text) (w : σ) :
    (j >>= f).ran d m written w =
      let first := j.ran d m written w
      let second := (further f first.result.1.1).ran d first.result.1.2 first.result.2 first.world
      ⟨second.result, first.notices ++ second.notices, second.world⟩ := by
  rw [ran, start_bind, Writing.onto_bind, Inquiry.run_bind]
  rfl

/-- An act leaves the output alone. -/
theorem ran_act (a : Act α) (m : Memory) (written : Text) (w : σ) :
    (act a).ran d m written w =
      ⟨((a.ran m w).result, written), (a.ran m w).notices, (a.ran m w).world⟩ := by
  change ((Writing.ofInquiry (a.start m)).onto d written).run w = _
  rw [Writing.onto_ofInquiry, Inquiry.run_bind]
  simp only [Inquiry.run_done, List.append_nil]
  rfl

theorem ran_write (piece : Text) (m : Memory) (written : Text) (w : σ) :
    (write piece).ran d m written w =
      match d.refusal? written piece with
      | none => ⟨((.ok (), m), written ++ piece), [], w⟩
      | some why => ⟨((.error (.failed (.other why)), m), written), [], w⟩ := by
  have hstart : (write piece).start m =
      .write piece fun refusal => .done (taken refusal, m) := rfl
  rw [ran, hstart, Writing.onto]
  cases d.refusal? written piece with
  | none => rfl
  | some why => rfl

/-- Pieces are written up to the first that is refused, which is a fault. -/
theorem ran_writeAll (pieces : List Text) (m : Memory) (written : Text) (w : σ) :
    (writeAll pieces).ran d m written w =
      ⟨((taken (d.send written pieces).2, m), (d.send written pieces).1), [], w⟩ := by
  induction pieces generalizing written with
  | nil => rfl
  | cons piece pieces ih =>
      unfold writeAll Device.send
      rw [ran_bind, ran_write]
      cases d.refusal? written piece with
      | none => exact ih _
      | some why => rfl

/-- A job goes on from lines that it prints, unless one of their pieces is refused. -/
theorem ran_print_bind (lines : List Text) (j : Job α) (m : Memory) (written : Text) (w : σ) :
    (print lines >>= fun _ => j).ran d m written w =
      match d.send written (piecesOf lines) with
      | (sent, none) => j.ran d m sent w
      | (sent, some why) => ⟨((.error (.failed (.other why)), m), sent), [], w⟩ := by
  rw [ran_bind, print, ran_writeAll]
  rcases d.send written (piecesOf lines) with ⟨sent, refusal⟩
  cases refusal with
  | none => rfl
  | some why => rfl

end Job

end Maskwalk
