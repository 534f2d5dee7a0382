import Maskwalk.Proofs.Run
import Maskwalk.Walk

/-!
# What is said on a walk

A program may say much while it works, but what is said for debugging only is not logged. A program
is *hushed* if all that it says is of this kind, whatever the replies are that it gets. That is read
off the program, in the way in which it is put together, and then holds of every run. A match is
hushed: a directory that a walk has to skip is no matter for the log.

## Main definitions

* `Inquiry.Hushed`, `Attempt.Hushed`: programs that log nothing.

## Theorems

* `Inquiry.Hushed.notices`, `Attempt.Hushed.notices`: What a run of such a program says.
* `Attempt.Hushed.bind`: Programs in a row.
* `walk_hushed`, `Matcher.matching_hushed`: Walks and matches log nothing.
-/

namespace Maskwalk

variable {σ α β : Type}

namespace Inquiry

/-- An inquiry that logs nothing, whatever the replies are. -/
def Hushed : Inquiry α → Prop
  | done _ => True
  | ask _ next => ∀ reply, Hushed (next reply)
  | say n next => n.level = .debug ∧ Hushed next

theorem Hushed.bind {i : Inquiry α} {f : α → Inquiry β} (hi : i.Hushed)
    (hf : ∀ a, (f a).Hushed) : (i.bind f).Hushed := by
  induction i with
  | done a => exact hf a
  | ask q next ih => exact fun reply => ih reply (hi reply)
  | say n next ih => exact ⟨hi.1, ih hi.2⟩

/-- Whatever a hushed inquiry says on any world is for debugging. -/
theorem Hushed.notices [World σ] {i : Inquiry α} (hi : i.Hushed) (w : σ) :
    ∀ n ∈ (i.run w).notices, n.level = .debug := by
  induction i generalizing w with
  | done a => exact fun n hn => absurd hn List.not_mem_nil
  | ask q next ih => exact ih _ (hi _) _
  | say m next ih =>
      intro n hn
      rcases List.mem_cons.mp hn with hn | hn
      · rw [hn]
        exact hi.1
      · exact ih hi.2 w n hn

end Inquiry

namespace Attempt

/-- An attempt that logs nothing, whatever the replies are. -/
def Hushed (a : Attempt α) : Prop := Inquiry.Hushed a.run

namespace Hushed

theorem pure (x : α) : (Pure.pure x : Attempt α).Hushed := trivial

theorem throw (fault : Fault) : (throw fault : Attempt α).Hushed := trivial

theorem request (q : Request) : (Attempt.request q).Hushed := fun _ => trivial

theorem notice {n : Notice} (hn : n.level = .debug) : (Attempt.notice n).Hushed := ⟨hn, trivial⟩

theorem bind {a : Attempt α} {f : α → Attempt β} (ha : a.Hushed) (hf : ∀ x, (f x).Hushed) :
    (a >>= f).Hushed := by
  change (Inquiry.bind a.run (ExceptT.bindCont f)).Hushed
  rw [bindCont_eq_further]
  refine Inquiry.Hushed.bind ha fun r => ?_
  cases r with
  | ok x => exact hf x
  | error fault => exact throw fault

theorem notices [World σ] {a : Attempt α} (ha : a.Hushed) (w : σ) :
    ∀ n ∈ (a.ran w).notices, n.level = .debug :=
  Inquiry.Hushed.notices ha w

end Hushed

end Attempt

open Attempt

theorem listing_hushed (isStart : Bool) (dir : Path) : (listing isStart dir).Hushed := by
  refine Hushed.bind (Hushed.request _) fun reply => ?_
  cases reply with
  | ok entries => exact Hushed.pure _
  | error why =>
      simp only
      split
      · exact Hushed.pure _
      split
      · exact Hushed.throw _
      split
      · exact Hushed.throw _
      · exact Hushed.bind (Hushed.notice rfl) fun _ => Hushed.pure _

theorem gather_hushed (visit : Path → Attempt (List Path)) (dirs : List Path)
    (hvisit : ∀ dir, (visit dir).Hushed) : (gather visit dirs).Hushed := by
  induction dirs with
  | nil => exact Hushed.pure _
  | cons dir more ih =>
      exact Hushed.bind (hvisit dir) fun _ => Hushed.bind ih fun _ => Hushed.pure _

/-- A walk logs nothing. -/
theorem walk_hushed (s : Selection) : ∀ (depth : Nat) (isStart : Bool) (dir : Path),
    (walk s depth isStart dir).Hushed := by
  intro depth
  induction depth with
  | zero => exact fun _ _ => Hushed.throw _
  | succ depth ih =>
      intro isStart dir
      refine Hushed.bind (listing_hushed isStart dir) fun entries => ?_
      simp only
      split
      · refine Hushed.bind (listing_hushed false dir) fun again => ?_
        exact Hushed.bind (gather_hushed _ _ (ih false)) fun _ => Hushed.pure _
      · exact Hushed.pure _

namespace Matcher

theorem ruleOr_hushed (set : Option Regex) (given : Option Rule) : (ruleOr set given).Hushed := by
  cases given with
  | none => exact Hushed.pure _
  | some rule =>
      unfold ruleOr
      simp only
      split
      · exact Hushed.pure _
      · exact Hushed.throw _

/-- A match logs nothing. -/
theorem matching_hushed (m : Matcher) (mask : Path) (files : Bool)
    (dirRule fileRule : Option Rule) : (m.matching mask files dirRule fileRule).Hushed := by
  refine Hushed.bind (ruleOr_hushed _ _) fun dirs => ?_
  refine Hushed.bind (ruleOr_hushed _ _) fun names => ?_
  refine Hushed.bind (Hushed.notice rfl) fun _ => ?_
  exact Hushed.bind (Hushed.request _) fun depth => walk_hushed _ _ _ _

end Matcher

end Maskwalk
