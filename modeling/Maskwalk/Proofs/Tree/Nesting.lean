import Maskwalk.Proofs.Run
import Maskwalk.Tree

/-!
# Nested targets

A target is a tree whose leaves are paths, masks and strangers, which are whatever else a caller can
hand over. Its removal follows the tree. Here the tree is forgotten: removing what a target stands
for is the same program as going once through the list of its leaves, and so the lists in between,
empty ones included, are never seen in an answer, in a world or among the requests.

Three things end the round before the list does. A stranger is a fault, but only when its turn
comes, so what stands in front of it has been removed by then. A removal can be a fault, and it can
fail; then the round ends with that. `InTurn` says this as a relation between a list, a world and
what comes out, with one rule for each way in which a round goes on or ends, and no rule looks
behind the leaf at which a round ends.

Both programs are trees of requests, and the proof compares these and not their runs. For this
inquiries have to obey the laws of monads.

## Main definitions

* `Leaf`, `Target.leaves`: What a target holds at its ends, from left to right.
* `removeInTurn`: Removing what leaves stand for, one after the other.
* `InTurn`: What such a round comes to, and what it asks.

## Theorems

* `removeAll_flat`: Removing what a target stands for is a round through its leaves.
* `inTurn_iff`: What a round comes to is what its rules say.
* `removeAll_inTurn`: So it is for a target, however it is nested.
-/

namespace Maskwalk

open Attempt

/-- One computation after another after a third is one after the two others. -/
theorem Inquiry.bind_assoc {α β γ : Type} (i : Inquiry α) (f : α → Inquiry β) (g : β → Inquiry γ) :
    (i.bind f).bind g = i.bind fun a => (f a).bind g := by
  induction i with
  | done a => rfl
  | ask q next ih => exact congrArg (Inquiry.ask q) (funext ih)
  | say n next ih => exact congrArg (Inquiry.say n) ih

theorem Inquiry.bind_done {α : Type} (i : Inquiry α) : i.bind Inquiry.done = i := by
  induction i with
  | done a => rfl
  | ask q next ih => exact congrArg (Inquiry.ask q) (funext ih)
  | say n next ih => exact congrArg (Inquiry.say n) ih

instance : LawfulMonad Inquiry :=
  LawfulMonad.mk' Inquiry Inquiry.bind_done (fun _ _ => rfl) Inquiry.bind_assoc

/-- What a target holds at an end: a path or mask, or something of a kind that means nothing. -/
inductive Leaf where
  | mask (text : Path)
  | other (kind : Text)

mutual

/-- What a target holds at its ends, from left to right. -/
def Target.leaves : Target → List Leaf
  | .mask text => [.mask text]
  | .many targets => leavesOfEach targets
  | .other kind => [.other kind]

/-- What targets hold at their ends, from left to right. -/
def leavesOfEach : List Target → List Leaf
  | [] => []
  | target :: more => target.leaves ++ leavesOfEach more

end

/-- Removes all files that a leaf stands for. -/
def Leaf.removed (m : Matcher) : Leaf → Attempt Outcome
  | .mask text => removeMask m text
  | .other kind => throw (.notATarget kind)

/-- Removes all files that leaves stand for, in turn, up to the first failure. -/
def removeInTurn (m : Matcher) : List Leaf → Attempt Outcome
  | [] => return .done
  | leaf :: more => do
    let outcome ← leaf.removed m
    if outcome.ok then removeInTurn m more else return outcome

/-- What is left of a round after an outcome: nothing if that is a failure. -/
def goOn (rest : Attempt Outcome) (outcome : Outcome) : Attempt Outcome :=
  if outcome.ok then rest else return outcome

theorem removeInTurn_cons (m : Matcher) (leaf : Leaf) (more : List Leaf) :
    removeInTurn m (leaf :: more) = leaf.removed m >>= goOn (removeInTurn m more) := rfl

/-- Going on with nothing more to do changes no removal of files, since such a removal has no
    outcome but a failure and the plain success. -/
theorem removeFiles_goOn (files : List Path) :
    removeFiles files >>= goOn (return .done) = removeFiles files := by
  induction files with
  | nil => rfl
  | cons file more ih =>
      rw [removeFiles, bind_assoc]
      refine bind_congr (fun reply => ?_)
      cases reply with
      | ok u =>
          simp only [bind_assoc]
          exact bind_congr (fun _ => ih)
      | error why =>
          have hrefused : refused file why >>= goOn (return .done) = refused file why := by
            unfold refused
            by_cases hr : why.isRefusal = true
            · rw [if_pos hr]
              rfl
            · rw [if_neg hr]
              rfl
          by_cases hr : why.isRefusal = true
          · simp only [hr, if_true, bind_assoc]
            exact bind_congr (fun _ => hrefused)
          · simp only [hr]
            exact hrefused

theorem removed_goOn (m : Matcher) (leaf : Leaf) :
    leaf.removed m >>= goOn (return .done) = leaf.removed m := by
  cases leaf with
  | mask text =>
      unfold Leaf.removed removeMask
      simp only [bind_assoc]
      exact bind_congr removeFiles_goOn
  | other kind => rfl

/-- Going on after a round that goes on is going on with both. -/
theorem goOn_bind (first rest : Attempt Outcome) (outcome : Outcome) :
    goOn first outcome >>= goOn rest = goOn (first >>= goOn rest) outcome := by
  unfold goOn
  by_cases ho : outcome.ok = true
  · rw [if_pos ho, if_pos ho]
  · rw [if_neg ho, if_neg ho, pure_bind, if_neg ho]

/-- A round through two lists is one through the first, and then one through the second. -/
theorem removeInTurn_append (m : Matcher) (first rest : List Leaf) :
    removeInTurn m (first ++ rest) = removeInTurn m first >>= goOn (removeInTurn m rest) := by
  induction first with
  | nil => rfl
  | cons leaf more ih =>
      rw [List.cons_append, removeInTurn_cons, removeInTurn_cons, bind_assoc, ih]
      exact bind_congr (fun outcome => (goOn_bind _ _ outcome).symm)

mutual

/-- Removing what a target stands for is a round through its leaves. -/
theorem removeAll_flat (m : Matcher) (target : Target) :
    removeAll m target = removeInTurn m target.leaves := by
  cases target with
  | mask text =>
      rw [removeAll, Target.leaves, removeInTurn_cons]
      exact (removed_goOn m (.mask text)).symm
  | many targets =>
      rw [removeAll, Target.leaves]
      exact removeEach_flat m targets
  | other kind =>
      rw [removeAll, Target.leaves, removeInTurn_cons]
      rfl

theorem removeEach_flat (m : Matcher) (targets : List Target) :
    removeEach m targets = removeInTurn m (leavesOfEach targets) := by
  cases targets with
  | nil => rw [removeEach, leavesOfEach, removeInTurn]
  | cons target more =>
      rw [removeEach, leavesOfEach, removeInTurn_append, removeAll_flat m target]
      refine bind_congr (fun outcome => ?_)
      rw [removeEach_flat m more]
      rfl

end

section

variable {σ : Type} [World σ]

/-- What a round through leaves comes to on a world, and the requests that it puts to it. A round
    with nothing left is done. A stranger ends it without a request. A mask is removed as it would
    be on its own: if that is a fault or fails, it is what the round comes to, and else the round
    goes on in the world that is left. -/
inductive InTurn (m : Matcher) :
    List Leaf → σ → Ran σ (Except Fault Outcome) → List Request → Prop
  | nothing (w : σ) : InTurn m [] w ⟨.ok .done, [], w⟩ []
  | stranger (kind : Text) (more : List Leaf) (w : σ) :
      InTurn m (.other kind :: more) w ⟨.error (.notATarget kind), [], w⟩ []
  | faulty (mask : Path) (more : List Leaf) (w : σ) (fault : Fault)
      (fails : ((removeAll m (.mask mask)).ran w).result = .error fault) :
      InTurn m (.mask mask :: more) w ((removeAll m (.mask mask)).ran w)
        ((removeAll m (.mask mask)).asked w)
  | failed (mask : Path) (more : List Leaf) (w : σ) (outcome : Outcome)
      (ends : ((removeAll m (.mask mask)).ran w).result = .ok outcome)
      (fails : outcome.ok = false) :
      InTurn m (.mask mask :: more) w ((removeAll m (.mask mask)).ran w)
        ((removeAll m (.mask mask)).asked w)
  | removed (mask : Path) (more : List Leaf) (w : σ) (outcome : Outcome)
      (ran : Ran σ (Except Fault Outcome)) (asked : List Request)
      (ends : ((removeAll m (.mask mask)).ran w).result = .ok outcome) (well : outcome.ok = true)
      (rest : InTurn m more ((removeAll m (.mask mask)).ran w).world ran asked) :
      InTurn m (.mask mask :: more) w
        ⟨ran.result, ((removeAll m (.mask mask)).ran w).notices ++ ran.notices, ran.world⟩
        ((removeAll m (.mask mask)).asked w ++ asked)

/-- A round that ends at its first leaf comes to what that comes to. -/
theorem removeInTurn_ends (m : Matcher) (leaf : Leaf) (more : List Leaf) (w : σ)
    (h : ∀ outcome, ((leaf.removed m).ran w).result = .ok outcome → outcome.ok = false) :
    (removeInTurn m (leaf :: more)).ran w = (leaf.removed m).ran w ∧
    (removeInTurn m (leaf :: more)).asked w = (leaf.removed m).asked w := by
  rw [removeInTurn_cons, ran_bind, asked_bind]
  -- What the leaf comes to is passed on, and nothing is said or asked behind it.
  generalize (leaf.removed m).ran w = first at h ⊢
  rcases first with ⟨result, notices, world⟩
  cases result with
  | error fault =>
      simp only [further_error]
      exact ⟨congrArg (Ran.mk _ · _) (List.append_nil _), List.append_nil _⟩
  | ok outcome =>
      simp only [further_ok, goOn, h outcome rfl, Bool.false_eq_true, if_false]
      exact ⟨congrArg (Ran.mk _ · _) (List.append_nil _), List.append_nil _⟩

/-- A round that does not end at its first leaf goes on in the world that is left. -/
theorem removeInTurn_goes (m : Matcher) (leaf : Leaf) (more : List Leaf) (w : σ) (outcome : Outcome)
    (h : ((leaf.removed m).ran w).result = .ok outcome) (hok : outcome.ok = true) :
    (removeInTurn m (leaf :: more)).ran w =
      (let first := (leaf.removed m).ran w
      let rest := (removeInTurn m more).ran first.world
      ⟨rest.result, first.notices ++ rest.notices, rest.world⟩) ∧
    (removeInTurn m (leaf :: more)).asked w = (leaf.removed m).asked w ++
      (removeInTurn m more).asked ((leaf.removed m).ran w).world := by
  rw [removeInTurn_cons, ran_bind, asked_bind]
  simp only [h, further_ok, goOn, hok, if_true, and_self]

theorem removeAll_mask (m : Matcher) (mask : Path) :
    removeAll m (.mask mask) = (Leaf.mask mask).removed m := by
  rw [removeAll]
  rfl

/-- By its rules, too, a round ends at a mask whose removal does not end well. -/
theorem InTurn.ends (m : Matcher) (mask : Path) (more : List Leaf) (w : σ)
    (h : ∀ outcome, ((removeAll m (.mask mask)).ran w).result = .ok outcome →
      outcome.ok = false) :
    InTurn m (.mask mask :: more) w ((removeAll m (.mask mask)).ran w)
      ((removeAll m (.mask mask)).asked w) := by
  cases hr : ((removeAll m (.mask mask)).ran w).result with
  | error fault => exact .faulty mask more w fault hr
  | ok outcome => exact .failed mask more w outcome hr (h outcome hr)

/-- What a round comes to is what its rules say, and nothing else is. -/
theorem inTurn_iff (m : Matcher) (leaves : List Leaf) (w : σ) (ran : Ran σ (Except Fault Outcome))
    (asked : List Request) : InTurn m leaves w ran asked ↔
      ran = (removeInTurn m leaves).ran w ∧ asked = (removeInTurn m leaves).asked w := by
  constructor
  · intro h
    induction h with
    | nothing w => exact ⟨rfl, rfl⟩
    | stranger kind more w => exact ⟨rfl, rfl⟩
    | faulty mask more w fault fails =>
        rw [removeAll_mask] at fails ⊢
        rcases removeInTurn_ends m (.mask mask) more w (fun o ho => absurd (fails.symm.trans ho)
          (by simp only [reduceCtorEq, not_false_eq_true])) with ⟨hran, hasked⟩
        exact ⟨hran.symm, hasked.symm⟩
    | failed mask more w outcome ends fails =>
        rw [removeAll_mask] at ends ⊢
        rcases removeInTurn_ends m (.mask mask) more w (fun o ho => by
          rw [ends, Except.ok.injEq] at ho
          rw [← ho, fails]) with ⟨hran, hasked⟩
        exact ⟨hran.symm, hasked.symm⟩
    | removed mask more w outcome ran asked ends well rest ih =>
        rw [removeAll_mask] at ends ih ⊢
        rcases removeInTurn_goes m (.mask mask) more w outcome ends well with ⟨hran, hasked⟩
        rw [hran, hasked, ih.1, ih.2]
        exact ⟨rfl, rfl⟩
  · rintro ⟨hran, hasked⟩
    rw [hran, hasked]
    clear hran hasked
    induction leaves generalizing w with
    | nil => exact .nothing w
    | cons leaf more ih =>
        cases leaf with
        | other kind => exact .stranger kind more w
        | mask mask =>
            -- The round goes on just if the first leaf ends well.
            by_cases hwell : ∃ outcome, (((Leaf.mask mask).removed m).ran w).result = .ok outcome ∧
                outcome.ok = true
            · rcases hwell with ⟨outcome, hr, hok⟩
              rcases removeInTurn_goes m (.mask mask) more w outcome hr hok with ⟨hran, hasked⟩
              rw [hran, hasked]
              rw [← removeAll_mask] at hr ⊢
              exact .removed mask more w outcome _ _ hr hok (ih _)
            · have hends : ∀ outcome, (((Leaf.mask mask).removed m).ran w).result = .ok outcome →
                  outcome.ok = false :=
                fun outcome hr => Bool.eq_false_iff.mpr fun hok => hwell ⟨outcome, hr, hok⟩
              rcases removeInTurn_ends m (.mask mask) more w hends with ⟨hran, hasked⟩
              rw [hran, hasked]
              rw [← removeAll_mask] at hends ⊢
              exact InTurn.ends m mask more w hends

/-- The removal of a target, on a world of any kind: it comes to what a round through its leaves
    comes to, from left to right, in answer or fault, in notices and world and in the requests that
    are put to the world. The round ends at the first leaf that is a stranger, whose kind the fault
    names, or whose own removal is a fault or fails, with the world that this leaves; the leaves
    behind it are never looked at. How the leaves are nested makes no difference. -/
theorem removeAll_inTurn (m : Matcher) (target : Target) (w : σ)
    (ran : Ran σ (Except Fault Outcome)) (asked : List Request) :
    InTurn m target.leaves w ran asked ↔
      ran = (removeAll m target).ran w ∧ asked = (removeAll m target).asked w := by
  rw [removeAll_flat]
  exact inTurn_iff m target.leaves w ran asked

end

end Maskwalk
