import Maskwalk.Proofs.Engine.Clashes
import Maskwalk.Proofs.Engine.History
import Maskwalk.Proofs.Engine.Running
import Maskwalk.Proofs.World.Planted

/-!
# What is known about identifiers

A session here has any world, which may answer a request for an identifier with whatever it likes,
now this and now that, and may be changed from outside between the steps. What is remembered of an
identifier is kept by each step. Two kinds of steps are about names and warnings, and their runs are
written out; all others leave that part of the memory alone, which is one lemma for every act that
they are made of.

## Main definitions

* `Act.Spares`: acts that leave names and warnings alone.
* `Memory.clashes`: what there is to be said when a name leads to an identifier.
* `Turn`, `Session.played`: what can happen in a session on any world, and the deeds it comes to.

## Theorems

* `Step.perform_spares`: Most steps leave names and warnings alone.
* `ran_onceFor`, `ran_identifierFor`: The runs of the others.
* `Session.perform_remembers`, `Session.played_remembers`: A step, and a session.
* `Session.clashes_remembered`: What is known about an identifier after a session.
-/

namespace Maskwalk

namespace Act

/-- An act that leaves the names and the warnings that are remembered alone. -/
def Spares {α : Type} (a : Act α) : Prop := ∀ (σ : Type) [World σ] (m : Memory) (w : σ),
  (a.ran m w).result.2.names = m.names ∧ (a.ran m w).result.2.warned = m.warned

namespace Spares

variable {α β : Type}

theorem pure (x : α) : (Pure.pure x : Act α).Spares := fun _ _ _ _ => ⟨rfl, rfl⟩

theorem throw (fault : Fault) : (throw fault : Act α).Spares := fun _ _ _ _ => ⟨rfl, rfl⟩

theorem get : (get : Act Memory).Spares := fun _ _ _ _ => ⟨rfl, rfl⟩

theorem attempt (a : Attempt α) : (Act.attempt a).Spares := fun _ _ m w => by
  rw [ran_attempt]
  exact ⟨rfl, rfl⟩

theorem bind {a : Act α} {f : α → Act β} (ha : a.Spares) (hf : ∀ x, (f x).Spares) :
    (a >>= f).Spares := by
  intro σ _ m w
  have hfirst := ha σ m w
  have hfurther : (further f (a.ran m w).result.1).Spares := by
    cases (a.ran m w).result.1 with
    | ok x => exact hf x
    | error fault => exact throw fault
  have hsecond := hfurther σ (a.ran m w).result.2 (a.ran m w).world
  rw [ran_bind]
  exact ⟨hsecond.1.trans hfirst.1, hsecond.2.trans hfirst.2⟩

end Spares

end Act

section

open Act

theorem Platform.hasWideWords_spares (p : Platform) : p.hasWideWords.Spares := by
  refine Spares.bind Spares.get fun memory => ?_
  split
  · exact Spares.pure _
  refine Spares.bind (Spares.attempt _) fun wide => ?_
  refine Spares.bind (fun _ _ _ _ => ⟨rfl, rfl⟩) fun _ => ?_
  exact Spares.bind (Spares.attempt _) fun _ => Spares.pure wide

theorem Act.closed_spares : Act.Closed Act.Spares := ⟨Spares.pure, Spares.throw, Spares.bind⟩

theorem Searcher.findLibrary_spares (s : Searcher) (name : Text) : (s.findLibrary name).Spares :=
  Act.closed_spares.findLibrary s s.platform.hasWideWords_spares (fun _ => Spares.attempt _)
    (Spares.attempt _) (fun _ _ => Spares.attempt _) (fun _ => Spares.attempt _) name

theorem warn_spares (template : Text) (arguments : List Value) : (warn template arguments).Spares :=
  Act.closed_spares.warn (fun _ => Spares.attempt _) template arguments

theorem report_spares (template : Text) (arguments : List Value) :
    (report template arguments).Spares :=
  Act.closed_spares.report (fun _ => Spares.attempt _) template arguments

/-- Whether a step is about names or warnings. -/
def Step.isNoted : Step → Bool
  | .identifierFor _ | .warnOnce .. => true
  | _ => false

/-- All other steps leave them alone. -/
theorem Step.perform_spares (e : Engine) (s : Step) (hs : s.isNoted = false) :
    (s.perform e).Spares := by
  cases s with
  | identifierFor | warnOnce => exact absurd hs.symm Bool.false_ne_true
  | findLibrary name =>
      exact Spares.bind (e.searcher.findLibrary_spares name) fun _ => Spares.pure _
  | hasWideWords => exact Spares.bind e.platform.hasWideWords_spares fun _ => Spares.pure _
  | platformInfo =>
      refine Spares.bind ?_ fun _ => Spares.pure _
      exact Spares.bind e.platform.hasWideWords_spares fun _ => Spares.pure _
  | nameOf identifier =>
      exact Spares.bind (Spares.bind Spares.get fun _ => Spares.pure _) fun _ => Spares.pure _
  | hasWarned key =>
      exact Spares.bind (Spares.bind Spares.get fun _ => Spares.pure _) fun _ => Spares.pure _
  | warn message arguments =>
      exact Spares.bind (warn_spares message arguments) fun _ => Spares.pure _
  | report message arguments =>
      exact Spares.bind (report_spares message arguments) fun _ => Spares.pure _
  | _ => exact Spares.attempt _

variable {σ : Type} [World σ] (m : Memory) (w : σ)

theorem ran_hasWarned (key : Text) :
    (hasWarned key).ran m w = ⟨(.ok (decide (key ∈ m.warned)), m), [], w⟩ := by
  rw [← List.elem_eq_mem]
  rfl

theorem ran_nameOf (u : Text) :
    (nameOf u).ran m w = ⟨(.ok (valueOf? u m.names), m), [], w⟩ := rfl

/-- A warning that was given for a key is not given again. -/
theorem ran_onceFor_again (key : Text) (give : Act Unit) (h : key ∈ m.warned) :
    (onceFor key give).ran m w = ⟨(.ok false, m), [], w⟩ := by
  rw [onceFor, ran_bind_silent (ran_hasWarned m w key), decide_eq_true h]
  rfl

/-- The first time, the key is remembered, even if giving the warning ends in a fault. -/
theorem ran_onceFor (key : Text) (give : Act Unit) (h : key ∉ m.warned) :
    (onceFor key give).ran m w =
      let given := give.ran { m with warned := key :: m.warned } w
      ⟨(given.result.1.map fun _ => true, given.result.2), given.notices, given.world⟩ := by
  rw [onceFor, ran_bind_silent (ran_hasWarned m w key), decide_eq_false h,
    if_neg Bool.false_ne_true, ran_bind_silent (ran_modify _ m w)]
  exact ran_returned give (fun _ => true) _ w

/-- A warning says one thing, or nothing if its template cannot be filled. -/
theorem ran_warn (template : Text) (arguments : List Value) :
    ((warn template arguments).ran m w).result.2 = m ∧
      ((warn template arguments).ran m w).notices.length ≤ 1 := by
  have hmessage : ∃ result, (messageText template arguments).ran m w = ⟨(result, m), [], w⟩ := by
    unfold messageText
    simp only
    split
    · exact ⟨_, rfl⟩
    · exact ⟨_, rfl⟩
  rcases hmessage with ⟨result, hresult⟩
  rw [warn, ran_bind, hresult]
  cases result with
  | ok message => exact ⟨rfl, Nat.le_refl 1⟩
  | error fault => exact ⟨rfl, Nat.zero_le 1⟩

/-- The clash that there is to be said when a name leads to an identifier: with the name before, if
    that was a different one and no warning has been given. -/
def Memory.clashes (m : Memory) (u name : Text) : List Notice :=
  if m.warned.elem u then []
  else ((valueOf? u m.names).filter (· ≠ name)).toList.map (.clash · name)

theorem Memory.clashes_eq (m : Memory) (u name : Text) :
    m.clashes u name = if u ∈ m.warned then [] else
      ((valueOf? u m.names).filter (· ≠ name)).toList.map (.clash · name) :=
  if_congr List.elem_iff rfl rfl

/-- A warning has been given after a named request if one had been before or the names differ. -/
theorem Memory.mem_warned_of_clashes (m : Memory) (u name : Text) :
    u ∈ (if m.clashes u name = [] then m.warned else u :: m.warned) ↔
      u ∈ m.warned ∨ ((valueOf? u m.names).filter (· ≠ name)).isSome = true := by
  rw [Memory.clashes_eq]
  by_cases hm : u ∈ m.warned
  · rw [if_pos hm, if_pos rfl]
    exact iff_of_true hm (Or.inl hm)
  · rw [if_neg hm]
    cases (valueOf? u m.names).filter (· ≠ name) with
    | none => exact (or_iff_left Bool.false_ne_true).symm
    | some former => exact iff_of_true List.mem_cons_self (Or.inr rfl)

/-- A named request puts the name in the place of the one before, and says the clash if there is
    one. -/
theorem ran_identifierFor (name made : Text) (world : σ)
    (h : (Request.identifier (some name)).settled w = (made, world)) :
    (identifierFor (some name)).ran m w =
      ⟨(.ok made, { m with
        names := withValue made name m.names
        warned := if m.clashes made name = [] then m.warned else made :: m.warned }),
        m.clashes made name, world⟩ := by
  have hrequest : (Act.request (.identifier (some name))).ran m w = ⟨(.ok made, m), [], world⟩ := by
    rw [Act.request, ran_attempt, Attempt.ran_request, h]
  rw [identifierFor, ran_bind_silent hrequest]
  simp only
  rw [ran_bind_silent (ran_nameOf m world made), ran_bind_silent (ran_modify _ m world),
    Memory.clashes_eq]
  cases valueOf? made m.names with
  | none =>
      simp only [Option.filter_none, Option.toList_none, List.map_nil, ite_self, if_true]
      rfl
  | some former =>
      simp only [Option.filter_some]
      by_cases hsame : former = name
      · simp only [hsame, ne_eq, not_true_eq_false, if_false, decide_false, Bool.false_eq_true,
          Option.toList_none, List.map_nil, ite_self, if_true]
        rfl
      · simp only [ne_eq, hsame, not_false_eq_true, if_true, decide_true, Option.toList_some,
          List.map_singleton]
        by_cases hwarned : made ∈ m.warned
        · rw [ran_bind_silent
            (ran_onceFor_again { m with names := withValue made name m.names } _ made _ hwarned)]
          simp only [hwarned, if_true]
          rfl
        · rw [ran_bind,
            ran_onceFor { m with names := withValue made name m.names } _ made _ hwarned]
          simp only [hwarned, if_false, reduceCtorEq]
          rfl

end

/-- Deeds of other steps are not about names or warnings. -/
theorem Deed.of_not_noted (d : Deed) (u : Text) (h : d.step.isNoted = false) :
    d.nameFor u = none ∧ d.asksFor u = false := by
  unfold nameFor asksFor
  cases hstep : d.step <;> rw [hstep] at h <;>
    first | exact ⟨rfl, rfl⟩ | exact absurd h.symm Bool.false_ne_true

/-- What can happen in a session on any world: a step, another path of scripts, and a change of the
    world from outside, of whatever kind. -/
inductive Turn (σ : Type) where
  | step (step : Step)
  | scripts (list : Option Text)
  | change (change : σ → σ)

namespace Session

variable {σ : Type} [World σ]

/-- The steps done in the course of a session, with their replies, and the session after them. -/
def played (s : Session σ) : List (Turn σ) → List Deed × Session σ
  | [] => ([], s)
  | .step step :: more =>
    let (reply, s) := s.perform step
    let (deeds, s) := s.played more
    (⟨step, reply⟩ :: deeds, s)
  | .scripts list :: more => (s.withScripts list).played more
  | .change change :: more => ({ s with world := change s.world }).played more

/-- A session goes on from where an earlier part of it ends. -/
theorem played_append (earlier later : List (Turn σ)) : ∀ s : Session σ,
    (s.played (earlier ++ later)).2 = ((s.played earlier).2.played later).2 := by
  induction earlier with
  | nil => exact fun s => rfl
  | cons turn more ih =>
      intro s
      cases turn with
      | step step => exact ih (s.perform step).2
      | scripts list => exact ih (s.withScripts list)
      | change change => exact ih { s with world := change s.world }

/-- What a step leaves to be remembered of an identifier. -/
theorem perform_remembers (s : Session σ) (u : Text) (deeds : List Deed)
    (h : Remembers u deeds s.memory) (step : Step) :
    Remembers u (deeds ++ [⟨step, (s.perform step).1⟩]) (s.perform step).2.memory := by
  by_cases hnoted : step.isNoted = false
  · have hspares := Step.perform_spares s.engine step hnoted σ s.memory s.world
    rcases Deed.of_not_noted ⟨step, (s.perform step).1⟩ u hnoted with ⟨hname, hasks⟩
    refine h.of_other hname hasks (congrArg _ hspares.1) ?_
    rw [show (s.perform step).2.memory.warned = s.memory.warned from hspares.2]
  · cases step with
    | identifierFor name =>
        cases name with
        | none => exact h.of_other rfl rfl rfl Iff.rfl
        | some name =>
            have hran := s.perform_of_act (.identifierFor (some name)) _ _ rfl
            rcases hmade : (Request.identifier (some name)).settled s.world with ⟨made, world⟩
            rw [ran_identifierFor _ _ name made world hmade] at hran
            rw [hran]
            by_cases hu : made = u
            · rw [← hu] at h ⊢
              refine h.named name (if_pos rfl) rfl ?_ (s.memory.mem_warned_of_clashes made name)
                (s.memory.clashes_eq made name)
              exact (Keyed.valueOf?_withValue _ _ _ _).trans (if_pos rfl)
            · refine h.of_other (if_neg hu) rfl ?_ ?_
              · exact (Keyed.valueOf?_withValue _ _ _ _).trans (if_neg (Ne.symm hu))
              · change u ∈ ite _ _ _ ↔ _
                split
                · rfl
                · rw [List.mem_cons]
                  exact or_iff_right (Ne.symm hu)
    | warnOnce key message arguments =>
        have hran := s.perform_of_act (.warnOnce key message arguments) _ _ rfl
        by_cases hkey : key ∈ s.memory.warned
        · rw [warnOnce, ran_onceFor_again _ _ key _ hkey] at hran
          rw [hran]
          by_cases hu : key = u
          · rw [hu] at hkey
            exact h.asked rfl (decide_eq_true hu) rfl hkey (fun _ => rfl) (Nat.zero_le 1)
          · exact h.of_other rfl (decide_eq_false hu) rfl Iff.rfl
        · rcases ran_warn { s.memory with warned := key :: s.memory.warned } s.world message
            arguments with ⟨hmemory, hfew⟩
          rw [warnOnce, ran_onceFor _ _ key _ hkey] at hran
          rw [hran]
          simp only [hmemory]
          by_cases hu : key = u
          · rw [hu] at hkey hfew ⊢
            exact h.asked rfl (decide_eq_true rfl) rfl List.mem_cons_self
              (fun hm => absurd hm hkey) hfew
          · refine h.of_other rfl (decide_eq_false hu) rfl ?_
            rw [List.mem_cons]
            exact or_iff_right (Ne.symm hu)
    | _ => exact absurd rfl hnoted

/-- And what a whole session does. -/
theorem played_remembers (u : Text) (turns : List (Turn σ)) : ∀ (s : Session σ) (deeds : List Deed),
    Remembers u deeds s.memory →
      Remembers u (deeds ++ (s.played turns).1) (s.played turns).2.memory := by
  induction turns with
  | nil =>
      intro s deeds h
      rw [played, List.append_nil]
      exact h
  | cons turn more ih =>
      intro s deeds h
      cases turn with
      | step step =>
          have hmore := ih _ _ (s.perform_remembers u deeds h step)
          rw [List.append_assoc] at hmore
          exact hmore
      | scripts list => exact ih (s.withScripts list) deeds h
      | change change => exact ih { s with world := change s.world } deeds h

/-- After a session of any steps on any world, which may answer requests for identifiers in any way
    and change at any time: the name of an identifier is the latest that led to it; a warning has
    been given for it just if one was asked for with it or different names led to it; and what was
    said for it is one thing at most. If names clashed before a warning was first asked for, this is
    that the first of them and the first other one clash. -/
theorem clashes_remembered (s : Session σ) (hs : s.memory = .fresh) (turns : List (Turn σ))
    (u : Text) :
    let deeds := (s.played turns).1
    let later := (s.played turns).2
    (later.perform (.nameOf u)).1.result = .ok (.perhaps (namesFor u deeds).getLast?) ∧
    (∃ given, (later.perform (.hasWarned u)).1.result = .ok (.flag given) ∧
      (given = true ↔ (∃ d ∈ deeds, d.asksFor u = true) ∨
        ∃ m ∈ namesFor u deeds, ∃ n ∈ namesFor u deeds, m ≠ n)) ∧
    (saidFor u deeds).length ≤ 1 ∧
    saidFor u deeds = owedFor u deeds := by
  have h := played_remembers u turns s [] (by rw [hs]; exact Remembers.fresh)
  rw [List.nil_append] at h
  simp only
  refine ⟨?_, ⟨_, rfl, ?_⟩, h.few, h.said⟩
  · rw [← h.name]
    rfl
  · rw [List.elem_iff, h.warned, List.any_eq_true, firstClash_isSome_iff]

/-- A session in which three names lead to one identifier, which is warned of by its key in
    between. -/
def sharing : List (Turn Keyed) := [
  .change fun w => { w with identifier := some "U".toList },
  .step (.identifierFor (some "B".toList)),
  .step (.identifierFor none),
  .step (.identifierFor (some "A".toList)),
  .step (.warnOnce "U".toList "%s is shared".toList []),
  .change fun w => { w with identifier := none },
  .step (.identifierFor (some "B".toList)),
  .change fun w => { w with identifier := some "U".toList },
  .step (.identifierFor (some "C".toList))]

theorem clashes_remembered_sharing :
    onGrove.memory = .fresh ∧
    ((onGrove.played sharing).2.perform (.nameOf "U".toList)).1.result =
      .ok (.perhaps (some "C".toList)) ∧
    (∃ given, ((onGrove.played sharing).2.perform (.hasWarned "U".toList)).1.result =
      .ok (.flag given) ∧ given = true) ∧
    (saidFor "U".toList (onGrove.played sharing).1).length ≤ 1 ∧
    saidFor "U".toList (onGrove.played sharing).1 = [.clash "B".toList "A".toList] := by
  rcases clashes_remembered onGrove rfl sharing "U".toList with
    ⟨hname, ⟨given, hgiven, hwhy⟩, hfew, hsaid⟩
  have hclash : owedFor "U".toList (onGrove.played sharing).1 =
      [.clash "B".toList "A".toList] := by decide
  have hlatest : (namesFor "U".toList (onGrove.played sharing).1).getLast? =
      some "C".toList := by decide
  have hasked : ∃ d ∈ (onGrove.played sharing).1, d.asksFor "U".toList = true := by
    rw [← List.any_eq_true]
    decide
  exact ⟨rfl, by rw [hname, hlatest], ⟨given, hgiven, hwhy.mpr (Or.inl hasked)⟩, hfew,
    by rw [hsaid, hclash]⟩

end Session

end Maskwalk
