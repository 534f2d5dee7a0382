import Maskwalk.Proofs.Engine.Identifiers
import Maskwalk.Proofs.Search.Libraries

/-!
# The size of words

Three kinds of steps need to know how wide the words of the host are: the question itself, the
description of the platform, and the search for a library where there are default places for wide
words. Whichever of them comes first asks the world, in up to two requests, and what it finds out is
remembered. The world may say something else later on, and other steps may ask it the same in plain
requests. But an engine goes by one size for as long as it lives.

The account is kept with a number that is one as long as the size is unknown and zero afterwards.
What a part of a program asks is paid with it: the requests of a kind and the number after them come
to no more than the number before them. Such bounds add up along programs and along sessions, and so
there is one request of each kind at most, however long a session is.

## Main definitions

* `Request.asksSize`, `Request.asksOutput`: the two requests for the size of words.
* `Memory.unsettled`, `Memory.Settles`: the account, and what it says about a part of a program.
* `Act.Settles`: acts that keep to it.
* `Session.sizeQuestions`: the requests of all steps of a session that need the size.
* `Session.FindsBy`, `Session.GoesBy`: searches and other steps that go by a size.

## Theorems

* `Act.Settles.bind`: One act after another.
* `Platform.hasWideWords_settles`, `Searcher.findLibrary_settles`: Acts that need the size.
* `Session.perform_settles`, `Session.played_settles`: A step, and a session.
* `Session.perform_goesBy`: A step goes by the size that is known after it.
* `Session.size_settled`: An engine goes by one size, for which it asks once.
-/

namespace Maskwalk

/-- Whether a request is for what the world says about the size of words. -/
def Request.asksSize : Request → Bool
  | .hasWideWords => true
  | _ => false

/-- Whether a request is for what a command writes. -/
def Request.asksOutput : Request → Bool
  | .outputOf _ => true
  | _ => false

/-- No request of either kind, and any replies. -/
def Terms.sizeless : Terms where
  may q := q.asksSize = false ∧ q.asksOutput = false
  fair _ _ := True

theorem Terms.sizeless_allowsListing : Terms.sizeless.AllowsListing :=
  ⟨fun _ => ⟨rfl, rfl⟩, fun _ => ⟨rfl, rfl⟩, ⟨rfl, rfl⟩⟩

/-- How often the world may still be asked for the size of words. -/
def Memory.unsettled (m : Memory) : Nat := if m.wideWords.isSome then 0 else 1

/-- What a part of a program does about the size of words, by what is remembered before and after it
    and what it asks: a size that is known stays, and what is asked is paid with what is unsettled.
-/
structure Memory.Settles (m m' : Memory) (qs : List Request) : Prop where
  kept : ∀ wide, m.wideWords = some wide → m'.wideWords = some wide
  sizes : qs.countP Request.asksSize + m'.unsettled ≤ m.unsettled
  outputs : qs.countP Request.asksOutput + m'.unsettled ≤ m.unsettled

namespace Memory

variable {m m' m'' : Memory}

theorem unsettled_le_one (m : Memory) : m.unsettled ≤ 1 := by
  unfold unsettled
  split
  · exact Nat.zero_le 1
  · exact Nat.le_refl 1

/-- Whatever leaves the size alone and asks nothing about it is free. -/
theorem Settles.of_same {qs : List Request} (hsame : m'.wideWords = m.wideWords)
    (hsizes : qs.countP Request.asksSize = 0) (houtputs : qs.countP Request.asksOutput = 0) :
    m.Settles m' qs := by
  have hleft : m'.unsettled = m.unsettled := by unfold unsettled; rw [hsame]
  refine ⟨fun wide h => hsame.trans h, ?_, ?_⟩
  · omega
  · omega

theorem Settles.trans {qs qs' : List Request} (h : m.Settles m' qs) (h' : m'.Settles m'' qs') :
    m.Settles m'' (qs ++ qs') := by
  have hsizes := h.sizes
  have hsizes' := h'.sizes
  have houtputs := h.outputs
  have houtputs' := h'.outputs
  refine ⟨fun wide hm => h'.kept wide (h.kept wide hm), ?_, ?_⟩
  · rw [List.countP_append]
    omega
  · rw [List.countP_append]
    omega

/-- What is asked can be left out of the account. -/
theorem Settles.uncounted {qs : List Request} (h : m.Settles m' qs) : m.Settles m' [] := by
  have hsizes := h.sizes
  refine ⟨h.kept, ?_, ?_⟩
  · rw [List.countP_nil]
    omega
  · rw [List.countP_nil]
    omega

end Memory

/-- An attempt that keeps sizeless terms asks nothing about the size of words. -/
theorem Attempt.Keeps.sizeless {σ α : Type} [World σ] {a : Attempt α} {post : α → Prop}
    (ha : a.Keeps Terms.sizeless post) (w : σ) :
    (a.asked w).countP Request.asksSize = 0 ∧ (a.asked w).countP Request.asksOutput = 0 := by
  have hnormal : ∀ q, Terms.sizeless.may q → Terms.sizeless.may q.normal := by
    intro q hq
    cases q <;> exact hq
  have hall := Inquiry.Keeps.all_asked ha (fun _ _ => trivial) hnormal w
  refine ⟨List.countP_eq_zero.mpr fun q hq => ?_, List.countP_eq_zero.mpr fun q hq => ?_⟩
  · exact ne_true_of_eq_false (hall q hq).1
  · exact ne_true_of_eq_false (hall q hq).2

namespace Act

/-- An act that keeps to the account of the size of words. -/
def Settles {α : Type} (a : Act α) : Prop :=
  ∀ (m : Memory) (w : Keyed), m.Settles (a.ran m w).result.2 (a.asked m w)

namespace Settles

variable {α β : Type}

theorem pure (x : α) : (Pure.pure x : Act α).Settles :=
  fun _ _ => Memory.Settles.of_same rfl rfl rfl

theorem throw (fault : Fault) : (throw fault : Act α).Settles :=
  fun _ _ => Memory.Settles.of_same rfl rfl rfl

theorem get : (get : Act Memory).Settles := fun _ _ => Memory.Settles.of_same rfl rfl rfl

theorem modify (change : Memory → Memory) (h : ∀ m, (change m).wideWords = m.wideWords) :
    (modify change : Act PUnit).Settles :=
  fun m _ => Memory.Settles.of_same (h m) rfl rfl

/-- An attempt leaves the memory alone, and must not ask about the size. -/
theorem attempt {a : Attempt α} {post : α → Prop} (ha : a.Keeps Terms.sizeless post) :
    (Act.attempt a).Settles := by
  intro m w
  rw [ran_attempt, asked_attempt]
  rcases ha.sizeless w with ⟨hsizes, houtputs⟩
  exact Memory.Settles.of_same rfl hsizes houtputs

theorem notice (n : Notice) : (Act.notice n).Settles := by
  have hkeeps : (Attempt.notice n).Keeps Terms.sizeless fun _ => True := Attempt.Keeps.notice trivial
  exact attempt hkeeps

theorem request {q : Request} (hq : Terms.sizeless.may q) : (Act.request q).Settles := by
  have hkeeps : (Attempt.request q).Keeps Terms.sizeless fun _ => True :=
    Attempt.Keeps.request hq fun _ _ => trivial
  exact attempt hkeeps

/-- The accounts of two acts in a row add up. -/
theorem bind {a : Act α} {f : α → Act β} (ha : a.Settles) (hf : ∀ x, (f x).Settles) :
    (a >>= f).Settles := by
  intro m w
  have hfurther : (further f (a.ran m w).result.1).Settles := by
    cases (a.ran m w).result.1 with
    | ok x => exact hf x
    | error fault => exact throw fault
  rw [ran_bind, asked_bind]
  exact (ha m w).trans (hfurther _ _)

end Settles

end Act

section

open Act

/-- The name of an architecture takes one request, which does not ask the world for the size. -/
theorem Platform.architecture_asks {σ : Type} [World σ] (p : Platform) (w : σ) :
    ∃ q : Request, p.architecture.asked w = [q] ∧ q.asksSize = false := by
  unfold architecture
  split
  · exact ⟨_, rfl, rfl⟩
  · rw [Attempt.asked_request_bind]
    refine ⟨_, congrArg (List.cons _) ?_, rfl⟩
    split
    · rfl
    · split
      · rfl
      · rfl

/-- Finding out the size takes one request of each kind at most. -/
theorem Platform.probeWideWords_asks {σ : Type} [World σ] (p : Platform) (w : σ) :
    (p.probeWideWords.asked w).countP Request.asksSize ≤ 1 ∧
      (p.probeWideWords.asked w).countP Request.asksOutput ≤ 1 := by
  rw [probeWideWords, Attempt.asked_request_bind]
  split
  · exact ⟨Nat.le_refl 1, Nat.zero_le 1⟩
  · rw [Attempt.asked_returned p.architecture fun name =>
      wideArchitectures.any fun part => Text.occursIn part (Text.toLower name)]
    rcases p.architecture_asks (Request.settled .hasWideWords w).2 with ⟨q, hq, hsize⟩
    rw [hq]
    refine ⟨?_, ?_⟩
    · rw [List.countP_cons_of_pos rfl, List.countP_cons_of_neg (ne_true_of_eq_false hsize)]
      exact Nat.le_refl 1
    · rw [List.countP_cons_of_neg Bool.false_ne_true]
      exact List.countP_le_length

/-- The world is asked for the size only as long as it is not known. -/
theorem Platform.hasWideWords_asked {σ : Type} [World σ] (p : Platform) (m : Memory) (w : σ) :
    p.hasWideWords.asked m w =
      if m.wideWords.isSome then [] else p.probeWideWords.asked w := by
  have hget : (get : Act Memory).ran m w = ⟨(.ok m, m), [], w⟩ := rfl
  rw [hasWideWords, asked_bind, hget]
  simp only [further]
  cases m.wideWords with
  | some known => rfl
  | none =>
      -- After the question itself the answer is remembered and said, which asks nothing more.
      change Act.asked (attempt p.probeWideWords >>= _) m w = p.probeWideWords.asked w
      rw [asked_bind, asked_attempt]
      cases ((attempt p.probeWideWords).ran m w).result.1 with
      | ok wide => exact List.append_nil _
      | error fault => exact List.append_nil _

/-- A size that is known is the answer, -/
theorem Platform.ran_hasWideWords {σ : Type} [World σ] (p : Platform) {m : Memory} {known : Bool}
    (h : m.wideWords = some known) (w : σ) :
    p.hasWideWords.ran m w = ⟨(.ok known, m), [], w⟩ := by
  have hget : (get : Act Memory).ran m w = ⟨(.ok m, m), [], w⟩ := rfl
  rw [hasWideWords, ran_bind_silent hget, h]
  rfl

/-- and an answer is known from then on. -/
theorem Platform.hasWideWords_known {σ : Type} [World σ] (p : Platform) (m : Memory) (w : σ)
    (wide : Bool) (h : (p.hasWideWords.ran m w).result.1 = .ok wide) :
    (p.hasWideWords.ran m w).result.2.wideWords = some wide := by
  have hget : (get : Act Memory).ran m w = ⟨(.ok m, m), [], w⟩ := rfl
  cases hm : m.wideWords with
  | some known =>
      rw [p.ran_hasWideWords hm] at h ⊢
      exact hm.trans (congrArg some (Except.ok.inj h))
  | none =>
      rw [hasWideWords, ran_bind_silent hget, hm] at h ⊢
      simp only [ran_bind, ran_attempt] at h ⊢
      cases hprobe : (p.probeWideWords.ran w).result with
      | ok found =>
          rw [hprobe] at h
          exact congrArg some (Except.ok.inj h)
      | error fault =>
          rw [hprobe] at h
          exact absurd h nofun

/-- A description tells the size that is known from then on. -/
theorem Platform.info_known {σ : Type} [World σ] (p : Platform) (m : Memory) (w : σ)
    (i : PlatformInfo) (h : (p.info.ran m w).result.1 = .ok i) :
    i.os = p.osId ∧ (p.info.ran m w).result.2.wideWords = some i.wideWords := by
  have hknown := p.hasWideWords_known m w
  rw [info, ran_returned] at h ⊢
  simp only at h ⊢
  cases hwide : (p.hasWideWords.ran m w).result.1 with
  | ok wide =>
      rw [hwide] at h
      rw [← Except.ok.inj h]
      exact ⟨rfl, hknown wide hwide⟩
  | error fault =>
      rw [hwide] at h
      exact absurd h nofun

theorem Platform.hasWideWords_settles (p : Platform) : p.hasWideWords.Settles := by
  intro m w
  rcases p.hasWideWords_remembers w m with ⟨wide, hknown, hlooks⟩
  have hmemory : (p.hasWideWords.ran m w).result.2 = { m with wideWords := some wide } :=
    congrArg Prod.snd (hlooks.result w.calls)
  rcases p.probeWideWords_asks w with ⟨hsizes, houtputs⟩
  rw [hmemory, p.hasWideWords_asked]
  refine ⟨fun known hm => congrArg some (hknown known hm), ?_, ?_⟩
  all_goals
    unfold Memory.unsettled
    split
    · exact Nat.le_refl 0
    · assumption

theorem Act.closed_settles : Act.Closed Act.Settles := ⟨Settles.pure, Settles.throw, Settles.bind⟩

/-- A search for a library keeps to the account: all else that it asks is about variables, texts,
    listings and files. -/
theorem Searcher.findLibrary_settles (s : Searcher) (name : Text) :
    (s.findLibrary name).Settles := by
  have hlines : (Act.attempt (linkerDirs s.matcher s.linkerConf)).Settles :=
    Settles.attempt (linkerDirs_keeps Terms.sizeless_allowsListing _ _)
  have hfiles : ∀ p, Terms.sizeless.may (.isFile p) := fun _ => ⟨rfl, rfl⟩
  have hfound : ∀ lists names, (Act.attempt (s.firstFound lists names)).Settles :=
    fun _ _ => Settles.attempt (s.firstFound_keeps hfiles _ _)
  exact Act.closed_settles.findLibrary s s.platform.hasWideWords_settles
    (fun _ => Settles.request ⟨rfl, rfl⟩) hlines hfound Settles.notice name

/-- Whatever looks at the memory keeps to the account. -/
theorem Step.act_settles (e : Engine) (s : Step) : (s.act e).Settles := by
  have hreturned : ∀ {α : Type} {a : Act α} (f : α → Answer), a.Settles →
      (a >>= fun x => Pure.pure (f x)).Settles := fun f ha => ha.bind fun x => Settles.pure (f x)
  have hwarn := Act.closed_settles.warn Settles.notice
  cases s with
  | findLibrary name => exact hreturned _ (e.searcher.findLibrary_settles name)
  | hasWideWords => exact hreturned _ e.platform.hasWideWords_settles
  | platformInfo =>
      exact hreturned _ (e.platform.hasWideWords_settles.bind fun _ => Settles.pure _)
  | identifierFor name =>
      exact hreturned _ (Act.closed_settles.identifierFor Settles.notice Settles.get Settles.modify
        (fun _ => Settles.request ⟨rfl, rfl⟩) name)
  | nameOf | hasWarned =>
      exact hreturned _ (Settles.get.bind fun _ => Settles.pure _)
  | warnOnce key message arguments =>
      exact hreturned _ (Act.closed_settles.onceFor Settles.get Settles.modify key _
        (hwarn message arguments))
  | warn message arguments => exact (hwarn message arguments).bind fun _ => Settles.pure _
  | report message arguments =>
      exact (Act.closed_settles.report Settles.notice message arguments).bind fun _ =>
        Settles.pure _
  | _ => exact Settles.pure _

end

/-- Whether a step needs the size of words. -/
def Step.usesSize : Step → Bool
  | .hasWideWords | .platformInfo | .findLibrary _ => true
  | _ => false

namespace Session

variable (s : Session Keyed)

/-- A step keeps to the account, and only what steps that need the size ask is counted. -/
theorem perform_settles (step : Step) :
    s.memory.Settles (s.perform step).2.memory (if step.usesSize then s.asked step else []) := by
  have hact : ∀ step : Step, step.attempt? s.engine = none → (step.perform s.engine).Settles := by
    intro step hnone
    unfold Step.perform
    rw [hnone]
    exact step.act_settles s.engine
  cases hsize : step.usesSize with
  | true =>
      rw [if_pos rfl]
      cases step with
      | hasWideWords | platformInfo | findLibrary => exact hact _ rfl s.memory s.world
      | _ => exact absurd hsize Bool.false_ne_true
  | false =>
      rw [if_neg Bool.false_ne_true]
      cases hattempt : step.attempt? s.engine with
      | some a =>
          rw [s.perform_of_attempt step a hattempt]
          exact Memory.Settles.of_same rfl rfl rfl
      | none => exact (hact step hattempt s.memory s.world).uncounted

/-- The requests that the steps which need the size make in the course of a session. -/
def sizeQuestions : Session Keyed → List (Turn Keyed) → List Request
  | _, [] => []
  | s, .step step :: more =>
    (if step.usesSize then s.asked step else []) ++ sizeQuestions (s.perform step).2 more
  | s, .scripts list :: more => sizeQuestions (s.withScripts list) more
  | s, .change change :: more => sizeQuestions { s with world := change s.world } more

/-- A whole session keeps to the account. -/
theorem played_settles (turns : List (Turn Keyed)) : ∀ s : Session Keyed,
    s.memory.Settles (s.played turns).2.memory (s.sizeQuestions turns) := by
  induction turns with
  | nil => exact fun s => Memory.Settles.of_same rfl rfl rfl
  | cons turn more ih =>
      intro s
      cases turn with
      | step step => exact (s.perform_settles step).trans (ih _)
      | scripts list => exact ih (s.withScripts list)
      | change change => exact ih { s with world := change s.world }

/-- A search for a library that goes by a size: it comes to the first of the candidates for that
    size, or it ends before the first look since reading the linker's configuration has no end. -/
def FindsBy (wide : Bool) (name : Text) : Prop :=
  (∃ lines,
    (s.engine.platform.readsLinkerConf = true →
      (s.perform (.linkerDirs s.engine.linkerConf)).1.result = .ok (.texts lines)) ∧
    (s.perform (.findLibrary name)).1.result =
      .ok (.perhaps ((s.libraryCandidates name lines wide).find? s.world.sees)) ∧
    (s.asked (.findLibrary name)).filterMap Request.filePath? =
      (upToFirst s.world.sees (s.libraryCandidates name lines wide)).map Path.normalize) ∨
  (s.engine.platform.readsLinkerConf = true ∧
    (s.perform (.linkerDirs s.engine.linkerConf)).1.result = .error .endless ∧
    (s.perform (.findLibrary name)).1.result = .error .endless ∧
    (s.asked (.findLibrary name)).filterMap Request.filePath? = [])

/-- A step that goes by a size, if it needs it. -/
def GoesBy (wide : Bool) : Step → Prop
  | .hasWideWords => (s.perform .hasWideWords).1.result = .ok (.flag wide)
  | .platformInfo => ∃ info,
      (s.perform .platformInfo).1.result = .ok (.info info) ∧ info.wideWords = wide
  | .findLibrary name => s.FindsBy wide name
  | _ => True

/-- Where there are no default places, the candidates for a library are the same for all sizes. -/
theorem libraryCandidates_of_no_common (name : Text) (lines : List Text) (wide wide' : Bool)
    (h : s.engine.platform.hasCommonDirs = false) :
    s.libraryCandidates name lines wide = s.libraryCandidates name lines wide' := by
  simp only [libraryCandidates, Platform.libraryLists, h, Bool.false_eq_true, if_false]

/-- A search for a library goes by the size that is known after it. -/
theorem findLibrary_findsBy (name : Text) (wide : Bool)
    (hwide : ∀ known, (s.perform (.findLibrary name)).2.memory.wideWords = some known →
      known = wide) : s.FindsBy wide name := by
  have hfinds : ∀ lines, (s.engine.platform.readsLinkerConf = true →
      (∀ calls, Attempt.Reads (linkerDirs s.engine.matcher s.engine.linkerConf)
        { s.world with calls } (.ok lines)) ∧
      (s.perform (.linkerDirs s.engine.linkerConf)).1.result = .ok (.texts lines)) →
      s.FindsBy wide name := by
    intro lines hlines
    rcases s.engine.platform.hasWideWords_remembers s.world s.memory with ⟨found, _, hfound⟩
    have hrules := s.engine.searcher.libraryRules_remembers s.world s.memory _ lines found
      (fun hreads => (hlines hreads).1) hfound
    have hsearch := (s.engine.searcher.findLibrary_looks s.world s.memory _ name _ hrules).returned
      Answer.perhaps
    rcases s.perform_of_looks (.findLibrary name) _ _ _ hsearch with ⟨hresult, hasked, _⟩
    have hcandidates : s.libraryCandidates name lines found =
        s.libraryCandidates name lines wide := by
      cases hcommon : s.engine.platform.hasCommonDirs with
      | false => exact s.libraryCandidates_of_no_common name lines found wide hcommon
      | true =>
          have hmemory : (s.perform (.findLibrary name)).2.memory =
              if s.engine.platform.hasCommonDirs then { s.memory with wideWords := some found }
              else s.memory := congrArg Prod.snd (hsearch.result s.world.calls)
          rw [hcommon, if_pos rfl] at hmemory
          rw [hwide found (congrArg Memory.wideWords hmemory)]
    refine Or.inl ⟨lines, fun hreads => (hlines hreads).2, ?_⟩
    rw [← hcandidates]
    exact ⟨hresult, hasked⟩
  rcases linkerDirs_steady s.engine.matcher s.world s.engine.linkerConf with ⟨r, hr, hfault⟩
  have hanswer := s.linkerDirs_answer _ r (hr s.world.calls)
  cases r with
  | ok lines => exact hfinds lines fun _ => ⟨hr, hanswer⟩
  | error fault =>
      rw [hfault fault rfl] at hr hanswer
      cases hreads : s.engine.platform.readsLinkerConf with
      | false => exact hfinds [] fun h => absurd (hreads.symm.trans h) Bool.false_ne_true
      | true =>
          have hends := Act.Looks.bind_fault (f := fun found => Pure.pure (Answer.perhaps found))
            (s.engine.searcher.findLibrary_fault s.world s.memory name .endless hreads hr)
          exact Or.inr ⟨hreads, hanswer, congrArg Prod.fst (hends.result s.world.calls),
            hends.files s.world.calls⟩

/-- A step goes by the size that is known after it. -/
theorem perform_goesBy (step : Step) (wide : Bool)
    (hwide : ∀ known, (s.perform step).2.memory.wideWords = some known → known = wide) :
    s.GoesBy wide step := by
  rcases s.engine.platform.hasWideWords_remembers s.world s.memory with ⟨found, _, hfound⟩
  have hasked : (Step.perform s.engine .hasWideWords).Looks s.memory s.world (.flag found) _ [] :=
    hfound.returned Answer.flag
  have htold := (hfound.returned fun wideWords => ({
    os := s.engine.platform.osId, arch := Text.toLower s.engine.platform.host.machine
    release := s.engine.platform.host.release
    distribution := if s.engine.platform.hostOs = "linux".toList then
      s.engine.platform.host.distribution else []
    wideWords } : PlatformInfo)).returned Answer.info
  cases step with
  | hasWideWords =>
      rw [← hwide found (congrArg (·.2.wideWords) (hasked.result s.world.calls))]
      exact (s.perform_of_looks .hasWideWords _ _ _ hasked).1
  | platformInfo =>
      refine ⟨_, (s.perform_of_looks .platformInfo _ _ _ htold).1, ?_⟩
      exact hwide found (congrArg (·.2.wideWords) (htold.result s.world.calls))
  | findLibrary name => exact s.findLibrary_findsBy name wide hwide
  | _ => trivial

/-- An engine in a world of keys goes by one size of words. Whatever steps there are in a session,
    in whatever order, and whatever becomes of the world between them, all steps that need to know
    the size go by the same one, and all of them together ask the world for it once at most, and
    once at most for what a command writes. -/
theorem size_settled (turns : List (Turn Keyed)) :
    (s.sizeQuestions turns).countP Request.asksSize ≤ 1 ∧
    (s.sizeQuestions turns).countP Request.asksOutput ≤ 1 ∧
    ∃ wide, ∀ earlier step later, turns = earlier ++ .step step :: later →
      (s.played earlier).2.GoesBy wide step := by
  have hsettles := played_settles turns s
  have hunsettled := s.memory.unsettled_le_one
  have hsizes := hsettles.sizes
  have houtputs := hsettles.outputs
  refine ⟨by omega, by omega, (s.played turns).2.memory.wideWords.getD false, ?_⟩
  intro earlier step later heq
  refine perform_goesBy _ step _ fun known hknown => ?_
  -- What is known after a step is still known at the end.
  have hend : (s.played turns).2 = (((s.played earlier).2.perform step).2.played later).2 := by
    rw [heq, played_append]
    rfl
  rw [hend, (played_settles later _).kept known hknown]
  rfl

-- A host that turns out to have wide words after all is too late.
example : ((onGrove.played [.step .hasWideWords,
    .change fun w => { w with wideWords := true }]).2.perform .hasWideWords).1.result =
      .ok (.flag false) := by decide

end Session

end Maskwalk
