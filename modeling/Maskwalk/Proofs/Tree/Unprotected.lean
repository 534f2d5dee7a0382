import Maskwalk.Proofs.Engine.History
import Maskwalk.Proofs.Engine.Running
import Maskwalk.Proofs.Mask.Shallow
import Maskwalk.Proofs.Tree.Keeping
import Maskwalk.Proofs.World.Marked

/-!
# Rules do not protect from removal

What is left out of a match by a rule of the configuration is removed like all else. For the rule
about files this is so in any world whatsoever: each removal puts another rule in its place, or asks
for directories, so that the program does not look at it at all.

The rule about directories is looked at where files are matched. It says which directories a walk
does not enter, so where no walk enters any it has no effect. That is how a tree is removed, unless
two stars in a path make a mask deep that was meant for one directory. In a world without such names
no path holds two stars that a listing leads to, and so two removals with different rules ask the
same, get the same replies, and go on in the same way.

## Main definitions

* `Keyed.Shallow`, `Terms.shallow`: worlds, and replies, in which no name holds two stars.
* `Step.SameFor`: a step that comes to the same with two engines.

## Theorems

* `Matcher.matching_dirs_unruled`, `Matcher.matching_files_unruled`: Matches that a rule has no
  effect on.
* `removeAll_unruled`, `removeTree_unruled`: The rule about files is not looked at.
* `removeTreeWithin_agrees`: Nor does that about directories matter, as long as no name holds two
  stars.
* `removal_ignores_rules`: So engines that differ in such a rule remove the same.
-/

namespace Maskwalk

open Attempt

/-- Walks are the same that keep the same and, if they are deep, enter the same. -/
theorem walk_congr {s s' : Selection} (hdeep : s'.deep = s.deep)
    (hkept : ∀ dir entries, s'.kept dir entries = s.kept dir entries)
    (hentered : s.deep = true → ∀ dir entries, s'.entered dir entries = s.entered dir entries)
    (depth : Nat) : walk s' depth = walk s depth := by
  induction depth with
  | zero => rfl
  | succ depth ih =>
      funext isStart dir
      rw [walk, walk]
      refine congrArg (listing isStart dir >>= ·) (funext fun entries => ?_)
      simp only [hkept, hdeep]
      by_cases hd : s.deep = true
      · simp only [hd, if_true, hentered hd, ih]
      · rw [if_neg hd, if_neg hd]

section

variable {m m' : Matcher}

namespace Matcher

/-- Matches are the same if the walks are, under the rules that are in force. -/
theorem matching_walk_congr (mask : Path) (files : Bool) {givenDirs givenFiles : Option Rule}
    {d d' f f' : Option Regex} (hd : ruleOr m.dirRule givenDirs = pure d)
    (hd' : ruleOr m'.dirRule givenDirs = pure d') (hf : ruleOr m.fileRule givenFiles = pure f)
    (hf' : ruleOr m'.fileRule givenFiles = pure f')
    (hwalk : walk (m'.selection (Path.normalize mask) files d' f') =
      walk (m.selection (Path.normalize mask) files d f)) :
    m'.matching mask files givenDirs givenFiles = m.matching mask files givenDirs givenFiles := by
  rw [matching, matching, hd, hd', hf, hf']
  exact congrArg (fun visit => do
    Attempt.notice (.matching (Path.normalize mask) (Mask.start (Path.normalize mask)) files
      (Mask.isDeep (Path.normalize mask)))
    let depth ← Attempt.request .depth
    visit (depth + 1) true (Mask.start (Path.normalize mask))) hwalk

variable (hcase : m'.caseSensitive = m.caseSensitive)

include hcase

/-- A match of directories that is told to leave out none looks at no rule. -/
theorem matching_dirs_unruled (mask : Path) :
    m'.matching mask false (some .nothing) none = m.matching mask false (some .nothing) none := by
  refine matching_walk_congr mask false rfl rfl rfl rfl
    (funext (walk_congr ?_ (fun dir entries => ?_) fun _ dir entries => ?_))
  · rfl
  · rw [selection, selection, hcase]
    rfl
  · rfl

/-- A match of files that is told to leave out none looks at the rule about directories, if it is
    deep, and at no other. -/
theorem matching_files_unruled (mask : Path)
    (hrule : m'.dirRule = m.dirRule ∨ Mask.isDeep (Path.normalize mask) = false) :
    m'.matching mask true none (some .nothing) = m.matching mask true none (some .nothing) := by
  refine matching_walk_congr mask true rfl rfl rfl rfl
    (funext (walk_congr ?_ (fun dir entries => ?_) fun hdeep dir entries => ?_))
  · rfl
  · rw [selection, selection, hcase]
    rfl
  · rcases hrule with hrule | hshallow
    · rw [selection, selection, hrule]
      rfl
    · exact absurd (hdeep.symm.trans hshallow) (by decide)

end Matcher

variable (hcase : m'.caseSensitive = m.caseSensitive)

include hcase

/-- What a directory holds does not depend on the rules, unless its path is deep. -/
theorem contents_unruled (dir : Path) (files : Bool) (hrule : m'.dirRule = m.dirRule ∨
    Mask.isDeep (Path.normalize (Path.join dir ['*'])) = false) :
    contents m' dir files = contents m dir files := by
  have hattempt : (if files then m'.matching (Path.join dir ['*']) true none (some .nothing)
      else m'.matching (Path.join dir ['*']) false (some .nothing) none) =
        if files then m.matching (Path.join dir ['*']) true none (some .nothing)
        else m.matching (Path.join dir ['*']) false (some .nothing) none := by
    cases files with
    | false => exact Matcher.matching_dirs_unruled hcase _
    | true => exact Matcher.matching_files_unruled hcase _ hrule
  rw [contents, contents, hattempt]

end

section

variable {m m' : Matcher}

mutual

/-- What targets stand for is removed without a look at the rule about files, -/
theorem removeAll_unruled (hcase : m'.caseSensitive = m.caseSensitive)
    (hrule : m'.dirRule = m.dirRule) (target : Target) :
    removeAll m' target = removeAll m target := by
  cases target with
  | mask text =>
      rw [removeAll, removeAll, removeMask, removeMask,
        Matcher.matching_files_unruled hcase text (Or.inl hrule)]
  | many targets =>
      rw [removeAll, removeAll]
      exact removeEach_unruled hcase hrule targets
  | other kind => rw [removeAll, removeAll]

theorem removeEach_unruled (hcase : m'.caseSensitive = m.caseSensitive)
    (hrule : m'.dirRule = m.dirRule) (targets : List Target) :
    removeEach m' targets = removeEach m targets := by
  cases targets with
  | nil => rw [removeEach, removeEach]
  | cons target more =>
      rw [removeEach, removeEach, removeAll_unruled hcase hrule target,
        removeEach_unruled hcase hrule more]

end

/-- and so are trees. -/
theorem removeTree_unruled (hcase : m'.caseSensitive = m.caseSensitive)
    (hrule : m'.dirRule = m.dirRule) (path : Path) : removeTree m' path = removeTree m path := by
  have hwithin : removeTreeWithin m' = removeTreeWithin m := by
    funext depth
    induction depth with
    | zero => rfl
    | succ depth ih =>
        funext path
        rw [removeTreeWithin, removeTreeWithin, ih]
        simp only [removeEmptied, contents_unruled hcase _ _ (Or.inl hrule)]
  rw [removeTree, removeTree, hwithin]

end

/-- Whether a reply lists no name that holds two stars. -/
def Request.IsShallow : (q : Request) → q.Reply → Prop
  | .listDir _, .ok entries => ∀ e ∈ entries, Mask.isDeep e.name = false
  | _, _ => True

/-- No making of directories, and no listed name that holds two stars. -/
def Terms.shallow : Terms where
  may q := ∀ p, q ≠ .mkdir p
  fair := Request.IsShallow

theorem shallow_allowsQueries : Terms.shallow.AllowsQueries := thinning_allowsQueries

namespace Keyed

/-- No name in a directory holds two stars. -/
def Shallow (w : Keyed) : Prop :=
  ∀ d names, w.names? d = some names → ∀ n ∈ names, Mask.isDeep n = false

theorem shallow_of_dirs (w : Keyed)
    (h : ∀ entry ∈ w.dirs, ∀ n ∈ entry.2, Mask.isDeep n = false) : w.Shallow :=
  fun _ _ hd => h _ (mem_of_valueOf? _ _ _ hd)

theorem Thinned.shallow {w w' : Keyed} (h : w.Thinned w') (hw : w.Shallow) : w'.Shallow := by
  intro d names' hd n hn
  rcases h d names' hd with ⟨names, hnames, hsub⟩
  exact hw d names hnames n (hsub.subset hn)

theorem names_of_listReply (w : Keyed) (p : Path) (entries : List Entry)
    (h : w.listReply p = .ok entries) :
    ∃ names, w.names? p = some names ∧ names.map (w.entryOf p) = entries := by
  unfold listReply listDir at h
  split at h
  · exact absurd h (by simp only [reduceCtorEq, not_false_eq_true])
  split at h
  · exact absurd h (by simp only [reduceCtorEq, not_false_eq_true])
  split at h
  · exact absurd h (by simp only [reduceCtorEq, not_false_eq_true])
  · rename_i names hnames
    exact ⟨names, hnames, Except.ok.inj h⟩

/-- Names stay without two stars as long as no directory is made. -/
theorem shallow_upheld : Terms.shallow.Upheld Shallow := by
  refine ⟨fun q w hw hq => (w.thinned_settled q hq).shallow hw, fun q w hw _ => ?_⟩
  cases q with
  | listDir p =>
      rcases w.settled_listDir p with ⟨calls, hs⟩
      rw [hs]
      change Request.IsShallow (.listDir p) (w.listReply (Path.normalize p))
      cases hl : w.listReply (Path.normalize p) with
      | error why => trivial
      | ok entries =>
          rcases w.names_of_listReply _ entries hl with ⟨names, hnames, rfl⟩
          intro e he
          rcases List.mem_map.mp he with ⟨n, hn, rfl⟩
          rw [w.entryOf_name]
          exact hw _ names hnames n hn
  | _ => trivial

end Keyed

/-- What a match finds holds no two stars if no listed name does. -/
theorem Matcher.matching_shallow (m : Matcher) (mask : Path) (files : Bool)
    (dirRule fileRule : Option Rule) :
    (m.matching mask files dirRule fileRule).Keeps Terms.shallow
      fun found => ∀ p ∈ found, Mask.isDeep p = false := by
  refine Matcher.matching_keeps shallow_allowsQueries.reading.listing (Mask.isDeep · = false) _
    (fun s dir entries hdir hfair => ?_) m mask files dirRule fileRule
    (Mask.isDeep_of_no_star _ (Mask.no_star_start _))
  have hjoin : ∀ e ∈ entries, Mask.isDeep (Path.join dir e.name) = false :=
    fun e he => Mask.isDeep_join dir e.name hdir (hfair e he)
  refine ⟨fun p hp => ?_, fun p hp => ?_⟩
  · rcases List.mem_map.mp hp with ⟨e, he, rfl⟩
    exact hjoin e (List.mem_filter.mp he).1
  · rcases List.mem_map.mp hp with ⟨e, he, rfl⟩
    exact hjoin e (List.mem_filter.mp he).1

theorem doEach_agrees {t : Terms} (step step' : Path → Attempt Unit) (paths : List Path)
    (h : ∀ p ∈ paths, Agrees t (fun _ => True) (step p) (step' p)) :
    Agrees t (fun _ => True) (doEach step paths) (doEach step' paths) := by
  induction paths with
  | nil => exact (Keeps.pure trivial).agrees
  | cons path more ih =>
      refine Agrees.bind (h path List.mem_cons_self) fun _ _ => ?_
      exact ih fun p hp => h p (List.mem_cons_of_mem _ hp)

section

variable {m m' : Matcher} (hcase : m'.caseSensitive = m.caseSensitive)

include hcase

/-- The rules do not matter to what is removed below a path that holds no two stars, as long as no
    listed name does. -/
theorem removeTreeWithin_agrees (depth : Nat) : ∀ path, Mask.isDeep path = false →
    Agrees Terms.shallow (fun _ => True) (removeTreeWithin m depth path)
      (removeTreeWithin m' depth path) := by
  induction depth with
  | zero => exact fun _ _ => (Keeps.throw _).agrees
  | succ depth ih =>
      intro path h
      have hpath := Mask.isDeep_normalize path h
      have hmask := Mask.isDeep_normalize _ (Mask.isDeep_join _ ['*'] hpath (by decide))
      have hcontents := fun files =>
        contents_unruled hcase (Path.normalize path) files (Or.inr hmask)
      have hemptied : removeEmptied m' (Path.normalize path) =
          removeEmptied m (Path.normalize path) := by
        rw [removeEmptied, removeEmptied, hcontents]
      rw [removeTreeWithin, removeTreeWithin]
      simp only [hcontents, hemptied]
      -- The directories to go on with are the same, and they hold no two stars either.
      refine Agrees.bind (contents_keeps m m.matching_shallow _ false).agrees fun dirs hdirs => ?_
      refine Agrees.bind (doEach_agrees _ _ _ fun d hd => ?_) fun _ _ => ?_
      · exact Agrees.bind (ih d (hdirs d (List.mem_filter.mp hd).1)) fun _ _ =>
          (Keeps.pure trivial).agrees
      · exact (removeEmptied_keeps m m.matching_shallow shallow_allowsQueries
          (fun _ _ => ⟨nofun, nofun⟩) _ hpath).agrees

/-- So a removal comes to the same with other rules. -/
theorem removeTree_same (path : Path) (h : Mask.isDeep path = false) (w : Keyed)
    (hw : w.Shallow) : (removeTree m' path).ran w = (removeTree m path).ran w ∧
      (removeTree m' path).asked w = (removeTree m path).asked w := by
  have hagrees : Agrees Terms.shallow (fun _ => True) (removeTree m path) (removeTree m' path) :=
    Agrees.bind ((Quiet.request rfl).keeps shallow_allowsQueries).agrees fun depth _ =>
      removeTreeWithin_agrees hcase (depth + 2) path h
  exact Inquiry.Agrees.run Keyed.shallow_upheld hagrees w hw

end

-- Two stars make a mask of the path, and what a rule keeps a walk from entering is left then.
example :
    ((removeTree ⟨true, none, none⟩ "**".toList).ran Keyed.grove).world.hasFile "a/f".toList =
      false ∧
    ((removeTree ⟨true, some .empty, none⟩ "**".toList).ran Keyed.grove).world.hasFile
      "a/f".toList = true := by decide

/-- A step that comes to the same with two engines: it gives the same answer, says and asks the
    same, and leaves the same memory and the same world. -/
def Step.SameFor {σ : Type} [World σ] (step : Step) (e e' : Engine) (w : σ) : Prop :=
  ∀ memory, (step.perform e').ran memory w = (step.perform e).ran memory w ∧
    (step.perform e').asked memory w = (step.perform e).asked memory w

/-- A change comes to the same if its attempts do. -/
theorem Step.sameFor_of_change {σ : Type} [World σ] {step : Step} {e e' : Engine}
    {a a' : Attempt Outcome} {strict : Bool} (h : step.attempt? e = some (a >>= settle strict))
    (h' : step.attempt? e' = some (a' >>= settle strict)) (w : σ)
    (hsame : a'.ran w = a.ran w ∧ a'.asked w = a.asked w) : step.SameFor e e' w := by
  intro memory
  unfold Step.perform
  rw [h, h']
  simp only [Act.ran_attempt, Act.asked_attempt, ran_bind, asked_bind, hsame.1, hsame.2, and_self]

/-- What the matcher of an engine is made from. -/
theorem Engine.matcher_of_make {config : Config} {host : Host} {hostOs : Option Text} {e : Engine}
    (h : Engine.make config host hostOs = .ok e) :
    e.matcher.caseSensitive = decide ((Platform.make host hostOs config.os).hostOs ≠ windows) ∧
      ruleOf config.excludeDirs = .ok e.matcher.dirRule := by
  unfold Engine.make at h
  cases hdirs : ruleOf config.excludeDirs with
  | error problem =>
      rw [hdirs] at h
      exact absurd h (by simp only [bind, Except.bind, reduceCtorEq, not_false_eq_true])
  | ok dirRule =>
      cases hfiles : ruleOf config.excludeFiles with
      | error problem =>
          rw [hdirs, hfiles] at h
          exact absurd h (by simp only [bind, Except.bind, reduceCtorEq, not_false_eq_true])
      | ok fileRule =>
          rw [hdirs, hfiles] at h
          rw [← Except.ok.inj h]
          exact ⟨rfl, rfl⟩

/-- Engines that differ in the rule about files alone remove the same in every world, be it what
    targets stand for or a tree. If neither a path nor any name in a world holds two stars, then
    engines that differ in the rule about directories as well remove the same tree there. -/
theorem removal_ignores_rules (config : Config) (host : Host) (hostOs : Option Text) (e : Engine)
    (he : Engine.make config host hostOs = .ok e) :
    (∀ files e', Engine.make { config with excludeFiles := files } host hostOs = .ok e' →
      ∀ {σ : Type} [World σ] (w : σ) (strict : Bool),
        (∀ target, (Step.removeAll target strict).SameFor e e' w) ∧
        ∀ path, (Step.removeTree path strict).SameFor e e' w) ∧
    ∀ dirs files e',
      Engine.make { config with excludeDirs := dirs, excludeFiles := files } host hostOs = .ok e' →
        ∀ (w : Keyed) (strict : Bool) (path : Path), Mask.isDeep path = false → w.Shallow →
          (Step.removeTree path strict).SameFor e e' w := by
  rcases Engine.matcher_of_make he with ⟨hcase, hrule⟩
  refine ⟨fun files e' he' σ _ w strict => ?_, fun dirs files e' he' w strict path hpath hw => ?_⟩
  · rcases Engine.matcher_of_make he' with ⟨hcase', hrule'⟩
    have hsame := hcase'.trans hcase.symm
    have hdirs := Except.ok.inj (hrule'.symm.trans hrule)
    refine ⟨fun target => Step.sameFor_of_change rfl rfl w ?_,
      fun path => Step.sameFor_of_change rfl rfl w ?_⟩
    · rw [removeAll_unruled hsame hdirs]
      exact ⟨rfl, rfl⟩
    · rw [removeTree_unruled hsame hdirs]
      exact ⟨rfl, rfl⟩
  · rcases Engine.matcher_of_make he' with ⟨hcase', _⟩
    exact Step.sameFor_of_change rfl rfl w
      (removeTree_same (hcase'.trans hcase.symm) path hpath w hw)

theorem removal_ignores_rules_grove :
    let config : Config := { excludeDirs := none, searchVariable := "PATH".toList }
    let host := Session.onGrove.engine.platform.host
    ∃ e' e'', Engine.make config host none = .ok Session.onGrove.engine ∧
      Engine.make { config with excludeFiles := some "f".toList } host none = .ok e' ∧
      Engine.make { config with excludeDirs := some "b".toList, excludeFiles := some "f".toList }
        host none = .ok e'' ∧
      Mask.isDeep "a".toList = false ∧ Keyed.grove.Shallow ∧
      (((Step.removeAll (.mask "a/*".toList) true).perform e').ran .fresh Keyed.grove).world.files =
        [("a/b/g".toList, []), ("/r".toList, [])] ∧
      (((Step.removeTree "a".toList true).perform e'').ran .fresh Keyed.grove).world.files =
        [("/r".toList, [])] := by
  intro config host
  have hmade : Engine.make config host none = .ok Session.onGrove.engine := rfl
  have hfiles : ∃ e', Engine.make { config with excludeFiles := some "f".toList } host none =
      .ok e' := ⟨_, rfl⟩
  have hdirs : ∃ e'', Engine.make { config with
      excludeDirs := some "b".toList, excludeFiles := some "f".toList } host none = .ok e'' :=
    ⟨_, rfl⟩
  have hshallow : Keyed.grove.Shallow := Keyed.shallow_of_dirs _ (by decide)
  rcases hfiles with ⟨e', he'⟩
  rcases hdirs with ⟨e'', he''⟩
  rcases removal_ignores_rules config host none _ hmade with ⟨hsame, hsame'⟩
  refine ⟨e', e'', hmade, he', he'', rfl, hshallow, ?_, ?_⟩
  · rw [((hsame _ e' he' Keyed.grove true).1 _ .fresh).1]
    decide
  · rw [(hsame' _ _ e'' he'' Keyed.grove true "a".toList rfl hshallow .fresh).1]
    decide

end Maskwalk
