import Maskwalk.Proofs.Engine.History
import Maskwalk.Proofs.Engine.Running
import Maskwalk.Proofs.World.Planted

/-!
# Only normal forms matter

Whatever a session does, the paths that it puts to its world are normal forms. A world of keys
records the requests that reach it, so this can be read off its record: what is added to it in the
course of a history are requests at normal forms. Nothing about the programs is needed for that, as
every request is settled on its way to the world; it is an induction over the tree of an inquiry,
and then over the events of a history.

For the same reason it does not matter how a path is spelled. An operation that is given a path
either puts it to the world at once, or brings it into its normal form before it does anything else.
So two spellings with the same normal form have the same answer or fault, the same notices and
requests, and the same world after them; and this is so in every world.

## Main definitions

* `Request.path?`: the path that a request carries.
* `Keyed.RecordsNormal`: a world with more requests recorded, at normal forms only.
* `PathStep`: the operations that are given one path.

## Theorems

* `Keyed.settled_recordsNormal`: A request is recorded at a normal form, or not at all.
* `Inquiry.run_recordsNormal`, `Session.after_recordsNormal`: A run, and an event.
* `Session.given_congr`: How the path of an operation is spelled does not matter.
* `Session.normal_forms_only`: Both facts about sessions.
-/

namespace Maskwalk

/-- The path that a request carries. -/
def Request.path? : Request → Option Path
  | .listDir p | .isFile p | .isDir p | .mkdir p | .rmdir p | .remove p | .stat p | .readText p
  | .isThere p | .readConfig p => some p
  | _ => none

namespace Keyed

/-- A world in which more requests are recorded than in another, all of the new ones at paths that
    are their own normal forms. -/
def RecordsNormal (w w' : Keyed) : Prop :=
  ∃ new, w'.calls = new ++ w.calls ∧
    ∀ q ∈ new, ∀ p, q.path? = some p → Path.normalize p = p

theorem RecordsNormal.refl (w : Keyed) : w.RecordsNormal w :=
  ⟨[], rfl, fun _ hq => absurd hq List.not_mem_nil⟩

theorem RecordsNormal.of_calls {w w' : Keyed} (h : w'.calls = w.calls) : w.RecordsNormal w' :=
  ⟨[], h, fun _ hq => absurd hq List.not_mem_nil⟩

theorem RecordsNormal.trans {w w' w'' : Keyed} (h : w.RecordsNormal w')
    (h' : w'.RecordsNormal w'') : w.RecordsNormal w'' := by
  rcases h with ⟨new, hcalls, hnormal⟩
  rcases h' with ⟨new', hcalls', hnormal'⟩
  refine ⟨new' ++ new, by rw [hcalls', hcalls, List.append_assoc], fun q hq => ?_⟩
  exact (List.mem_append.mp hq).elim (hnormal' q) (hnormal q)

/-- One more request, at a path that is its own normal form if there is one. -/
theorem RecordsNormal.of_cons {w w' : Keyed} {q : Request} (h : w'.calls = q :: w.calls)
    (hq : ∀ p, q.path? = some p → Path.normalize p = p) : w.RecordsNormal w' := by
  refine ⟨[q], h, fun r hr => ?_⟩
  rw [List.mem_singleton.mp hr]
  exact hq

variable (w : Keyed) (p : Path)

theorem calls_addDir : (w.addDir p).calls = w.calls := by
  rcases addDirWithin_frame (p.length + 1) p w with ⟨dirs, hdirs⟩
  rw [addDir, hdirs]

theorem calls_unlink : (w.unlink p).2.calls = w.calls := by
  unfold unlink
  split
  · rfl
  · split <;> rfl

theorem calls_rmdir : (w.rmdir p).2.calls = w.calls := by
  unfold rmdir
  split
  · rfl
  · split
    · rfl
    · split
      · rfl
      · exact calls_unlink _ p

theorem calls_remove : (w.remove p).2.calls = w.calls := by
  unfold remove
  split
  · rfl
  · split
    · rfl
    · exact calls_unlink _ p

theorem calls_mkdir (made : Keyed) (h : w.mkdir p = .ok made) : made.calls = w.calls := by
  unfold mkdir at h
  split at h
  · exact absurd h (by simp only [reduceCtorEq, not_false_eq_true])
  · split at h
    · exact absurd h (by simp only [reduceCtorEq, not_false_eq_true])
    · split at h
      · exact absurd h (by simp only [reduceCtorEq, not_false_eq_true])
      · rw [← Except.ok.inj h, calls_addDir]

/-- What a fault may refuse is recorded, unless it is refused. -/
theorem unlessFaulty_recordsNormal {α : Type} (q : Request)
    (reply : Keyed → Except Failure α × Keyed) (hreply : ∀ v : Keyed, (reply v).2.calls = v.calls)
    (hq : ∀ p, q.path? = some p → Path.normalize p = p) :
    w.RecordsNormal (w.unlessFaulty q p reply).2 := by
  unfold unlessFaulty
  cases valueOf? p w.faults with
  | some reason => exact RecordsNormal.refl w
  | none => exact RecordsNormal.of_cons (hreply (w.record q)) hq

/-- A request is recorded at a normal form, or not at all. -/
theorem settled_recordsNormal (q : Request) : w.RecordsNormal (q.settled w).2 := by
  -- What is recorded is the request as it is settled, at the normal form of its path.
  have hnormal : ∀ p r : Path, some (Path.normalize p) = some r → Path.normalize r = r := by
    intro p r hr
    rw [← Option.some.inj hr, Path.normalize_normalize]
  have hnone : ∀ r : Path, none = some r → Path.normalize r = r := fun r hr =>
    absurd hr (by simp only [reduceCtorEq, not_false_eq_true])
  cases q with
  | listDir p =>
      exact w.unlessFaulty_recordsNormal _ (.listDir (Path.normalize p)) _ (fun _ => rfl)
        (hnormal p)
  | mkdir p =>
      refine w.unlessFaulty_recordsNormal _ (.mkdir (Path.normalize p)) _ (fun v => ?_) (hnormal p)
      cases hm : v.mkdir (Path.normalize p) with
      | ok made => exact v.calls_mkdir _ made hm
      | error why => rfl
  | rmdir p =>
      exact w.unlessFaulty_recordsNormal _ (.rmdir (Path.normalize p)) _
        (fun v => v.calls_rmdir _) (hnormal p)
  | remove p =>
      exact w.unlessFaulty_recordsNormal _ (.remove (Path.normalize p)) _
        (fun v => v.calls_remove _) (hnormal p)
  | readText p =>
      change w.RecordsNormal (w.answer (.readText (Path.normalize p))).2
      rw [answer]
      split
      · exact RecordsNormal.refl w
      · exact RecordsNormal.of_cons rfl (hnormal p)
  | outputOf command =>
      change w.RecordsNormal (w.answer (.outputOf command)).2
      rw [answer]
      split
      · exact RecordsNormal.refl w
      · exact RecordsNormal.of_cons rfl hnone
  | isFile p | isDir p | stat p => exact RecordsNormal.of_cons rfl (hnormal p)
  | hasWideWords | execute => exact RecordsNormal.of_cons rfl hnone
  | _ => exact RecordsNormal.refl w

/-- What is done to a world from outside is not recorded. -/
theorem apply_recordsNormal (change : Change) : w.RecordsNormal (change.apply w) := by
  refine RecordsNormal.of_calls ?_
  cases change with
  | addFile path content => exact w.calls_addDir (parent path)
  | addDir path => exact w.calls_addDir path
  | setVariable name value => cases value <;> rfl
  | _ => rfl

end Keyed

/-- The requests that are recorded during a run are at normal forms. -/
theorem Inquiry.run_recordsNormal {α : Type} (i : Inquiry α) :
    ∀ w : Keyed, w.RecordsNormal (i.run w).world := by
  induction i with
  | done a => exact Keyed.RecordsNormal.refl
  | ask q next ih => exact fun w => (w.settled_recordsNormal q).trans (ih _ _)
  | say n next ih => exact ih

/-- The operations that are given one path or mask, without it. -/
inductive PathStep where
  | matching (files : Bool) (dirRule fileRule : Option Rule)
  | matchFiles
  | matchDirs
  | linkerDirs
  | makeDirs (strict : Bool)
  | removeAll (strict : Bool)
  | removeTree (strict : Bool)
  | isFile
  | isDir
  | stat
  | listDir
  | readText
  | mkdir
  | rmdir
  | remove

/-- The step that does an operation on a path. -/
def PathStep.given : PathStep → Path → Step
  | .matching files dirRule fileRule, p => .matching p files dirRule fileRule
  | .matchFiles, p => .matchFiles p
  | .matchDirs, p => .matchDirs p
  | .linkerDirs, p => .linkerDirs p
  | .makeDirs strict, p => .makeDirs p strict
  | .removeAll strict, p => .removeAll (.mask p) strict
  | .removeTree strict, p => .removeTree p strict
  | .isFile, p => .isFile p
  | .isDir, p => .isDir p
  | .stat, p => .stat p
  | .listDir, p => .listDir p
  | .readText, p => .readText p
  | .mkdir, p => .mkdir p
  | .rmdir, p => .rmdir p
  | .remove, p => .remove p

section

variable {p q : Path} (h : Path.normalize p = Path.normalize q)

include h

/-- A match starts with the normal form of its mask. -/
theorem Matcher.matching_congr (m : Matcher) (files : Bool) (dirRule fileRule : Option Rule) :
    m.matching p files dirRule fileRule = m.matching q files dirRule fileRule := by
  unfold Matcher.matching
  rw [h]

/-- So does reading a configuration with that of its file, -/
theorem linkerDirs_congr (m : Matcher) : linkerDirs m p = linkerDirs m q := by
  unfold linkerDirs linkerDirsFrom
  rw [h]

theorem makeDirs_congr : makeDirs p = makeDirs q := by
  unfold makeDirs
  rw [h]

/-- and the removal of a tree with that of its path. -/
theorem removeTree_congr (m : Matcher) : removeTree m p = removeTree m q := by
  unfold removeTree removeTreeWithin
  rw [h]

/-- How the path of an operation is spelled does not matter: it comes to the same, and the same
    requests reach the world. -/
theorem Session.given_congr {σ : Type} [World σ] (s : Session σ) (op : PathStep) :
    s.perform (op.given p) = s.perform (op.given q) ∧
      s.asked (op.given p) = s.asked (op.given q) := by
  -- It is enough that the two attempts run and ask alike.
  have hattempts : ∀ a b : Attempt Answer, (op.given p).attempt? s.engine = some a →
      (op.given q).attempt? s.engine = some b →
      (a.ran s.world = b.ran s.world ∧ a.asked s.world = b.asked s.world) →
      s.perform (op.given p) = s.perform (op.given q) ∧
        s.asked (op.given p) = s.asked (op.given q) := by
    intro a b ha hb hab
    rw [s.perform_of_attempt _ a ha, s.perform_of_attempt _ b hb, s.asked_of_attempt _ a ha,
      s.asked_of_attempt _ b hb, hab.1, hab.2]
    exact ⟨rfl, rfl⟩
  cases op with
  | matching files dirRule fileRule =>
      refine hattempts _ _ rfl rfl ?_
      rw [Matcher.matching_congr h]
      exact ⟨rfl, rfl⟩
  | matchFiles =>
      refine hattempts _ _ rfl rfl ?_
      rw [Matcher.files, Matcher.files, Matcher.matching_congr h]
      exact ⟨rfl, rfl⟩
  | matchDirs =>
      refine hattempts _ _ rfl rfl ?_
      rw [Matcher.dirs, Matcher.dirs, Matcher.matching_congr h]
      exact ⟨rfl, rfl⟩
  | linkerDirs =>
      refine hattempts _ _ rfl rfl ?_
      rw [linkerDirs_congr h]
      exact ⟨rfl, rfl⟩
  | makeDirs strict =>
      refine hattempts _ _ rfl rfl ?_
      rw [makeDirs_congr h]
      exact ⟨rfl, rfl⟩
  | removeAll strict =>
      refine hattempts _ _ rfl rfl ?_
      rw [removeAll, removeAll, removeMask, removeMask, Matcher.matching_congr h]
      exact ⟨rfl, rfl⟩
  | removeTree strict =>
      refine hattempts _ _ rfl rfl ?_
      rw [removeTree_congr h]
      exact ⟨rfl, rfl⟩
  -- All others begin with a request, and the rest depends on its reply alone.
  | isFile | isDir | stat | listDir | readText | mkdir | rmdir | remove =>
      refine hattempts _ _ rfl rfl ?_
      rw [Attempt.ran_request_bind, Attempt.ran_request_bind, Attempt.asked_request_bind,
        Attempt.asked_request_bind]
      dsimp only [Request.settled, Request.normal]
      rw [h]
      exact ⟨rfl, rfl⟩

end

namespace Session

variable (s : Session Keyed)

/-- What is recorded at an event of a session is at normal forms. -/
theorem after_recordsNormal (event : Event) : s.world.RecordsNormal (s.after event).world := by
  cases event with
  | step step => exact Inquiry.run_recordsNormal _ s.world
  | scripts list => exact Keyed.RecordsNormal.refl s.world
  | change change => exact s.world.apply_recordsNormal change

/-- What is recorded in the course of a history is at normal forms. -/
theorem through_recordsNormal (history : List Event) :
    ∀ s : Session Keyed, s.world.RecordsNormal (s.through history).world := by
  induction history with
  | nil => exact fun s => Keyed.RecordsNormal.refl s.world
  | cons event more ih => exact fun s => (s.after_recordsNormal event).trans (ih _)

/-- Only normal forms reach a world, and only they matter. In the course of a history the paths of
    all requests that a world of keys records are their own normal forms. And in every world, an
    operation that is given one of two paths with the same normal form answers the same or ends in
    the same fault, says the same notices, asks the same and leaves the same session and world. -/
theorem normal_forms_only :
    (∀ (s : Session Keyed) (history : List Event), ∃ new,
      (s.through history).world.calls = new ++ s.world.calls ∧
        ∀ q ∈ new, ∀ p, q.path? = some p → Path.normalize p = p) ∧
    ∀ {σ : Type} [World σ] (s : Session σ) (op : PathStep) (p q : Path),
      Path.normalize p = Path.normalize q →
        s.perform (op.given p) = s.perform (op.given q) ∧
          s.asked (op.given p) = s.asked (op.given q) :=
  ⟨fun s history => through_recordsNormal history s, fun s op _ _ h => given_congr h s op⟩

-- A removal that is given its path with a detour asks for the directory and the file by their keys.
example : ((onGrove.perform (PathStep.given (.removeAll true) "x//../a\\f".toList)).2.world.calls) =
    [.remove "a/f".toList, .listDir ['a']] := by decide

theorem normal_forms_only_detour :
    Path.normalize "x//../a\\f".toList = Path.normalize "./a/f".toList ∧
    onGrove.perform (PathStep.given (.removeAll true) "x//../a\\f".toList) =
      onGrove.perform (PathStep.given (.removeAll true) "./a/f".toList) ∧
    onGrove.asked (PathStep.given (.removeAll true) "x//../a\\f".toList) =
      onGrove.asked (PathStep.given (.removeAll true) "./a/f".toList) := by
  have hsame : Path.normalize "x//../a\\f".toList = Path.normalize "./a/f".toList := by decide
  exact ⟨hsame, normal_forms_only.2 onGrove (.removeAll true) _ _ hsame⟩

end Session

end Maskwalk
