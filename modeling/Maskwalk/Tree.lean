import Maskwalk.Walk

/-!
# Changing trees

A world makes and removes one entry at a time. Here whole paths are made and whole trees removed,
step by step, and a step that the system refuses ends the work or is passed over, depending on the
operation; what was done before stays done.

* `makeDirs` makes a directory and those above it, from the top down, and stops at the first that
  cannot be made.
* `removeAll` removes files, named by paths, masks, or lists of these, and stops at the first that
  cannot be removed. The rule that leaves files out of a match does not protect them.
* `removeTree` removes a directory with all that is in it, from the bottom up. What cannot be
  removed is reported and left, and the answer is about the directory itself alone.

## Main definitions

* `Outcome`: how a change ended.
* `Target`: what is to be removed.
* `makeDirs`, `removeAll`, `removeTree`: the three changes.
-/

namespace Maskwalk

/-- How a change ended; if it failed, at which path, and for what cause. -/
structure Outcome where
  ok : Bool
  cause : Option Text
  path : Option Text
  deriving DecidableEq, Repr

namespace Outcome

/-- A change that is complete. -/
def done : Outcome := ⟨true, none, none⟩

/-- A change that a system refused at a path. -/
def failedAt (path : Path) (why : Failure) : Outcome := ⟨false, some why.cause, some path⟩

/-- The fault that an outcome is, if the change failed. -/
def fault? (o : Outcome) : Option Fault :=
  if o.ok then none else some (.unchanged o.path o.cause)

end Outcome

/-- The outcome of a failure, which has to be a refusal of the system. -/
def refused (path : Path) (why : Failure) : Attempt Outcome :=
  if why.isRefusal then return .failedAt path why else throw (.failed why)

/-- Whether a segment stands for something that is there without being made: a drive, or what an
    absolute path starts with. -/
def isGiven (segment : Text) : Bool := Path.isDrive segment || Path.isAbsolute segment

/-- Makes the directories that segments lead to, below a path that ends in a slash or is empty. -/
def makeBelow (above : Path) : List Text → Attempt Outcome
  | [] => return .done
  | segment :: more => do
    if segment = [] then makeBelow above more
    else
      let current := above ++ segment
      if isGiven segment then makeBelow (current ++ ['/']) more
      else
        let isThere ← Attempt.request (.isDir current)
        if isThere then makeBelow (current ++ ['/']) more
        else
          match ← Attempt.request (.mkdir current) with
          | .ok () =>
            Attempt.notice (.created current)
            makeBelow (current ++ ['/']) more
          | .error why =>
            if why.isRefusal then Attempt.notice (.notCreated current why)
            refused current why

/-- Makes a directory and all directories above it that are missing. -/
def makeDirs (path : Path) : Attempt Outcome :=
  let path := Path.normalize path
  makeBelow (if path.head? = some '/' then ['/'] else []) (path.pieces Path.isSlash)

/-- What is to be removed: a path or mask, or a list. Anything else has a kind, but no meaning. -/
inductive Target where
  | mask (text : Path)
  | many (targets : List Target)
  | other (kind : Text)
  deriving Inhabited

/-- Removes files in turn, up to the first that cannot be removed. -/
def removeFiles : List Path → Attempt Outcome
  | [] => return .done
  | file :: more => do
    match ← Attempt.request (.remove file) with
    | .ok () =>
      Attempt.notice (.removed file)
      removeFiles more
    | .error why =>
      if why.isRefusal then Attempt.notice (.notRemoved file why)
      refused file why

/-- Removes all files that a mask matches. -/
def removeMask (m : Matcher) (mask : Path) : Attempt Outcome := do
  removeFiles (← m.matching mask true none (some .nothing))

mutual

/-- Removes all files that a target stands for. -/
def removeAll (m : Matcher) : Target → Attempt Outcome
  | .mask text => removeMask m text
  | .many targets => removeEach m targets
  | .other kind => throw (.notATarget kind)

/-- Removes all files that targets stand for, in turn, up to the first failure. -/
def removeEach (m : Matcher) : List Target → Attempt Outcome
  | [] => return .done
  | target :: more => do
    let outcome ← removeAll m target
    if outcome.ok then removeEach m more else return outcome

end

/-- The files, or the directories, that a directory holds, hidden ones included. A directory that
    cannot be listed is reported. -/
def contents (m : Matcher) (dir : Path) (files : Bool) : Attempt (List Path) := do
  let mask := Path.join dir ['*']
  let attempt :=
    if files then m.matching mask true none (some .nothing)
    else m.matching mask false (some .nothing) none
  match ← attempt.caught with
  | .ok found => return found
  | .error (.unlistable _ cause) =>
    Attempt.notice (.dirUnlisted dir cause)
    return []
  | .error fault => throw fault

/-- Whether a path ends in a marker for the directory itself or the one above it. -/
def endsInMarker (path : Path) : Bool :=
  ['/', '.'].isSuffixOf path || ['/', '.', '.'].isSuffixOf path

/-- Does a step for each path in turn, whatever it answers. -/
def doEach (step : Path → Attempt Unit) : List Path → Attempt Unit
  | [] => return
  | path :: more => do
    step path
    doEach step more

/-- Removes a file, and reports if it cannot be removed. -/
def removeOrReport (file : Path) : Attempt Unit := do
  match ← Attempt.request (.remove file) with
  | .ok () => return
  | .error why => if why.isRefusal then Attempt.notice (.fileLeft file why) else throw (.failed why)

/-- Removes the files that a directory holds, and then the directory itself. -/
def removeEmptied (m : Matcher) (path : Path) : Attempt Outcome := do
  let files ← contents m path true
  doEach removeOrReport files
  match ← Attempt.request (.rmdir path) with
  | .ok () =>
    Attempt.notice (.dirRemoved path)
    return .done
  | .error why =>
    if why.isRefusal then Attempt.notice (.dirLeft path why)
    refused path why

/-- Removes a directory with all that is in it, at most so many directories deep. -/
def removeTreeWithin (m : Matcher) : Nat → Path → Attempt Outcome
  | 0, _ => throw .endless
  | depth + 1, path => do
    let path := Path.normalize path
    let dirs ← contents m path false
    doEach (fun dir => do let _ ← removeTreeWithin m depth dir) (dirs.filter (!endsInMarker ·))
    removeEmptied m path

/-- Removes a directory with all that is in it. -/
def removeTree (m : Matcher) (path : Path) : Attempt Outcome := do
  let depth ← Attempt.request .depth
  removeTreeWithin m (depth + 2) path

end Maskwalk
