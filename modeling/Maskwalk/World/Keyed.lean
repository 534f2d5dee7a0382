import Maskwalk.World.Request
import Maskwalk.Text.Utf8

/-!
# A world of keys

The simplest world keeps a table of directories, each with the names of its entries in order, and a
table of files. A path is a key of these tables and nothing more: no segment is looked at on its
own, there are no links, and what a path would mean relative to another is the caller's concern.
The empty key is the current directory and `/` the root.

Permissions are sets of keys as well. A denied directory cannot be listed and a denied file not
read; below a read-only directory nothing is made or removed. A key can also have a fault, a text
with which every change of it and every listing is refused. A request with a fault leaves no trace,
all others that look at or change a file are recorded.

## Main definitions

* `Keyed`: the tables of the world.
* `Keyed.addDir`, `Keyed.addFile`: entries added with all directories above them.
* `Keyed.listDir`, `Keyed.mkdir`, `Keyed.rmdir`, `Keyed.remove`: the replies to requests.
* `Keyed.Change`: changes made to the world from outside.
-/

namespace Maskwalk

/-- A world of keys. `calls` are the recorded requests, the latest first. -/
structure Keyed where
  dirs : List (Path × List Text)
  files : List (Path × Text)
  denied : List Path
  readonly : List Path
  faults : List (Path × Text)
  undecodable : List Path
  environment : List (Text × Text)
  outputs : List (Text × Text)
  wideWords : Bool
  executable : Path
  identifier : Option Text
  shellFails : Bool
  calls : List Request
  deriving DecidableEq

namespace Keyed

/-- The current directory and the root, empty, and nothing else. -/
def bare : Keyed where
  dirs := [([], []), (['/'], [])]
  files := []
  denied := []
  readonly := []
  faults := []
  undecodable := []
  environment := []
  outputs := []
  wideWords := false
  executable := "/opt/buildfs/bin/buildfs".toList
  identifier := none
  shellFails := false
  calls := []

/-- The key of the directory of a key. -/
def parent (p : Path) : Path :=
  let dir := Path.directory p
  if dir = Path.here then [] else dir

/-- The name of a key in its directory. -/
def name (p : Path) : Text := Path.baseName p

/-- Whether a key is a directory. -/
def hasDir (w : Keyed) (p : Path) : Bool := (valueOf? p w.dirs).isSome

/-- Whether a key is a file. -/
def hasFile (w : Keyed) (p : Path) : Bool := (valueOf? p w.files).isSome

/-- A table without a key. -/
def dropKey {ν : Type} (p : Path) (table : List (Path × ν)) : List (Path × ν) :=
  table.filter fun entry => entry.1 ≠ p

/-- The table of directories with one more name at the end of a directory. -/
def listed (dirs : List (Path × List Text)) (dir : Path) (name : Text) :
    List (Path × List Text) :=
  dirs.map fun entry => if entry.1 = dir then (entry.1, entry.2 ++ [name]) else entry

/-- The table of directories without the first entry of a name in a directory. -/
def unlisted (dirs : List (Path × List Text)) (dir : Path) (name : Text) :
    List (Path × List Text) :=
  dirs.map fun entry => if entry.1 = dir then (entry.1, entry.2.erase name) else entry

/-- A directory added to the table, with those above it that are missing. The fuel is the length
    of the key, since a directory above has a shorter one. -/
def addDirWithin : Nat → Path → Keyed → Keyed
  | 0, _, w => w
  | fuel + 1, p, w =>
    if w.hasDir p then w
    else
      let w := addDirWithin fuel (parent p) w
      { w with dirs := listed (w.dirs ++ [(p, [])]) (parent p) (name p) }

/-- A directory added to the world. -/
def addDir (p : Path) (w : Keyed) : Keyed := addDirWithin (p.length + 1) p w

/-- A file added to the world, or its content replaced. -/
def addFile (p : Path) (content : Text) (w : Keyed) : Keyed :=
  let w := addDir (parent p) w
  let dirs := if w.hasFile p then w.dirs else listed w.dirs (parent p) (name p)
  { w with dirs, files := withValue p content w.files }

/-- Markers for the directory itself and the one above, put in front of its entries. -/
def addMarkers (p : Path) (w : Keyed) : Keyed :=
  { w with dirs := w.dirs.map fun entry =>
      if entry.1 = p then (entry.1, Path.dot :: Path.dotDot :: entry.2) else entry }

/-- Whether a name is a marker. -/
def isMark (name : Text) : Bool := name = Path.dot || name = Path.dotDot

/-- The world with a request recorded. -/
def record (q : Request) (w : Keyed) : Keyed := { w with calls := q :: w.calls }

/-- The entry of a directory with a name. A name is a path from its directory on. -/
def entryOf (w : Keyed) (dir : Path) (name : Text) : Entry :=
  if isMark name then ⟨name, false, true⟩
  else ⟨name, w.hasFile (Path.join dir name), w.hasDir (Path.join dir name)⟩

/-- The entries of a directory. -/
def listDir (w : Keyed) (p : Path) : Except Failure (List Entry) :=
  if w.denied.elem p then .error (.system .denied p)
  else match valueOf? p w.dirs with
    | none => .error (.system .noEntry p)
    | some names => .ok (names.map (w.entryOf p))

/-- A directory made. -/
def mkdir (w : Keyed) (p : Path) : Except Failure Keyed :=
  if w.hasDir p || w.hasFile p then .error (.system .exists p)
  else if !w.hasDir (parent p) then .error (.system .noEntry p)
  else if w.readonly.elem (parent p) then .error (.system .denied p)
  else .ok (w.addDir p)

/-- A key taken off the list of its parent. The world changes as far as it can, also when the
    parent is missing or does not list the key. -/
def unlink (w : Keyed) (p : Path) : Except Failure Unit × Keyed :=
  match valueOf? (parent p) w.dirs with
  | none => (.error (.noParent (parent p)), w)
  | some names =>
    if names.elem (name p) then
      (.ok (), { w with dirs := unlisted w.dirs (parent p) (name p) })
    else (.error (.notListed (name p)), w)

/-- An empty directory removed. -/
def rmdir (w : Keyed) (p : Path) : Except Failure Unit × Keyed :=
  match valueOf? p w.dirs with
  | none => (.error (.system .noEntry p), w)
  | some names =>
    if names.any (!isMark ·) then (.error (.system .notEmpty p), w)
    else if w.readonly.elem (parent p) then (.error (.system .denied p), w)
    else unlink { w with dirs := dropKey p w.dirs } p

/-- A file removed. -/
def remove (w : Keyed) (p : Path) : Except Failure Unit × Keyed :=
  if !w.hasFile p then (.error (.system .noEntry p), w)
  else if w.readonly.elem (parent p) then (.error (.system .denied p), w)
  else unlink { w with files := dropKey p w.files } p

/-- What is at a key. -/
def stat (w : Keyed) (p : Path) : Except Failure Stat :=
  if w.hasFile p then .ok (.file 0)
  else if w.hasDir p then .ok .directory
  else .error (.system .noEntry p)

/-- The content of a file. -/
def readText (w : Keyed) (p : Path) : Except Failure Text :=
  match valueOf? p w.files with
  | none => .error (.system .noEntry p)
  | some content => if w.denied.elem p then .error (.system .denied p) else .ok content

/-- The reply to a request that a fault of its key may refuse without a trace. -/
def unlessFaulty {α : Type} (w : Keyed) (q : Request) (p : Path)
    (reply : Keyed → Except Failure α × Keyed) : Except Failure α × Keyed :=
  match valueOf? p w.faults with
  | some reason => (.error (.other reason), w)
  | none => reply (w.record q)

/-- A bound on descents: every directory counts, with the length of its key and its names. -/
def depth (w : Keyed) : Nat :=
  w.dirs.foldr (fun entry n => entry.1.length + entry.2.length + 1 + n) 0

/-- The reply of the world to a request. -/
def answer : (q : Request) → Keyed → q.Reply × Keyed
  | .listDir p, w => w.unlessFaulty (.listDir p) p fun w => (w.listDir p, w)
  | .isFile p, w => (w.hasFile p, w.record (.isFile p))
  | .isDir p, w => (w.hasDir p, w.record (.isDir p))
  | .mkdir p, w => w.unlessFaulty (.mkdir p) p fun w =>
      match w.mkdir p with
      | .ok made => (.ok (), made)
      | .error why => (.error why, w)
  | .rmdir p, w => w.unlessFaulty (.rmdir p) p (·.rmdir p)
  | .remove p, w => w.unlessFaulty (.remove p) p (·.remove p)
  | .stat p, w => (w.stat p, w.record (.stat p))
  | .readText p, w =>
    if w.undecodable.elem p then (.error (.notText []), w)
    else (w.readText p, w.record (.readText p))
  | .identifier made, w =>
    (w.identifier.getD ("UUID-".toList ++ made.getD "None".toList), w)
  | .hasWideWords, w => (w.wideWords, w.record .hasWideWords)
  | .variable n, w => (valueOf? n w.environment, w)
  | .executable, w => (w.executable, w)
  | .outputOf c, w =>
    if w.shellFails then (.error (.other "no shell".toList), w)
    else (.ok ((valueOf? c w.outputs).getD []), w.record (.outputOf c))
  | .execute c, w => (.ok 0, w.record (.execute c))
  | .isThere p, w => (.ok (w.hasFile p || w.hasDir p), w)
  | .readConfig p, w => (w.readText p, w)
  | .workingDir, w => (.ok ['/'], w)
  | .depth, w => (w.depth, w)

instance : World Keyed where
  answer := answer

/-- A change made to the world from outside. -/
inductive Change where
  | addFile (path : Path) (content : Text)
  | addDir (path : Path)
  | deny (path : Path)
  | allow (path : Path)
  | setReadonly (path : Path)
  | clearReadonly (path : Path)
  | setVariable (name : Text) (value : Option Text)
  | setOutput (command value : Text)
  | setIdentifier (identifier : Option Text)
  | setWideWords (wide : Bool)

/-- A set of keys with one more. -/
def withKey (p : Path) (keys : List Path) : List Path :=
  if keys.elem p then keys else p :: keys

/-- The world after a change. -/
def Change.apply (w : Keyed) : Change → Keyed
  | .addFile p content => w.addFile p content
  | .addDir p => w.addDir p
  | .deny p => { w with denied := withKey p w.denied }
  | .allow p => { w with denied := w.denied.filter (· ≠ p) }
  | .setReadonly p => { w with readonly := withKey p w.readonly }
  | .clearReadonly p => { w with readonly := w.readonly.filter (· ≠ p) }
  | .setVariable n (some value) => { w with environment := withValue n value w.environment }
  | .setVariable n none => { w with environment := w.environment.filter fun v => v.1 ≠ n }
  | .setOutput command value => { w with outputs := withValue command value w.outputs }
  | .setIdentifier identifier => { w with identifier }
  | .setWideWords wide => { w with wideWords := wide }

end Keyed

end Maskwalk
