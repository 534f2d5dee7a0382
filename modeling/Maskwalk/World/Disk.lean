import Maskwalk.Identifier.Uuid
import Maskwalk.Text.Blank
import Maskwalk.World.Request

/-!
# A world with links

The world of a disk: directories, files of bytes, pipes, and symbolic links that stand for a path.
Each node has a place, the row of names from its own up to the root, so that the directory around
a place is its tail. A path is followed name by name from the root or from the working directory. A `..`
goes to the directory around, wherever a link has led before; a link is replaced by its target, and
one path may lead through forty of them.

What is made or removed is named by the last segment of a path, which is not followed. A working
directory that is removed stays at a place that no path leads to, so that it is still there, empty,
and can still be left upwards.

## Main definitions

* `Disk`: the nodes, the working directory, and the surroundings of a process.
* `Disk.follow`: the place to which a path leads.
* `Disk.listDir`, `Disk.mkdir`, `Disk.rmdir`, `Disk.remove`: the replies to requests.
-/

namespace Maskwalk

/-- What can be at a place. -/
inductive DiskNode where
  | directory
  | file (bytes : List UInt8)
  | link (target : Path)
  | pipe
  deriving DecidableEq, Repr

/-- The row of names from a node up to the root, which is the empty row. -/
abbrev Place := List Text

/-- A disk, and a process on it: its working directory, its variables, the path it was started
    by, and the number of identifiers it made without a name. -/
structure Disk where
  nodes : List (Place × DiskNode)
  home : Place
  environment : List (Text × Text)
  program : Path
  serial : Nat

namespace Disk

/-- The node at a place. -/
def node? (d : Disk) (p : Place) : Option DiskNode :=
  if p = [] then some .directory else valueOf? p d.nodes

/-- The name of a directory that was removed while it was worked in. No path can name it. -/
def lostName : Text := ['\x00']

/-- The segments of a path. -/
def segments (p : Path) : List Text := (p.pieces Path.isSlash).filter (· ≠ [])

/-- Whether a path starts at the root. -/
def fromRoot (p : Path) : Bool := p.head? = some '/'

/-- The number of bytes of a text. -/
def byteLength (t : Text) : Nat := (Utf8.encode t).length

/-- The most bytes that a name can have. -/
def nameLimit : Nat := 255

/-- The number of bytes that a path has to stay below. -/
def pathLimit : Nat := 4096

/-- The number of links that a path may lead through. -/
def linkLimit : Nat := 40

/-- The place that segments lead to from a place on, through so many links at most. -/
def followFrom (d : Disk) (links : Nat) (p : Place) (segments : List Text) : Except Errno Place :=
  match segments with
  | [] => .ok p
  | segment :: more =>
    match d.node? p with
    | none => .error .noEntry
    | some .directory =>
      if segment = Path.dot then followFrom d links p more
      else if segment = Path.dotDot then followFrom d links p.tail more
      else if nameLimit < byteLength segment then .error .nameTooLong
      else match d.node? (segment :: p) with
        | none => .error .noEntry
        | some (.link target) =>
          match links with
          | 0 => .error .linkLoop
          | links + 1 =>
            followFrom d links (if fromRoot target then [] else p) (Disk.segments target ++ more)
        | some _ => followFrom d links (segment :: p) more
    | some _ => .error .notDirectory
termination_by (links, segments.length)

/-- The place at which a path starts. -/
def startOf (d : Disk) (p : Path) : Place := if fromRoot p then [] else d.home

/-- The place that a path leads to. -/
def follow (d : Disk) (p : Path) : Except Errno Place :=
  if p = [] then .error .noEntry
  else if pathLimit ≤ byteLength p then .error .nameTooLong
  else d.followFrom linkLimit (d.startOf p) (segments p)

/-- The node that a path leads to. -/
def nodeAt (d : Disk) (p : Path) : Except Errno (Place × DiskNode) := do
  let place ← d.follow p
  match d.node? place with
  | some node => return (place, node)
  | none => throw .noEntry

/-- A path that names a node, or why it names none: it is only dots, or only the root. -/
inductive LastSegment where
  | name (n : Text)
  | here
  | up
  | root
  deriving DecidableEq, Repr

/-- The last segment of a path. -/
def lastOf (p : Path) : LastSegment :=
  match (segments p).getLast? with
  | none => .root
  | some s => if s = Path.dot then .here else if s = Path.dotDot then .up else .name s

/-- The directory in which the last segment of a path lies, and that segment. -/
def lastIn (d : Disk) (p : Path) : Except Errno (Place × LastSegment) := do
  if p = [] then throw .noEntry
  if pathLimit ≤ byteLength p then throw .nameTooLong
  let place ← d.followFrom linkLimit (d.startOf p) (segments p).dropLast
  match d.node? place with
  | some .directory => return (place, lastOf p)
  | some _ => throw .notDirectory
  | none => throw .noEntry

/-- The names in a directory. -/
def namesIn (d : Disk) (p : Place) : List Text :=
  d.nodes.filterMap fun (place, _) =>
    match place with
    | [] => none
    | name :: around => if around = p ∧ name ≠ lostName then some name else none

/-- An entry of a directory. A link counts as a file, whatever it leads to. -/
def entryOf (d : Disk) (p : Place) (name : Text) : Entry :=
  match d.node? (name :: p) with
  | some .directory => ⟨name, false, true⟩
  | some (.file _) | some (.link _) => ⟨name, true, false⟩
  | _ => ⟨name, false, false⟩

/-- Whether one text comes before another, by the codes of their characters. -/
def comesFirst : Text → Text → Bool
  | [], _ => true
  | _ :: _, [] => false
  | a :: s, b :: t => if a = b then comesFirst s t else a.toNat < b.toNat

/-- The entries of a directory, in the order of their names. -/
def listDir (d : Disk) (p : Path) : Except Errno (List Entry) := do
  let (place, node) ← d.nodeAt p
  match node with
  | .directory => return ((d.namesIn place).mergeSort comesFirst).map (d.entryOf place)
  | _ => throw .notDirectory

/-- What is at a path. -/
def stat (d : Disk) (p : Path) : Except Errno Stat := do
  let (_, node) ← d.nodeAt p
  match node with
  | .directory => return .directory
  | .file bytes => return .file bytes.length
  | _ => return .special

/-- The bytes of a file. -/
def read (d : Disk) (p : Path) : Except Errno (List UInt8) := do
  let (_, node) ← d.nodeAt p
  match node with
  | .directory => throw .isDirectory
  | .file bytes => return bytes
  | _ => return []

/-- The disk with a node put at a place. -/
def put (d : Disk) (p : Place) (node : DiskNode) : Disk :=
  { d with nodes := withValue p node d.nodes }

/-- The disk without the node at a place. -/
def take (d : Disk) (p : Place) : Disk :=
  { d with nodes := d.nodes.filter fun entry => entry.1 ≠ p }

/-- A directory made. -/
def mkdir (d : Disk) (p : Path) : Except Errno Disk := do
  let (place, last) ← d.lastIn p
  match last with
  | .name n =>
    if nameLimit < byteLength n then throw .nameTooLong
    else if (d.node? (n :: place)).isSome then throw .exists
    else if place.head? = some lostName then throw .noEntry
    else return d.put (n :: place) .directory
  | _ => throw .exists

/-- The disk without an empty directory. If it was worked in, it is moved out of the way. -/
def takeDir (d : Disk) (p : Place) : Disk :=
  let d' := d.take p
  if d.home = p then
    let lost := lostName :: p.tail
    { d'.put lost .directory with home := lost }
  else d'

/-- An empty directory removed. -/
def rmdir (d : Disk) (p : Path) : Except Errno Disk := do
  let (place, last) ← d.lastIn p
  match last with
  | .name n =>
    if nameLimit < byteLength n then throw .nameTooLong
    match d.node? (n :: place) with
    | none => throw .noEntry
    | some .directory =>
      if (d.namesIn (n :: place)).isEmpty then return d.takeDir (n :: place) else throw .notEmpty
    | some _ => throw .notDirectory
  | .here => throw .invalid
  | .up => throw .notEmpty
  | .root => throw .busy

/-- Something other than a directory removed. -/
def remove (d : Disk) (p : Path) : Except Errno Disk := do
  let (place, last) ← d.lastIn p
  match last with
  | .name n =>
    if nameLimit < byteLength n then throw .nameTooLong
    match d.node? (n :: place) with
    | none => throw .noEntry
    | some .directory => throw .isDirectory
    | some _ => return d.take (n :: place)
  | _ => throw .isDirectory

/-- A path, with the empty one as the current directory. -/
def named (p : Path) : Path := if p = [] then Path.here else p

/-- A reply about a path, where one with a NUL in it is refused. -/
def reply {α : Type} (p : Path) (result : Except Errno α) : Except Failure α :=
  if p.elem '\x00' then .error .nulInPath
  else match result with
    | .ok a => .ok a
    | .error why => .error (.system why p)

/-- The reply to a change of the disk. -/
def change (d : Disk) (p : Path) (result : Except Errno Disk) : Except Failure Unit × Disk :=
  match reply p result with
  | .ok d => (.ok (), d)
  | .error why => (.error why, d)

/-- The text in the bytes of a file, with one kind of line end. -/
def textOf (bytes : List UInt8) : Except Failure Text :=
  match Utf8.decode bytes with
  | .ok t => .ok (Text.oneLineEnd t)
  | .error fault => .error (.notText fault.message)

/-- The text of a file. -/
def readText (d : Disk) (p : Path) : Except Failure Text := do textOf (← reply p (d.read p))

/-- Whether a path leads to a node of a kind. -/
def leadsTo (d : Disk) (p : Path) (kind : DiskNode → Bool) : Bool :=
  !p.elem '\x00' && ((d.nodeAt p).toOption.any fun found => kind found.2)

/-- Whether a node is a file. -/
def isFileNode : DiskNode → Bool
  | .file _ => true
  | _ => false

/-- Whether there is something at a path. A path that leads nowhere is no failure, but one that
    is too long is. -/
def isThere (d : Disk) (p : Path) : Except Failure Bool :=
  if p.elem '\x00' then .ok false
  else match d.nodeAt p with
    | .ok _ => .ok true
    | .error .noEntry | .error .notDirectory | .error .linkLoop => .ok false
    | .error why => .error (.system why p)

/-- The path of a place. -/
def pathOf (p : Place) : Path := '/' :: Text.joined ['/'] p.reverse

/-- The path of the working directory, which may have been removed. -/
def workingDir (d : Disk) : Except Failure Path :=
  if d.home.head? = some lostName then
    .error (.other "[Errno 2] No such file or directory".toList)
  else .ok (pathOf d.home)

/-- Segments from the root on, without dots: what a `..` goes back over is dropped. -/
def plainSegments (above : List Text) : List Text → List Text
  | [] => above.reverse
  | s :: more =>
    if s = [] ∨ s = Path.dot then plainSegments above more
    else if s = Path.dotDot then plainSegments above.tail more
    else plainSegments (s :: above) more

/-- The path from the root to the program that runs, read off the path it was started by, with
    forward slashes. -/
def programPath (d : Disk) : Path :=
  let p := if fromRoot d.program then d.program else pathOf d.home ++ '/' :: d.program
  let root : Path := match p with
    | '/' :: '/' :: '/' :: _ => ['/']
    | '/' :: '/' :: _ => ['/', '/']
    | _ => ['/']
  (root ++ Text.joined ['/'] (plainSegments [] (p.pieces Path.isSlash))).map Path.forward

/-- A bound on descents. Every directory counts once for each link that a path to it can lead
    through, and a few times more. -/
def depth (d : Disk) : Nat := (linkLimit + 5) * (d.nodes.length + 2)

/-- The reply of the disk to a request. No command can be run on it. -/
def answer : (q : Request) → Disk → q.Reply × Disk
  | .listDir p, d => (reply (named p) (d.listDir (named p)), d)
  | .isFile p, d => (d.leadsTo (named p) isFileNode, d)
  | .isDir p, d => (d.leadsTo (named p) (· = .directory), d)
  | .mkdir p, d => d.change p (d.mkdir p)
  | .rmdir p, d => d.change p (d.rmdir p)
  | .remove p, d => d.change p (d.remove p)
  | .stat p, d => (reply (named p) (d.stat (named p)), d)
  | .readText p, d => (d.readText (named p), d)
  | .identifier (some name), d => (Uuid.ofName name, d)
  | .identifier none, d => (Uuid.ofSerial d.serial, { d with serial := d.serial + 1 })
  | .hasWideWords, d => (true, d)
  | .variable n, d => (valueOf? n d.environment, d)
  | .executable, d => (d.programPath, d)
  | .outputOf _, d => (.ok [], d)
  | .execute _, d => (.ok 127, d)
  | .isThere p, d => (d.isThere p, d)
  | .readConfig p, d => (d.readText p, d)
  | .workingDir, d => (d.workingDir, d)
  | .depth, d => (d.depth, d)

instance : World Disk where
  answer := answer

/-- The disk with directories put at the places around a place, where nothing is. -/
def putAround (d : Disk) : Place → Disk
  | [] => d
  | _ :: around =>
    let d := putAround d around
    if (d.node? around).isSome then d else d.put around .directory

/-- The disk with a node added at a place, and with the directories that it lies in. A directory
    that is there stays. -/
def add (d : Disk) (p : Place) (node : DiskNode) : Disk :=
  let d := d.putAround p
  if node = .directory ∧ (d.node? p).isSome then d else d.put p node

/-- A disk that is empty but for a working directory. -/
def bare (home : Place) : Disk :=
  let d : Disk := ⟨[], [], [], [], 0⟩
  { d.add home .directory with home }

/-- The path of a place as seen from a directory around it. -/
def pathFrom (top place : Place) : Option Path :=
  if place ≠ top ∧ top.isSuffixOf place then
    some (Text.joined ['/'] (place.take (place.length - top.length)).reverse)
  else none

end Disk

end Maskwalk
