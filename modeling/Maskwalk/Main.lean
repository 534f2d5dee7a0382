import Maskwalk.Cli.Run
import Maskwalk.World.Disk

/-!
# The program

The program reads its command line, runs the command on the disk of the host, and prints what comes
of it: the output of the command and the notices that are to be told, each at its moment. Everything
it decides is decided elsewhere; here requests are answered one by one by the system, and what the
system refuses is turned into a failure by its number. Output that cannot be written is refused to
the command, which then ends as it does after any other fault.

It starts no other program: a request to do so is answered as by a shell that knows no command.

## Main definitions

* `answerRequest`: the answer of the host to a request.
* `carryOut`: a computation carried out on the host.
* `main`: the program.
-/

namespace Maskwalk

/-- The number that the system gave with a failed step. -/
def errorNumber? : IO.Error → Option UInt32
  | .alreadyExists _ n _ | .otherError n _ | .resourceBusy n _ | .resourceVanished n _
  | .unsupportedOperation n _ | .hardwareFault n _ | .unsatisfiedConstraints n _
  | .illegalOperation n _ | .protocolError n _ | .timeExpired n _ | .interrupted _ n _
  | .noFileOrDirectory _ n _ | .invalidArgument _ n _ | .permissionDenied _ n _
  | .resourceExhausted _ n _ | .inappropriateType _ n _ | .noSuchThing _ n _ => some n
  | .unexpectedEof | .userError _ => none

/-- The failure of a step on a path. -/
def failureOf (p : Path) (e : IO.Error) : Failure :=
  match (errorNumber? e).bind fun n => Errno.ofNumber? n.toNat with
  | some why => .system why p
  | none => .other (toString e).toList

/-- A step on a path. One with a NUL in it is not tried. -/
def attemptOn {α : Type} (p : Path) (step : IO α) : IO (Except Failure α) := do
  if p.elem '\x00' then return .error .nulInPath
  match ← step.toBaseIO with
  | .ok a => return .ok a
  | .error e => return .error (failureOf p e)

/-- A string for a path, where the empty path is the current directory. -/
def placeName (p : Path) : String := Text.toStr (Disk.named p)

/-- What is at a path, links followed. -/
def statOf (p : Path) : IO (Except Failure Stat) := do
  attemptOn p do
    let data ← ((← IO.currentDir) / placeName p).metadata
    match data.type with
    | .dir => return .directory
    | .file => return .file data.byteSize.toNat
    | _ => return .special

/-- An entry of a directory. A link counts as a file, whatever it leads to; an entry that is gone
    by now is none. -/
def entryOfHost (e : IO.FS.DirEntry) : IO (Option Entry) := do
  match ← e.path.symlinkMetadata.toBaseIO with
  | .ok data =>
    let kind := data.type
    return some ⟨e.fileName.toList, kind == .file || kind == .symlink, kind == .dir⟩
  | .error _ => return none

/-- The entries of a directory, in the order of their names. -/
def entriesOf (p : Path) : IO (Except Failure (List Entry)) := do
  attemptOn p do
    let found ← ((← IO.currentDir) / placeName p).readDir
    let entries ← found.toList.filterMapM entryOfHost
    return entries.mergeSort fun a b => Disk.comesFirst a.name b.name

/-- The text of a file. -/
def textOfHost (p : Path) : IO (Except Failure Text) := do
  let bytes ← attemptOn p (IO.FS.readBinFile (placeName p))
  return bytes.bind fun b => Disk.textOf b.toList

/-- The answer of the host to a request. No path is longer than four thousand characters, so no
    descent is deeper. -/
def answerRequest : (q : Request) → IO q.Reply
  | .listDir p => entriesOf (Path.normalize p)
  | .isFile p => do
    match ← statOf (Path.normalize p) with
    | .ok (.file _) => return true
    | _ => return false
  | .isDir p => do
    match ← statOf (Path.normalize p) with
    | .ok .directory => return true
    | _ => return false
  | .mkdir p =>
    let p := Path.normalize p
    attemptOn p (IO.FS.createDir (Text.toStr p))
  | .rmdir p =>
    let p := Path.normalize p
    attemptOn p (IO.FS.removeDir (Text.toStr p))
  | .remove p =>
    let p := Path.normalize p
    attemptOn p (IO.FS.removeFile (Text.toStr p))
  | .stat p => statOf (Path.normalize p)
  | .readText p => textOfHost (Path.normalize p)
  | .identifier (some name) => return Uuid.ofName name
  | .identifier none => do
    return Uuid.text (Uuid.stamped 4 (← IO.getRandomBytes 16).toList)
  | .hasWideWords => return decide (USize.size = 0x10000000000000000)
  | .variable name => do return (← IO.getEnv (Text.toStr name)).map String.toList
  | .executable => do return (← IO.appPath).toString.toList.map Path.forward
  | .outputOf _ => return .ok []
  | .execute _ => return .ok 127
  | .isThere p => do
    match ← statOf p with
    | .ok _ => return .ok true
    | .error (.system .nameTooLong _) => return .error (.system .nameTooLong p)
    | .error _ => return .ok false
  | .readConfig p => textOfHost p
  | .workingDir => do
    return (← attemptOn Path.here IO.currentDir).map fun here => here.toString.toList
  | .depth => return Disk.pathLimit

/-- Writes a piece of the output, and says why it is refused, if it is. -/
def writePiece (piece : Text) : IO (Option Text) := do
  match ← ((← IO.getStdout).putStr piece.toStr).toBaseIO with
  | .ok _ => return none
  | .error e => return some (toString e).toList

/-- A computation carried out on the host. Notices are told as they are said, and the output is
    written as it comes. -/
def carryOut {α : Type} (tell : Notice → IO Unit) : Writing α → IO α
  | .done a => return a
  | .ask q next => do carryOut tell (next (← answerRequest q))
  | .say n next => do
    tell n
    carryOut tell next
  | .write piece next => do carryOut tell (next (← writePiece piece))

/-- The first line of a file of the system, or nothing if it cannot be read. -/
def firstLine (file : String) : IO Text := do
  match ← (IO.FS.readFile file).toBaseIO with
  | .ok text => return Text.before (· = '\n') text.toList
  | .error _ => return []

/-- What the host says about itself. -/
def thisHost : IO Host := do
  let description ← (IO.FS.readFile "/etc/os-release").toBaseIO
  return {
    system := ← firstLine "/proc/sys/kernel/ostype"
    machine := ← firstLine "/proc/sys/kernel/arch"
    release := ← firstLine "/proc/sys/kernel/osrelease"
    distribution := Host.distributionIn (description.toOption.getD "").toList }

/-- Prints lines. -/
def printLines (lines : List Text) : IO Unit := lines.forM fun line => IO.println line.toStr

/-- Prints lines that are no output. -/
def reportLines (lines : List Text) : IO Unit := lines.forM fun line => IO.eprintln line.toStr

end Maskwalk

open Maskwalk in
/-- The program: a command line carried out. -/
def main (arguments : List String) : IO UInt32 := do
  match Cli.Invocation.ofArguments (arguments.map String.toList) with
  | .mistake =>
    reportLines Cli.usageText
    return 2
  | .help =>
    printLines Cli.usageText
    return 0
  | .noCommand =>
    printLines Cli.usageText
    return 1
  | .version =>
    printLines [Cli.versionText]
    return 0
  | .run settings command =>
    let tell (n : Notice) : IO Unit := reportLines (Cli.shown settings [n])
    return UInt32.ofNat (← carryOut tell (Cli.work (← thisHost) settings command))
