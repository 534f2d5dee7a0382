import Maskwalk.Path.Basic
import Maskwalk.Text.Quoted

/-!
# Failures of a file system

A file system that refuses a request says why by a number with a fixed text, and with the path it
was given; or, when the refusal is not the system's own, by a text alone. Other faults are of
another kind. Contents that are not text and a path with a NUL in it, which no system call accepts, lie in
what was asked for. An entry whose parent is missing, or does not list it, shows that the tables of
a world have fallen into disarray.

## Main definitions

* `Errno`: the reasons a system gives by number.
* `Errno.ofNumber?`: the reason with a number.
* `Failure`: why a request failed.
* `Failure.cause`: the bare reason.
* `Failure.message`: the reason with its number and path.
-/

namespace Maskwalk

/-- Reasons a system gives by number. -/
inductive Errno where
  | notPermitted
  | noEntry
  | denied
  | busy
  | exists
  | notDirectory
  | isDirectory
  | invalid
  | nameTooLong
  | notEmpty
  | linkLoop
  deriving DecidableEq, Repr

/-- The number of a reason. -/
def Errno.number : Errno → Nat
  | .notPermitted => 1
  | .noEntry => 2
  | .denied => 13
  | .busy => 16
  | .exists => 17
  | .notDirectory => 20
  | .isDirectory => 21
  | .invalid => 22
  | .nameTooLong => 36
  | .notEmpty => 39
  | .linkLoop => 40

/-- The reasons, by rising numbers. -/
def Errno.all : List Errno := [
  .notPermitted, .noEntry, .denied, .busy, .exists, .notDirectory, .isDirectory, .invalid,
  .nameTooLong, .notEmpty, .linkLoop]

/-- The reason with a number. -/
def Errno.ofNumber? (n : Nat) : Option Errno := Errno.all.find? fun why => why.number = n

/-- The text of a reason. -/
def Errno.text : Errno → Text
  | .notPermitted => "Operation not permitted".toList
  | .noEntry => "No such file or directory".toList
  | .denied => "Permission denied".toList
  | .busy => "Device or resource busy".toList
  | .exists => "File exists".toList
  | .notDirectory => "Not a directory".toList
  | .isDirectory => "Is a directory".toList
  | .invalid => "Invalid argument".toList
  | .nameTooLong => "File name too long".toList
  | .notEmpty => "Directory not empty".toList
  | .linkLoop => "Too many levels of symbolic links".toList

/-- Why a request failed: for a reason of the system, for another reason in words, because
    contents are not text, because a path holds a NUL, or because an entry has lost its parent or
    its place in it. -/
inductive Failure where
  | system (reason : Errno) (path : Path)
  | other (reason : Text)
  | notText (reason : Text)
  | nulInPath
  | noParent (path : Path)
  | notListed (name : Text)
  deriving DecidableEq, Repr

namespace Failure

/-- Whether the system refused, so that trying something else can make sense. -/
def isRefusal : Failure → Bool
  | system .. | other _ => true
  | notText _ | nulInPath | noParent _ | notListed _ => false

/-- Whether the failure says that there is no such directory. -/
def isAbsence : Failure → Bool
  | system .noEntry _ | system .notDirectory _ => true
  | _ => false

/-- The reason alone. -/
def cause : Failure → Text
  | system reason _ => reason.text
  | other reason => reason
  | notText reason => reason
  | nulInPath => "embedded null byte".toList
  | noParent path => Text.quoted path
  | notListed _ => "list.remove(x): x not in list".toList

/-- The reason, with its number and the path in quotes where the system gave it. -/
def message : Failure → Text
  | system reason path =>
    "[Errno ".toList ++ Text.ofNat reason.number ++ "] ".toList ++ reason.text ++ ": ".toList
      ++ Text.quoted path
  | f => f.cause

end Failure

end Maskwalk
