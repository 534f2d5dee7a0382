import Maskwalk.Text.Basic

/-!
# Paths

A path is a text of segments between slashes. This module says when a path is absolute, how two
paths are joined, and where the directory of a path ends. None of it looks at a file system: the
functions work on the text alone, and take a path as it is, so that a caller decides when a path is
brought into its normal form.

A path is absolute when it starts at a root, at a drive such as `C:`, or at a variable such as
`$HOME`, which stands for a path that is not known here.

## Main definitions

* `Path.isAbsolute`, `Path.isDrive`: absolute paths, and segments that are a bare drive.
* `Path.join`: a path as seen from a directory.
* `Path.directory`: what stands in front of the last segment.
* `Path.baseName`: the last segment.
-/

namespace Maskwalk

/-- A path, a mask, or the name of a directory entry, as it is written. -/
abbrev Path := Text

namespace Path

/-- The path of the current directory. -/
def here : Path := ['.']

/-- Whether a character is a slash. -/
def isSlash (c : Char) : Bool := c = '/'

/-- Whether a path starts with a drive: an ASCII letter and a colon. -/
def startsWithDrive : Path → Bool
  | letter :: ':' :: _ => letter.isAlpha
  | _ => false

/-- Whether a segment is a drive and nothing more. -/
def isDrive (segment : Text) : Bool := startsWithDrive segment && segment.length = 2

/-- Whether a path is absolute: at a root, a drive or a variable. -/
def isAbsolute (p : Path) : Bool :=
  match p with
  | [] => false
  | c :: _ => c = '/' || c = '\\' || c = '$' || startsWithDrive p

/-- Whether a path ends in a slash. -/
def endsWithSlash (p : Path) : Bool := p.getLast? = some '/'

/-- A path as seen from a directory. From the current directory, and if it is absolute, it stays
    as it is. -/
def join (leading trailing : Path) : Path :=
  if trailing = [] then leading
  else if leading = [] ∨ leading = here ∨ isAbsolute trailing then trailing
  else if endsWithSlash leading then leading ++ trailing
  else leading ++ '/' :: trailing

/-- What stands behind the last slash of a path. -/
def baseName (p : Path) : Text := (p.reverse.takeWhile (!isSlash ·)).reverse

/-- What stands in front of the last slash of a path, with that slash; empty if there is none. -/
def upToSlash (p : Path) : Text := (p.reverse.dropWhile (!isSlash ·)).reverse

/-- The directory of a path: what stands in front of the last slash, the root if that is all,
    and the current directory if there is no slash. -/
def directory (p : Path) : Path :=
  match upToSlash p with
  | [] => here
  | [slash] => [slash]
  | p => p.dropLast

end Path

end Maskwalk
