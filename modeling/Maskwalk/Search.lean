import Maskwalk.Platform
import Maskwalk.Text.Blank
import Maskwalk.Walk

/-!
# Searching along paths

A path list is a text of directories between separators; a semicolon separates everywhere, a colon
as well except on Windows, where it belongs to drives. A file is searched in the directories of
such lists, one after the other, and the first directory that holds it wins. Not finding anything
is an answer.

Two searches have an order of their own. Scripts are looked for as they are named, then along the
configured path, along the path in a variable, and beside the running executable. Libraries are
looked for under the names that the system gives to libraries, each along the whole path of
directories where the system keeps them; on most systems these are found in the configuration of
the dynamic linker too.

That configuration has a directory on each line, and lines that include other files by a mask. Files
that were read are remembered, so that files which include each other are read once. A file that
cannot be read and a mask whose directory cannot be listed add nothing.

## Main definitions

* `splitList`: the directories of a path list.
* `searchIn`: the first directory that holds a file.
* `Directive`, `linkerDirs`: the dynamic linker's directories.
* `findLibrary`, `locate`: the two searches.
-/

namespace Maskwalk

/-- Whether a character separates the directories of a list. -/
def separates (onWindows : Bool) (c : Char) : Bool := c = ';' || (!onWindows && c = ':')

/-- The directories of a path list. -/
def splitList (onWindows : Bool) (list : Text) : List Path :=
  (list.pieces (separates onWindows)).filter (· ≠ [])

/-- The directories of several path lists, of which some may be missing. -/
def splitLists (onWindows : Bool) (lists : List (Option Text)) : List Path :=
  lists.flatMap fun list => (list.map (splitList onWindows)).getD []

/-- The first directory that holds a file. -/
def searchIn (name : Path) : List Path → Attempt (Option Path)
  | [] => return none
  | dir :: more => do
    if ← Attempt.request (.isFile (Path.join dir name)) then
      Attempt.notice (.found name dir)
      return some dir
    else searchIn name more

/-- What a line of the linker's configuration says. -/
inductive Directive where
  | blank
  | dir (line : Text)
  | includes (mask : Path)
  | skipped (line : Text)
  deriving DecidableEq, Repr

/-- What a line says, once its comment is cut off. -/
def Directive.ofLine (line : Text) : Directive :=
  let line := Text.trim (Text.before (· = '#') line)
  let (word, rest) := Text.firstWord line
  if line = [] then .blank
  else if word = "include".toList then (if rest = [] then .skipped line else .includes rest)
  else if word = "hwcap".toList then .skipped line
  else .dir line

/-- The directories that a step finds for each item in turn, and the files read by then. -/
def collect {α : Type} (step : α → List Path → Attempt (List Text × List Path)) :
    List α → List Path → Attempt (List Text × List Path)
  | [], seen => return ([], seen)
  | item :: more, seen => do
    let (dirs, seen) ← step item seen
    let (others, seen) ← collect step more seen
    return (dirs ++ others, seen)

/-- The files that a mask in a configuration file includes. -/
def included (m : Matcher) (file mask : Path) : Attempt (List Path) := do
  let mask := if Path.isAbsolute mask then mask else Path.join (Path.directory file) mask
  match ← (m.files mask).caught with
  | .ok files => return files
  | .error (.unlistable dir cause) =>
    Attempt.notice (.includeSkipped mask file (Fault.unlistable dir cause).message)
    return []
  | .error fault => throw fault

/-- The directories of a configuration file that was not read before, and the files read by then;
    files may include each other at most so many times over. -/
def linkerDirsFrom (m : Matcher) : Nat → Path → List Path → Attempt (List Text × List Path)
  | 0, _, _ => throw .endless
  | depth + 1, file, seen => do
    let file := Path.normalize file
    if seen.elem file then return ([], seen)
    else
      let seen := file :: seen
      match ← Attempt.request (.readText file) with
      | .error .nulInPath => throw (.failed .nulInPath)
      | .error why =>
        Attempt.notice (.confIgnored file why)
        return ([], seen)
      | .ok text =>
        collect (fun line seen => do
          match Directive.ofLine line with
          | .blank => return ([], seen)
          | .dir line => return ([line], seen)
          | .skipped line =>
            Attempt.notice (.directiveSkipped file line)
            return ([], seen)
          | .includes mask => do
            let files ← included m file mask
            collect (linkerDirsFrom m depth) files seen) (Text.lines text) seen

/-- The directories that the dynamic linker's configuration names. -/
def linkerDirs (m : Matcher) (file : Path) : Attempt (List Text) := do
  let depth ← Attempt.request .depth
  return (← linkerDirsFrom m (depth + 2) file []).1

/-- How a system names its libraries and keeps them: what stands around the name of a library, and
    where to look, as path lists. -/
structure LibraryRules where
  forms : List (Text × Text)
  lists : List (Option Text)

/-- The places of libraries for words of 64 bits. -/
def wideLibraryDirs : Text := "/lib64:/usr/lib64:/usr/local/lib64".toList

/-- The places of libraries. -/
def libraryDirs : Text := "/lib:/usr/lib:/usr/local/lib".toList

/-- The names of shared libraries: with and without `lib` in front. -/
def soForms : List (Text × Text) := [("lib".toList, ".so".toList), ([], ".so".toList)]

/-- What a search needs to know about its run. -/
structure Searcher where
  platform : Platform
  matcher : Matcher
  scripts : Option Text
  searchVariable : Text
  linkerConf : Path

namespace Searcher

/-- Whether the host runs Windows, where a colon does not separate. -/
def onWindows (s : Searcher) : Bool := s.platform.hostOs = windows

/-- The first directory of path lists that holds a file. -/
def search (s : Searcher) (name : Path) (lists : List (Option Text)) : Attempt (Option Path) :=
  searchIn name (splitLists s.onWindows lists)

/-- The default places of libraries. -/
def commonDirs (s : Searcher) : Act (List (Option Text)) := do
  if ← s.platform.hasWideWords then return [some wideLibraryDirs, some libraryDirs]
  else return [some libraryDirs]

/-- The value of a variable. -/
def variableValue (name : String) : Act (Option Text) := Act.request (.variable name.toList)

/-- How the system that the run acts for names and keeps its libraries. -/
def libraryRules (s : Searcher) : Act LibraryRules := do
  if s.platform.isOs windows then
    return ⟨[([], ".dll".toList), ([], [])], [← variableValue "PATH"]⟩
  else if s.platform.isOs "haiku".toList then
    return ⟨soForms, [← variableValue "LIBRARY_PATH"]⟩
  else if s.platform.isOs "macosx".toList then
    let set ← variableValue "DYLD_LIBRARY_PATH"
    return ⟨[("lib".toList, ".dylib".toList), ([], ".dylib".toList), ([], [])],
      set :: (← s.commonDirs)⟩
  else
    let set ← variableValue "LD_LIBRARY_PATH"
    let named ← Act.attempt (linkerDirs s.matcher s.linkerConf)
    return ⟨soForms ++ [([], [])], set :: named.map some ++ (← s.commonDirs)⟩

/-- The first of several file names that is found, joined to the directory that holds it. -/
def firstFound (s : Searcher) (lists : List (Option Text)) :
    List Path → Attempt (Option Path)
  | [] => return none
  | name :: more => do
    match ← s.search name lists with
    | some dir => return some (Path.join dir name)
    | none => firstFound s lists more

/-- The file of a library. -/
def findLibrary (s : Searcher) (name : Text) : Act (Option Path) := do
  let rules ← s.libraryRules
  let names := rules.forms.map fun (front, back) => front ++ name ++ back
  match ← Act.attempt (s.firstFound rules.lists names) with
  | some file => return some file
  | none =>
    Act.notice (.noLibrary name)
    return none

/-- The first of several scripts that is found. -/
def locate (s : Searcher) : List Path → Attempt (Option Path)
  | [] => return none
  | name :: more => do
    if ← Attempt.request (.isFile name) then return some name
    else
      let set ← Attempt.request (.variable s.searchVariable)
      let program ← Attempt.request .executable
      match ← s.search name [s.scripts, set, some (Path.directory program)] with
      | some dir => return some (Path.join dir name)
      | none => locate s more

end Searcher

end Maskwalk
