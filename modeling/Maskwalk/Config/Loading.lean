import Maskwalk.Config.Fields
import Maskwalk.Yaml.Reading

/-!
# Loading configurations

A configuration is a YAML file. One that is named has to exist; where none is named, the file with
the usual name in the working directory is taken if it is there, and the defaults otherwise.

The path of the file is tidied, empty segments and single dots taken out, but nothing is taken out
for a `..`, since the segment in front of it can be a link.

## Main definitions

* `Config.ofText`: the configuration that a text gives.
* `Config.tidy`: a tidied path.
* `Config.load`: the configuration of a run.
-/

namespace Maskwalk

namespace Config

/-- The usual name of a configuration file. -/
def fileName : Path := "buildfs.yaml".toList

/-- The configuration that a text gives. -/
def ofText (t : Text) : Except Fault Config :=
  match Yaml.read t with
  | .error problem => .error (Fault.ofYaml problem)
  | .ok .null => .error (.config .emptyFile)
  | .ok (.map fields) => ofFields fields
  | .ok _ => .error (.config .noMapping)

/-- Whether a segment says anything. -/
def isTelling (segment : Text) : Bool := segment ≠ [] && segment ≠ Path.dot

/-- The root of a path: one slash, or two if there are exactly two at its start. -/
def rootText (p : Path) : Path :=
  match p with
  | '/' :: '/' :: '/' :: _ => ['/']
  | '/' :: '/' :: _ => ['/', '/']
  | '/' :: _ => ['/']
  | _ => []

/-- A path without empty segments and single dots. -/
def tidy (p : Path) : Path :=
  match rootText p ++ Text.joined ['/'] ((p.pieces Path.isSlash).filter isTelling) with
  | [] => Path.here
  | p => p

/-- The configuration of a file. -/
def loadFile (path : Path) : Attempt Config := do
  let isThere ← Attempt.orFail (← Attempt.request (.isThere path))
  if isThere then
    let text ← Attempt.orFail (← Attempt.request (.readConfig path))
    match ofText text with
    | .ok config => return config
    | .error fault => throw fault
  else throw (.config (.noFile path))

/-- The configuration of a run, from a file that is named or from the usual one. -/
def load (named : Option Path) : Attempt Config := do
  match named with
  | some path => loadFile (tidy path)
  | none =>
    let dir ← Attempt.orFail (← Attempt.request .workingDir)
    let path := Path.join dir fileName
    let isThere ← Attempt.orFail (← Attempt.request (.isThere path))
    if isThere then loadFile path else return {}

end Config

end Maskwalk
