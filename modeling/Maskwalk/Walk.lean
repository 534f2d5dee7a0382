import Maskwalk.Fault
import Maskwalk.Mask.Basic
import Maskwalk.Regex.Search

/-!
# Walks

A mask is matched by walking: from the directory at which the mask starts, the entries of a
directory are taken in the order in which it is listed, those of the wanted kind that no rule
leaves out and that the mask fits are results, and if the mask holds two stars the walk goes on
into the directories below, one after the other. A directory's own results come before those of
the directories below it.

The rules are regular expressions that are looked for in the name of an entry alone. A directory
that its rule leaves out is no result and is not entered; a file that its rule leaves out is no
result.

Only the first directory has to be listed. One that does not exist is empty; one that cannot be
listed is a fault at the start of a walk, and is passed over with a notice further down. How deep a
walk goes is bounded by what the world says a descent can be; a walk that goes deeper moves in
circles, and is given up.

## Main definitions

* `Rule`: what leaves names out.
* `Selection`: what a walk looks for.
* `walk`: the results of a walk from a directory on.
* `Matcher`: the settings of matching, and `Matcher.matching`: all matches of a mask.
-/

namespace Maskwalk

/-- What leaves names out: nothing at all, or a pattern that is looked for in them. -/
inductive Rule where
  | nothing
  | pattern (text : Text) (anyCase : Bool)
  deriving DecidableEq, Repr

/-- The expression of a rule. -/
def Rule.compile : Rule → Except Regex.Problem Regex
  | .nothing => .ok Regex.never
  | .pattern text anyCase => Regex.compile text anyCase

/-- Whether an expression, if there is one, is found in a name. -/
def leftOut (rule : Option Regex) (name : Text) : Bool := rule.any (Regex.found · name)

/-- Whether a name stands for the directory itself or the one above it. -/
def isMarker (name : Text) : Bool := name = Path.dot || name = Path.dotDot

/-- What a walk looks for: files or directories that a mask fits, without those that a rule
    leaves out, in one directory or in all below it. -/
structure Selection where
  mask : Mask
  files : Bool
  dirRule : Option Regex
  fileRule : Option Regex
  deep : Bool

namespace Selection

/-- Whether an entry is of the wanted kind and no rule leaves it out. -/
def wants (s : Selection) (e : Entry) : Bool :=
  if s.files then e.isFile && !leftOut s.fileRule e.name
  else e.isDir && !leftOut s.dirRule e.name

/-- Whether an entry of a directory is a result. -/
def keeps (s : Selection) (dir : Path) (e : Entry) : Bool :=
  s.wants e && s.mask.fits (Path.join dir e.name)

/-- Whether a walk goes on into an entry. -/
def enters (s : Selection) (e : Entry) : Bool :=
  e.isDir && !isMarker e.name && !leftOut s.dirRule e.name

/-- The results among the entries of a directory. -/
def kept (s : Selection) (dir : Path) (entries : List Entry) : List Path :=
  (entries.filter (s.keeps dir)).map fun e => Path.join dir e.name

/-- The directories that a walk enters from a directory. -/
def entered (s : Selection) (dir : Path) (entries : List Entry) : List Path :=
  (entries.filter s.enters).map fun e => Path.join dir e.name

end Selection

/-- The current directory by its name where it is given as the empty path. -/
def named (dir : Path) : Path := if dir = [] then Path.here else dir

/-- The entries of a directory. One that is not there has none. -/
def listing (isStart : Bool) (dir : Path) : Attempt (List Entry) := do
  match ← Attempt.request (.listDir dir) with
  | .ok entries => return entries
  | .error why =>
    if why.isAbsence then return []
    else if !why.isRefusal then throw (.failed why)
    else if isStart then throw (.unlistable (named dir) why.cause)
    else
      Attempt.notice (.dirSkipped dir why)
      return []

/-- The results of several visits, one after the other. -/
def gather (visit : Path → Attempt (List Path)) : List Path → Attempt (List Path)
  | [] => return []
  | dir :: more => do
    let here ← visit dir
    let there ← gather visit more
    return here ++ there

/-- The results of a walk from a directory on, at most so many directories deep. -/
def walk (s : Selection) : Nat → Bool → Path → Attempt (List Path)
  | 0, _, _ => throw .endless
  | depth + 1, isStart, dir => do
    let entries ← listing isStart dir
    let own := s.kept dir entries
    if s.deep then
      let again ← listing false dir
      let below ← gather (walk s depth false) (s.entered dir again)
      return own ++ below
    else return own

/-- The settings of matching: whether letters of different case differ, and the rules that hold
    where none is given. -/
structure Matcher where
  caseSensitive : Bool
  dirRule : Option Regex
  fileRule : Option Regex

namespace Matcher

/-- The rule to apply: the one given, or else the one set. -/
def ruleOr (set : Option Regex) (given : Option Rule) : Attempt (Option Regex) :=
  match given with
  | none => return set
  | some rule =>
    match rule.compile with
    | .ok r => return some r
    | .error problem => throw (.badPattern problem)

/-- What a mask in normal form selects. -/
def selection (m : Matcher) (mask : Path) (files : Bool) (dirRule fileRule : Option Regex) :
    Selection :=
  { mask := Mask.compile mask (!m.caseSensitive), files, dirRule, fileRule
    deep := Mask.isDeep mask }

/-- All files, or all directories, that a mask matches. -/
def matching (m : Matcher) (mask : Path) (files : Bool) (dirRule fileRule : Option Rule) :
    Attempt (List Path) := do
  let dirRule ← ruleOr m.dirRule dirRule
  let fileRule ← ruleOr m.fileRule fileRule
  let mask := Path.normalize mask
  let s := m.selection mask files dirRule fileRule
  Attempt.notice (.matching mask (Mask.start mask) files s.deep)
  let depth ← Attempt.request .depth
  walk s (depth + 1) true (Mask.start mask)

/-- All files that a mask matches, under the rules that are set. -/
def files (m : Matcher) (mask : Path) : Attempt (List Path) := m.matching mask true none none

/-- All directories that a mask matches, under the rules that are set. -/
def dirs (m : Matcher) (mask : Path) : Attempt (List Path) := m.matching mask false none none

end Matcher

end Maskwalk
