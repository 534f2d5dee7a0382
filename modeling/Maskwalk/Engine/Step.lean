import Maskwalk.Engine.Basic

/-!
# Steps

All that an engine can be asked for, as data: a step names an operation with its arguments, and
`Step.perform` does it. Beside the operations on masks, paths and trees there are questions about
the platform, identifiers and warnings, commands, and the plain requests to the world, which reach
it with their paths in normal form like all others.

## Main definitions

* `Step`: an operation with its arguments.
* `Answer`: what an operation answers.
* `Step.perform`: an operation done.
-/

namespace Maskwalk

/-- An operation with its arguments. A change with `strict` set ends in a fault if it fails. -/
inductive Step where
  | matching (mask : Path) (files : Bool) (dirRule fileRule : Option Rule)
  | matchFiles (mask : Path)
  | matchDirs (mask : Path)
  | pathSearch (name : Path) (lists : List (Option Text))
  | splitList (list : Text)
  | linkerDirs (file : Path)
  | findLibrary (name : Text)
  | locate (names : List Path)
  | makeDirs (path : Path) (strict : Bool)
  | removeAll (target : Target) (strict : Bool)
  | removeTree (path : Path) (strict : Bool)
  | osId
  | hostOs
  | caseSensitive
  | isOs (id : Text)
  | hasWideWords
  | platformInfo
  | identifierFor (name : Option Text)
  | nameOf (identifier : Text)
  | hasWarned (key : Text)
  | warnOnce (key message : Text) (arguments : List Value)
  | warn (message : Text) (arguments : List Value)
  | report (message : Text) (arguments : List Value)
  | isFile (path : Path)
  | isDir (path : Path)
  | stat (path : Path)
  | execute (command : Text)
  | executeFilled (template : Text) (arguments : List Value)
  | outputOf (command : Text)
  | listDir (path : Path)
  | readText (path : Path)
  | mkdir (path : Path)
  | rmdir (path : Path)
  | remove (path : Path)
  | variable (name : Text)
  | executable
  | worldHasWideWords

/-- What an operation answers. -/
inductive Answer where
  | nothing
  | flag (b : Bool)
  | code (n : Int)
  | text (t : Text)
  | perhaps (t : Option Text)
  | texts (ts : List Text)
  | entries (es : List Entry)
  | stat (s : Stat)
  | outcome (o : Outcome)
  | info (i : PlatformInfo)
  deriving DecidableEq, Repr

/-- The answer of a change, or the fault that its failure is. -/
def settle (strict : Bool) (outcome : Outcome) : Attempt Answer :=
  match outcome.fault? with
  | some fault => if strict then throw fault else return .outcome outcome
  | none => return .outcome outcome

/-- An operation that does not need the memory. -/
def Step.attempt? (e : Engine) : Step → Option (Attempt Answer)
  | .matching mask files dirRule fileRule =>
    some do return .texts (← e.matcher.matching mask files dirRule fileRule)
  | .matchFiles mask => some do return .texts (← e.matcher.files mask)
  | .matchDirs mask => some do return .texts (← e.matcher.dirs mask)
  | .pathSearch name lists => some do return .perhaps (← e.searcher.search name lists)
  | .splitList list => some do return .texts (Maskwalk.splitList e.searcher.onWindows list)
  | .linkerDirs file => some do return .texts (← Maskwalk.linkerDirs e.matcher file)
  | .locate names => some do return .perhaps (← e.searcher.locate names)
  | .makeDirs path strict => some do settle strict (← Maskwalk.makeDirs path)
  | .removeAll target strict => some do settle strict (← Maskwalk.removeAll e.matcher target)
  | .removeTree path strict => some do settle strict (← Maskwalk.removeTree e.matcher path)
  | .osId => some do return .text e.platform.osId
  | .hostOs => some do return .text e.platform.hostOs
  | .caseSensitive => some do return .flag e.matcher.caseSensitive
  | .isOs id => some do return .flag (e.platform.isOs id)
  | .isFile path => some do return .flag (← Attempt.request (.isFile path))
  | .isDir path => some do return .flag (← Attempt.request (.isDir path))
  | .stat path => some do
    return .stat (← Attempt.orFail (← Attempt.request (.stat path)))
  | .execute command => some do return .code (← Engine.execute command)
  | .executeFilled template arguments => some do
    return .code (← Engine.execute (← Engine.commandText template arguments))
  | .outputOf command => some do return .text (← Engine.outputOf command)
  | .listDir path => some do
    return .entries (← Attempt.orFail (← Attempt.request (.listDir path)))
  | .readText path => some do
    return .text (← Attempt.orFail (← Attempt.request (.readText path)))
  | .mkdir path => some do
    Attempt.orFail (← Attempt.request (.mkdir path))
    return .nothing
  | .rmdir path => some do
    Attempt.orFail (← Attempt.request (.rmdir path))
    return .nothing
  | .remove path => some do
    Attempt.orFail (← Attempt.request (.remove path))
    return .nothing
  | .variable name => some do return .perhaps (← Attempt.request (.variable name))
  | .executable => some do return .text (← Attempt.request .executable)
  | .worldHasWideWords => some do return .flag (← Attempt.request .hasWideWords)
  | _ => none

/-- An operation that looks at the memory. -/
def Step.act (e : Engine) : Step → Act Answer
  | .findLibrary name => do return .perhaps (← e.searcher.findLibrary name)
  | .hasWideWords => do return .flag (← e.platform.hasWideWords)
  | .platformInfo => do return .info (← e.platform.info)
  | .identifierFor name => do return .text (← Maskwalk.identifierFor name)
  | .nameOf identifier => do return .perhaps (← Maskwalk.nameOf identifier)
  | .hasWarned key => do return .flag (← Maskwalk.hasWarned key)
  | .warnOnce key message arguments => do
    return .flag (← Maskwalk.warnOnce key message arguments)
  | .warn message arguments => do
    Maskwalk.warn message arguments
    return .nothing
  | .report message arguments => do
    Maskwalk.report message arguments
    return .nothing
  | _ => return .nothing

/-- An operation done. -/
def Step.perform (e : Engine) (s : Step) : Act Answer :=
  match s.attempt? e with
  | some attempt => Act.attempt attempt
  | none => s.act e

end Maskwalk
