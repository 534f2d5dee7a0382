import Maskwalk.Cli.Command
import Maskwalk.Cli.Output
import Maskwalk.Config.Loading
import Maskwalk.Engine.Basic

/-!
# Running commands

A command loads the configuration, puts in what the command line sets, makes an engine and has it do
one thing. It ends with an exit code: zero if it did what it was for and could print what it found,
one if it found nothing, could not change what it should, or met a fault. What it found goes to the
output line by line, everything else is a notice. A fault does not take back what is printed.

How notices are printed depends on how much is to be told: by default warnings and errors, by their
words alone; quietly, errors only; verbosely, everything with its level and its source.

## Main definitions

* `perform`: what an engine does for a command, and what it prints.
* `work`: a command at work, up to its exit code.
* `Exit`: the exit code and the output of a command.
* `runOn`, `run`: a command run, with its output on a device or on one that takes everything.
* `shown`: the printed lines of notices.
-/

namespace Maskwalk

namespace Cli

/-- The version of the program, as it tells it. -/
def versionText : Text := "buildfs 0.1.0".toList

/-- How a command line is built, in a few lines. -/
def usageText : List Text := [
  "usage: buildfs [--version] [-v] [-q] [--config PATH] [--os ID] [--scripts PATHS] COMMAND".toList,
  "commands: ".toList ++ Text.joined [',', ' '] (commands.map (·.1))]

/-- A text that is given and not empty. -/
def given (t : Option Text) : Option Text := t.filter (· ≠ [])

/-- A configuration with what the command line sets. -/
def withSettings (s : Settings) (c : Config) : Config :=
  { c with
    os := ((given s.os).map Text.toLower).or c.os
    scripts := (given s.scripts).or c.scripts }

/-- The engine for a command. -/
def engineFor (host : Host) (s : Settings) : Attempt Engine := do
  let config := withSettings s (← Config.load s.config)
  Attempt.notice (.configured config.quoted)
  match Engine.make config host none with
  | .ok engine => return engine
  | .error problem => throw (.badPattern problem)

/-- The end of a search. -/
def found (result : Option Path) (wanted : Text) : Job Nat := do
  match result with
  | some path =>
    Job.print [path]
    return 0
  | none =>
    Job.notice (.nothingFound wanted)
    return 1

/-- The end of a change, by the name of the command that made it. -/
def changed (command : String) (o : Outcome) : Job Nat := do
  if o.ok then return 0
  else
    let orNone (t : Option Text) : Text := t.getD "None".toList
    Job.notice (.treeFailed command.toList (orNone o.path) (orNone o.cause))
    return 1

/-- The line about an operating system. -/
def osLine (os : Text) : Text := "os:       ".toList ++ os

/-- The line about the size of words. -/
def wordsLine (wide : Bool) : Text :=
  "64-bit:   ".toList ++ (if wide then "yes".toList else "no".toList)

/-- The line about a platform. -/
def platformLine (i : PlatformInfo) : Text := "platform: ".toList ++ i.text

/-- The rule for a pattern. -/
def ruleOf (pattern : Option Text) : Option Rule := pattern.map fun t => .pattern t false

/-- Has an engine do what a command says, and prints what it found. The size of words is asked for
    when the line in front is already printed. -/
def perform (e : Engine) : Command → Job Nat
  | .matching mask dirs dirRule fileRule => do
    let paths ← Job.attempt (e.matcher.matching mask (!dirs) (ruleOf dirRule) (ruleOf fileRule))
    Job.notice (.counted paths.length mask)
    Job.print paths
    return 0
  | .findLibrary name => do found (← Job.act (e.searcher.findLibrary name)) name
  | .locate names => do
    found (← Job.attempt (e.searcher.locate names)) (Text.joined [',', ' '] names)
  | .makeDirs path => do changed "mkdir" (← Job.attempt (makeDirs path))
  | .removeAll masks => do
    changed "rm" (← Job.attempt (removeAll e.matcher (.many (masks.map .mask))))
  | .removeTree path => do changed "rmdir" (← Job.attempt (removeTree e.matcher path))
  | .info => do
    let i ← Job.act e.platform.info
    Job.print [osLine e.platform.osId]
    Job.print [wordsLine (← Job.act e.platform.hasWideWords)]
    Job.print [platformLine i]
    return 0
  | .uuid name => do
    Job.print [← Job.act (identifierFor name)]
    return 0

/-- A fault in words. A rule that is no pattern is told with the mistake in it. -/
def faultText : Fault → Text
  | .config (.badRule field rule why) =>
    (ConfigProblem.badRule field rule why).message ++ ": ".toList ++ patternText why
  | fault => fault.message

/-- The end of a command, by what its job came to. A fault is told in a notice. -/
def closing : Except Fault Nat → Writing Nat
  | .ok code => .done code
  | .error fault => .say (.aborted (faultText fault)) (.done 1)

/-- A command at work, up to its exit code. -/
def work (host : Host) (s : Settings) (c : Command) : Writing Nat := do
  let whole : Job Nat := do perform (← Job.attempt (engineFor host s)) c
  closing (← whole.start .fresh).1

/-- What a command leaves: its exit code, and what is written. -/
structure Exit where
  code : Nat
  written : Text
  deriving DecidableEq, Repr

/-- The lines of what is written. -/
def Exit.output (e : Exit) : List Text := Text.lines e.written

/-- A command run, with its output on a device. -/
def runOn (d : Device) (host : Host) (s : Settings) (c : Command) : Inquiry Exit := do
  let (code, written) ← (work host s c).onto d []
  return ⟨code, written⟩

/-- A command run, with nothing that refuses its output. -/
def run (host : Host) (s : Settings) (c : Command) : Inquiry Exit := runOn .ready host s c

/-- Whether a notice is printed. -/
def isShown (s : Settings) (n : Notice) : Bool :=
  match n.level with
  | .error => true
  | .warning => s.verbose || !s.quiet
  | .debug => s.verbose

/-- A notice as it is printed. -/
def shownText (s : Settings) (n : Notice) : Text :=
  if s.verbose then n.level.text ++ " [".toList ++ n.source ++ "] ".toList ++ n.message
  else if s.quiet then n.level.text ++ ": ".toList ++ n.message
  else n.message

/-- The printed notices. -/
def shown (s : Settings) (notices : List Notice) : List Text :=
  (notices.filter (isShown s)).map (shownText s)

end Cli

end Maskwalk
