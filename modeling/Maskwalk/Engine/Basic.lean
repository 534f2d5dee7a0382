import Maskwalk.Config.Basic
import Maskwalk.Diagnostics
import Maskwalk.Search
import Maskwalk.Tree

/-!
# The engine

An engine is what a configuration and a host come to: the rules of a match compiled, the platform
settled, the places of a search at hand. It is made once and does not change while it is used, but
for the path on which scripts are searched. What changes is the memory that its acts share.

Masks are matched without regard to case exactly on hosts that run Windows.

## Main definitions

* `Engine`: a configuration made ready for use.
* `Engine.make`: the engine of a configuration, unless one of its rules is no pattern.
-/

namespace Maskwalk

/-- A configuration made ready for use. -/
structure Engine where
  platform : Platform
  matcher : Matcher
  scripts : Option Text
  searchVariable : Text
  linkerConf : Path

namespace Engine

/-- The expression of a configured rule, if there is one. -/
def ruleOf (set : Option Text) : Except Regex.Problem (Option Regex) :=
  match set with
  | none => .ok none
  | some text => (Regex.compile text false).map some

/-- The engine of a configuration on a host. -/
def make (config : Config) (host : Host) (hostOs : Option Text) : Except Regex.Problem Engine := do
  let platform := Platform.make host hostOs config.os
  let dirRule ← ruleOf config.excludeDirs
  let fileRule ← ruleOf config.excludeFiles
  return {
    platform
    matcher := { caseSensitive := platform.hostOs ≠ windows, dirRule, fileRule }
    scripts := config.scripts
    searchVariable := config.searchVariable
    linkerConf := config.linkerConf }

/-- What the engine's searches need to know. -/
def searcher (e : Engine) : Searcher where
  platform := e.platform
  matcher := e.matcher
  scripts := e.scripts
  searchVariable := e.searchVariable
  linkerConf := e.linkerConf

/-- Runs a command and gives its exit code. -/
def execute (command : Text) : Attempt Int := do
  Attempt.notice (.executing command)
  Attempt.orFail (← Attempt.request (.execute command))

/-- Runs a command and gives what it writes. -/
def outputOf (command : Text) : Attempt Text := do
  Attempt.notice (.capturing command)
  Attempt.orFail (← Attempt.request (.outputOf command))

/-- The command that a template and its arguments make. -/
def commandText (template : Text) (arguments : List Value) : Attempt Text :=
  if arguments.isEmpty then return template
  else
    match Template.fill template (.row arguments) with
    | .ok command => return command
    | .error mistake => throw (.badTemplate mistake)

end Engine

end Maskwalk
