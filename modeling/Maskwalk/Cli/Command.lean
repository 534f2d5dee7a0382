import Maskwalk.Cli.Arguments

/-!
# The command line

A command line has options for all commands, then the name of a command, then what belongs to that
command. The options say how much is told about the work, and what is set in place of the
configuration. Without a command there is only help to give.

## Main definitions

* `Command`: the commands with their arguments.
* `Settings`: the options for all commands.
* `Invocation`: what a command line comes to.
* `Invocation.ofArguments`: a command line read.
-/

namespace Maskwalk

namespace Cli

/-- The commands with their arguments. -/
inductive Command where
  | matching (mask : Text) (dirs : Bool) (dirRule fileRule : Option Text)
  | findLibrary (name : Text)
  | locate (names : List Text)
  | makeDirs (path : Text)
  | removeAll (masks : List Text)
  | removeTree (path : Text)
  | info
  | uuid (name : Option Text)
  deriving DecidableEq, Repr

/-- The options for all commands. -/
structure Settings where
  verbose : Bool
  quiet : Bool
  config : Option Text
  os : Option Text
  scripts : Option Text
  deriving DecidableEq, Repr

/-- What a command line comes to. -/
inductive Invocation where
  | mistake
  | help
  | version
  | noCommand
  | run (settings : Settings) (command : Command)
  deriving DecidableEq, Repr

/-- The options by their meanings, those of all commands and those of single ones. -/
inductive Meaning where
  | help
  | version
  | verbose
  | quiet
  | config
  | os
  | scripts
  | dirs
  | dirRule
  | fileRule
  deriving DecidableEq, Repr

/-- An option that ends the reading with help. -/
def helpChoice : Choice Meaning := ⟨["-h".toList, "--help".toList], .help, .ends .help⟩

/-- What the program takes. -/
def programGrammar : Grammar Meaning where
  choices := [
    helpChoice,
    ⟨["--version".toList], .version, .ends .version⟩,
    ⟨["--verbose".toList, "-v".toList], .verbose, .sets⟩,
    ⟨["--quiet".toList, "-q".toList], .quiet, .sets⟩,
    ⟨["--config".toList], .config, .takes⟩,
    ⟨["--os".toList], .os, .takes⟩,
    ⟨["--scripts".toList], .scripts, .takes⟩]
  plain := some .command

/-- What a command takes that has no options of its own. -/
def plainGrammar (plain : Option Plain) : Grammar Meaning := ⟨[helpChoice], plain⟩

/-- What the command that matches takes. -/
def matchGrammar : Grammar Meaning where
  choices := [
    helpChoice,
    ⟨["--dirs".toList], .dirs, .sets⟩,
    ⟨["--exclude-dirs".toList], .dirRule, .takes⟩,
    ⟨["--exclude-files".toList], .fileRule, .takes⟩]
  plain := some .one

/-- Whether an option was given. -/
def Said.has (s : Said Meaning) (m : Meaning) : Bool := s.options.any fun o => o.1 = m

/-- The value that was given last to an option. -/
def Said.value (s : Said Meaning) (m : Meaning) : Option Text :=
  (s.options.reverse.find? fun o => o.1 = m).bind (·.2)

/-- The plain arguments. -/
def Said.texts {α : Type} (s : Said α) : List Text := s.plain.getD []

/-- The first plain argument. -/
def Said.first {α : Type} (s : Said α) : Text := s.texts.head?.getD []

/-- The commands by their names: what each takes, and what it comes to. -/
def commands : List (Text × Grammar Meaning × (Said Meaning → Command)) := [
  ("match".toList, matchGrammar, fun s =>
    .matching s.first (s.has .dirs) (s.value .dirRule) (s.value .fileRule)),
  ("findlib".toList, plainGrammar (some .one), fun s => .findLibrary s.first),
  ("locate".toList, plainGrammar (some .several), fun s => .locate s.texts),
  ("mkdir".toList, plainGrammar (some .one), fun s => .makeDirs s.first),
  ("rm".toList, plainGrammar (some .several), fun s => .removeAll s.texts),
  ("rmdir".toList, plainGrammar (some .one), fun s => .removeTree s.first),
  ("info".toList, plainGrammar none, fun _ => .info),
  ("uuid".toList, plainGrammar (some .perhaps), fun s => .uuid s.texts.head?)]

/-- A command with its arguments, the name in front; nothing else may be among them. -/
def commandOf : List Text → Except Ending Command
  | [] => .error .mistake
  | name :: arguments =>
    match valueOf? name commands with
    | none => .error .mistake
    | some (grammar, make) => do
      let said ← grammar.read arguments
      if said.stray then throw .mistake else return make said

/-- The options for all commands. -/
def settingsOf (s : Said Meaning) : Settings where
  verbose := s.has .verbose
  quiet := s.has .quiet
  config := s.value .config
  os := s.value .os
  scripts := s.value .scripts

/-- What a command line comes to once its options are read. -/
def invocationOf (said : Said Meaning) : Except Ending Invocation := do
  match said.plain with
  | none => if said.stray then throw .mistake else return .noCommand
  | some texts =>
    let command ← commandOf texts
    if said.stray then throw .mistake else return .run (settingsOf said) command

/-- A command line read. -/
def Invocation.ofArguments (arguments : List Text) : Invocation :=
  match (programGrammar.read arguments).bind invocationOf with
  | .ok invocation => invocation
  | .error .mistake => .mistake
  | .error .help => .help
  | .error .version => .version

end Cli

end Maskwalk
