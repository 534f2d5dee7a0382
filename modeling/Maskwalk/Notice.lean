import Maskwalk.World.Failure

/-!
# Notices

While it works, the library says what it does: each finding, each step taken and each step that
failed is a notice. A notice is kept as what it is about; its level, the part of the program it
comes from, and its words are read off it. So the log of a run can be reasoned about, and is set
in words only when it is printed.

## Main definitions

* `Notice`: what can be said about a run.
* `Notice.level`, `Notice.source`, `Notice.message`: how a notice is printed.
-/

namespace Maskwalk

/-- How much a notice matters. -/
inductive Level where
  | debug
  | warning
  | error
  deriving DecidableEq, Repr

/-- The name of a level. -/
def Level.text : Level → Text
  | .debug => "DEBUG".toList
  | .warning => "WARNING".toList
  | .error => "ERROR".toList

/-- What can be said about a run. -/
inductive Notice where
  | matching (mask : Text) (start : Path) (files deep : Bool)
  | dirSkipped (dir : Path) (why : Failure)
  | notCreated (path : Path) (why : Failure)
  | created (path : Path)
  | notRemoved (path : Path) (why : Failure)
  | removed (path : Path)
  | dirRemoved (path : Path)
  | fileLeft (path : Path) (why : Failure)
  | dirLeft (path : Path) (why : Failure)
  | dirUnlisted (path : Path) (why : Text)
  | found (name : Path) (dir : Path)
  | confIgnored (file : Path) (why : Failure)
  | includeSkipped (mask file : Path) (why : Text)
  | directiveSkipped (file : Path) (line : Text)
  | noLibrary (name : Text)
  | noArchitecture (why : Failure)
  | wordSize (wide : Bool)
  | executing (command : Text)
  | capturing (command : Text)
  | clash (former latter : Text)
  | warned (message : Text)
  | reported (message : Text)
  | configured (settings : Text)
  | counted (matched : Nat) (mask : Text)
  | nothingFound (wanted : Text)
  | treeFailed (command : Text) (path cause : Text)
  | aborted (message : Text)
  deriving DecidableEq, Repr

namespace Notice

/-- How much a notice matters. -/
def level : Notice → Level
  | clash .. | warned _ => .warning
  | fileLeft .. | dirLeft .. | dirUnlisted .. | reported _ | nothingFound _ | treeFailed ..
  | aborted _ => .error
  | _ => .debug

/-- The part of the program that a notice comes from. -/
def source : Notice → Text
  | matching .. | dirSkipped .. => "buildfs.core.matcher".toList
  | notCreated .. | created _ | notRemoved .. | removed _ | dirRemoved _ =>
    "buildfs.core.mutator".toList
  | fileLeft .. | dirLeft .. | dirUnlisted .. | clash .. | warned _ | reported _ =>
    "buildfs.core.diagnostics".toList
  | found .. | confIgnored .. | includeSkipped .. | directiveSkipped .. | noLibrary _ =>
    "buildfs.core.search".toList
  | noArchitecture _ | wordSize _ => "buildfs.core.platform".toList
  | executing _ | capturing _ => "buildfs.engine".toList
  | configured _ => "buildfs.cli.utils".toList
  | counted .. => "buildfs.cli.commands.match".toList
  | nothingFound _ => "buildfs.cli.commands.search".toList
  | treeFailed .. => "buildfs.cli.commands.tree".toList
  | aborted _ => "buildfs.cli.parser".toList

/-- A truth value in words. -/
def truth (b : Bool) : Text := if b then "True".toList else "False".toList

/-- The words of a notice. -/
def message : Notice → Text
  | matching mask start files deep =>
    "Matching ".toList ++ Text.quoted mask ++ " from ".toList
      ++ Text.quoted (if start = [] then Path.here else start) ++ " (files=".toList ++ truth files
      ++ ", recurse=".toList ++ truth deep ++ ")".toList
  | dirSkipped dir why =>
    "Skipping unreadable directory ".toList ++ Text.quoted dir ++ ": ".toList ++ why.message
  | notCreated path why =>
    "Failed to create ".toList ++ Text.quoted path ++ ": ".toList ++ why.message
  | created path => "Created directory ".toList ++ Text.quoted path
  | notRemoved path why =>
    "Failed to remove ".toList ++ Text.quoted path ++ ": ".toList ++ why.message
  | removed path => "Removed ".toList ++ Text.quoted path
  | dirRemoved path => "Removed directory ".toList ++ Text.quoted path
  | fileLeft path why => "Failed to remove ".toList ++ path ++ ": ".toList ++ why.message
  | dirLeft path why =>
    "Failed to remove directory ".toList ++ path ++ ": ".toList ++ why.message
  | dirUnlisted path why => "Failed to list ".toList ++ path ++ ": ".toList ++ why
  | found name dir => "Found ".toList ++ Text.quoted name ++ " in ".toList ++ Text.quoted dir
  | confIgnored file why =>
    "Ignoring linker configuration ".toList ++ Text.quoted file ++ ": ".toList ++ why.message
  | includeSkipped mask file why =>
    "Skipping include ".toList ++ Text.quoted mask ++ " in ".toList ++ Text.quoted file
      ++ ": ".toList ++ why
  | directiveSkipped file line =>
    "Skipping directive in ".toList ++ Text.quoted file ++ ": ".toList ++ Text.quoted line
  | noLibrary name => "Library ".toList ++ Text.quoted name ++ " not found".toList
  | noArchitecture why => "Architecture probe failed: ".toList ++ why.message
  | wordSize wide => "64-bit host: ".toList ++ truth wide
  | executing command => "Executing: ".toList ++ command
  | capturing command => "Capturing output of: ".toList ++ command
  | clash former latter =>
    "UUID clash between ".toList ++ former ++ " and ".toList ++ latter
  | warned message => message
  | reported message => message
  | configured settings => "Engine configuration: ".toList ++ settings
  | counted matched mask =>
    Text.ofNat matched ++ " match(es) for ".toList ++ Text.quoted mask
  | nothingFound wanted => "Not found: ".toList ++ wanted
  | treeFailed command path cause =>
    command ++ " failed: ".toList ++ path ++ ": ".toList ++ cause
  | aborted message => "Error: ".toList ++ message

end Notice

end Maskwalk
