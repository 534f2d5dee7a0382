import Maskwalk.Value

/-!
# Configurations

What can be set about a run: the operating system to act for, where scripts are looked for, which
files configure the dynamic linker, and which names are left out of a match. Everything has a
default, and by default hidden directories, those whose name starts with a dot, are left out.

## Main definitions

* `Config`: the settings of a run, with their defaults.
* `Config.quoted`: all settings in one line.
-/

namespace Maskwalk

/-- The rule for directories unless another one is set: names that start with a dot. -/
def hiddenDirs : Text := "^\\.".toList

/-- The settings of a run. A rule that is not set leaves nothing out. -/
structure Config where
  version : Value := .int 1
  os : Option Text := none
  scripts : Option Text := none
  searchVariable : Text := "BUILDFS_PATH".toList
  linkerConf : Text := "/etc/ld.so.conf".toList
  excludeDirs : Option Text := some hiddenDirs
  excludeFiles : Option Text := none

namespace Config

/-- A text in quotes, or the word for its absence. -/
def optional (t : Option Text) : Text := (t.map Text.quoted).getD "None".toList

/-- All settings in one line. -/
def quoted (c : Config) : Text :=
  "EngineConfig(version=".toList ++ c.version.quoted
    ++ ", os=".toList ++ optional c.os
    ++ ", scripts=".toList ++ optional c.scripts
    ++ ", search_env=".toList ++ Text.quoted c.searchVariable
    ++ ", ld_so_conf=".toList ++ Text.quoted c.linkerConf
    ++ ", exclude=ExcludeConfig(dirs=".toList ++ optional c.excludeDirs
    ++ ", files=".toList ++ optional c.excludeFiles ++ "))".toList

end Config

end Maskwalk
