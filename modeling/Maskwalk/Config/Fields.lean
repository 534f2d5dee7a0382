import Maskwalk.Config.Basic
import Maskwalk.Fault
import Maskwalk.Text.Lower

/-!
# Configurations from data

A configuration is given as a mapping from the names of its settings to their values. Settings that
are missing have their defaults, names that mean nothing are passed over, and each value has to be
of its kind: a text for most, a text or a list of texts for the path of scripts, a mapping for the
rules. Of several mistakes the first counts, in the order of the settings below and not in that of
the mapping.

A rule is checked here already, so that an engine can always be made from a configuration that was
read (`ruleText`).

## Main definitions

* `Config.ofFields`: the configuration that a mapping gives.
-/

namespace Maskwalk

namespace Config

/-- A setting that is a text if it is given at all. -/
def textField (name : String) (fields : List (Value × Value)) : Except Fault (Option Text) :=
  match Value.field? name.toList fields with
  | none | some .null => .ok none
  | some (.text t) => .ok (some t)
  | some _ => .error (.config (.notText name.toList))

/-- A setting that is a text, with a default also for the empty text. -/
def textOr (otherwise : Text) (set : Option Text) : Text := (set.filter (· ≠ [])).getD otherwise

/-- The texts of a list that holds nothing else. -/
def allTexts : List Value → Option (List Text)
  | [] => some []
  | .text t :: more => (allTexts more).map (t :: ·)
  | _ :: _ => none

/-- The path of scripts: a path list, or a list of directories. -/
def scriptsField (fields : List (Value × Value)) : Except Fault (Option Text) :=
  match Value.field? "scripts".toList fields with
  | none | some .null => .ok none
  | some (.text t) => .ok (some t)
  | some (.list items) =>
    match allTexts items with
    | some dirs => .ok (some (Text.joined [';'] dirs))
    | none => .error (.config .badScript)
  | some _ => .error (.config .badScripts)

/-- A rule, which has to be a regular expression. -/
def ruleText (name : Text) : Value → Except Fault (Option Text)
  | .null => .ok none
  | .text rule =>
    match Regex.compile rule false with
    | .ok _ => .ok (some rule)
    | .error problem =>
      if problem.isMistake then .error (.config (.badRule name rule problem))
      else .error (.badPattern problem)
  | _ => .error (.config (.notText name))

/-- The rules for directories and for files. -/
def excludeField (fields : List (Value × Value)) : Except Fault (Option Text × Option Text) :=
  match Value.field? "exclude".toList fields with
  | none | some .null => .ok (some hiddenDirs, none)
  | some (.map rules) => do
    let dirs := (Value.field? "dirs".toList rules).getD (.text hiddenDirs)
    let files := (Value.field? "files".toList rules).getD .null
    return (← ruleText "exclude.dirs".toList dirs, ← ruleText "exclude.files".toList files)
  | some _ => .error (.config .excludeNoMapping)

/-- The configuration that a mapping gives. -/
def ofFields (fields : List (Value × Value)) : Except Fault Config := do
  let plain : Config := {}
  let version := (Value.field? "version".toList fields).getD plain.version
  if !version.isOne then throw (.config (.badVersion version.shown))
  let os ← textField "os" fields
  let scripts ← scriptsField fields
  let searchVariable ← textField "search_env" fields
  let linkerConf ← textField "ld_so_conf" fields
  let (excludeDirs, excludeFiles) ← excludeField fields
  return {
    version
    os := (os.filter (· ≠ [])).map Text.toLower
    scripts
    searchVariable := textOr plain.searchVariable searchVariable
    linkerConf := textOr plain.linkerConf linkerConf
    excludeDirs, excludeFiles }

end Config

end Maskwalk
