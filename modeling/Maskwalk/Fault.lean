import Maskwalk.Inquiry
import Maskwalk.Regex.Pattern
import Maskwalk.Text.Template
import Maskwalk.Yaml.Cursor

/-!
# Faults

A lookup that finds nothing and a removal that the system refuses are answers. A fault is what
leaves no answer: a directory to search that cannot be listed, a rule that is no regular
expression, a template that cannot be filled, a configuration that says what cannot be. An attempt
is an inquiry that ends in a result or in a fault.

## Main definitions

* `ConfigProblem`: what is wrong with a configuration.
* `Fault`: why there is no answer.
* `Fault.message`: a fault in words.
* `Attempt`: an inquiry that may end in a fault.
-/

namespace Maskwalk

/-- What is wrong with a configuration. -/
inductive ConfigProblem where
  | noFile (path : Path)
  | badSyntax
  | emptyFile
  | noMapping
  | badVersion (version : Text)
  | notText (field : Text)
  | badScripts
  | badScript
  | excludeNoMapping
  | badRule (field : Text) (rule : Text) (why : Regex.Problem)
  deriving DecidableEq, Repr

/-- A problem of a configuration in words. -/
def ConfigProblem.message : ConfigProblem → Text
  | .noFile path => "Configuration file not found: ".toList ++ path
  | .badSyntax => "Invalid YAML syntax".toList
  | .emptyFile => "Configuration file is empty".toList
  | .noMapping => "Configuration must be a mapping".toList
  | .badVersion version =>
    "Unsupported version: ".toList ++ version ++ " (expected 1)".toList
  | .notText field => field ++ " must be a string".toList
  | .badScripts => "scripts must be a string or a list of strings".toList
  | .badScript => "scripts entries must be strings".toList
  | .excludeNoMapping => "exclude must be a mapping".toList
  | .badRule field rule _ =>
    "Invalid ".toList ++ field ++ " pattern ".toList ++ Text.quoted rule

/-- A problem of a pattern in words. What is malformed is told without a reason. -/
def patternText : Regex.Problem → Text
  | .malformed => "<regex error>".toList
  | .unevenLookBack => "look-behind requires fixed-width pattern".toList
  | .farLookBack => "looks too much behind".toList
  | .countTooLarge => "the repetition number is too large".toList
  | .lettersClash => "ASCII and UNICODE flags are incompatible".toList

/-- Why there is no answer. -/
inductive Fault where
  | unlistable (dir : Path) (cause : Text)
  | unchanged (path cause : Option Text)
  | notATarget (kind : Text)
  | badPattern (problem : Regex.Problem)
  | badTemplate (mistake : Template.Mistake)
  | config (problem : ConfigProblem)
  | badScalar (problem : Yaml.Problem)
  | failed (failure : Failure)
  | endless
  deriving DecidableEq, Repr

/-- A fault in words, where it has some. -/
def Fault.message : Fault → Text
  | .unlistable dir cause =>
    "Cannot open directory ".toList ++ Text.quoted dir ++ ": ".toList ++ cause
  | .unchanged path cause =>
    path.getD "None".toList ++ ": ".toList ++ cause.getD "None".toList
  | .notATarget kind => "Expected a path, mask or list of them, got ".toList ++ kind
  | .badPattern problem => patternText problem
  | .config problem => problem.message
  | .failed failure => failure.message
  | .endless => "maximum recursion depth exceeded".toList
  | .badTemplate _ | .badScalar _ => []

/-- The fault that a problem of a YAML text is: a malformed text is no configuration, and a scalar
    that cannot be read is a fault of its own. -/
def Fault.ofYaml : Yaml.Problem → Fault
  | .malformed => .config .badSyntax
  | problem => .badScalar problem

/-- An inquiry that may end in a fault. -/
abbrev Attempt (α : Type) := ExceptT Fault Inquiry α

namespace Attempt

/-- A single request. -/
def request (q : Request) : Attempt q.Reply := ExceptT.lift (Inquiry.request q)

/-- A single notice. -/
def notice (n : Notice) : Attempt Unit := ExceptT.lift (Inquiry.notice n)

/-- A reply, or the fault that its failure is. -/
def orFail {α : Type} (reply : Except Failure α) : Attempt α :=
  match reply with
  | .ok a => pure a
  | .error failure => throw (.failed failure)

/-- The result of an attempt, be it a fault. -/
def caught {α : Type} (attempt : Attempt α) : Attempt (Except Fault α) :=
  ExceptT.lift attempt.run

end Attempt

end Maskwalk
