import StructuredLog.Settings.Problem
import StructuredLog.Template

/-! # Errors -/

namespace StructuredLog

/-- Why a file of settings cannot be read. -/
inductive FileProblem
  | notFound
  | notText
  deriving DecidableEq, Repr

def FileProblem.message : FileProblem → String
  | .notFound => "No such file or directory (os error 2)"
  | .notText => "stream did not contain valid UTF-8"

inductive Error
  | template (e : TemplateError)
  /-- The slots and the other names together are not as many as the arguments. -/
  | arityMismatch (expected formatted unformatted : Nat)
  | duplicateName (name : String)
  | scopeArity (expected actual : Nat)
  | invalidLevel (text : String)
  | settings (problem : Settings.Problem)
  | file (problem : FileProblem)
  deriving Repr

/-- What an error is about. -/
inductive ErrorKind
  | malformedTemplate
  | invalidArgument
  | settings
  | file
  deriving DecidableEq, Repr

namespace Error

def kind : Error → ErrorKind
  | .template (.malformed _ _) => .malformedTemplate
  | .template _ => .invalidArgument
  | .arityMismatch _ _ _ => .invalidArgument
  | .duplicateName _ => .invalidArgument
  | .scopeArity _ _ => .invalidArgument
  | .invalidLevel _ => .settings
  | .settings _ => .settings
  | .file _ => .file

def message : Error → String
  | .template e => e.message
  | .arityMismatch expected formatted unformatted =>
    "the number of named log values is incorrect: expected a total of " ++ toString expected ++
      ", but got " ++ toString formatted ++ " formatted and " ++ toString unformatted ++
      " unformatted"
  | .duplicateName name => "a log value named " ++ name ++ " was defined more than once"
  | .scopeArity expected actual =>
    "the number of scope value names is incorrect: expected " ++ toString expected ++ ", got " ++
      toString actual
  | .invalidLevel text => "unknown log level: " ++ Text.quote text
  | .settings problem => "invalid sink configuration: " ++ problem.message Settings.yamlWording
  | .file problem => "I/O error: " ++ problem.message

end Error

/-- Parses a level or reports the text as it is. -/
def Level.parse (s : String) : Except Error Level :=
  match Level.parse? s with
  | some level => .ok level
  | none => .error (.invalidLevel s)

end StructuredLog
