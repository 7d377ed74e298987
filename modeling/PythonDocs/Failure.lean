import PythonDocs.Extraction
import PythonDocs.Glob
import PythonDocs.OsError
import PythonDocs.Service
import PythonDocs.Settings.Decoding

namespace PythonDocs

inductive Failure
  | os (cause : OsError)
  | file (path : FilePath) (cause : OsError)
  | settings (error : SettingsError)
  | pathNotFound (path : FilePath)
  | syntaxError (path : FilePath) (place : Position)
  | malformed (problem : MalformedOutline)
  | json (mismatch : Mismatch)
  | pattern (problem : Glob.Problem)
  | walk (root : FilePath) (cause : OsError)
  | service (error : LlmError)
  /-- The program crashes where it sets a variable, and tells no failure of its own. -/
  | crash
  deriving DecidableEq, Repr

namespace Failure

def message : Failure → String
  | os cause => "IO error: " ++ cause.message
  | file path cause => "IO error: " ++ path ++ ": " ++ cause.message
  | settings error => error.message
  | pathNotFound path => "Path not found: " ++ path
  | syntaxError path place =>
    "Parse error in " ++ path ++ ": syntax error at line " ++ toString place.line
      ++ ", column " ++ toString place.column
  | malformed problem => "Malformed syntax tree: " ++ problem.message
  | json mismatch => "JSON error: " ++ mismatch.message
  | pattern problem => "Glob pattern error: " ++ problem.message
  | walk root cause =>
    "Directory walk error: IO error for operation on " ++ root ++ ": " ++ cause.message
  | service error => error.message
  | crash => ""

end Failure

end PythonDocs
