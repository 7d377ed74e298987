import PythonDocs.Extraction
import PythonDocs.FilePath
import PythonDocs.Provider
import PythonDocs.Text.Blank

namespace PythonDocs

def NestedFunctions.name : NestedFunctions → String
  | .flatten => "flatten"
  | .omit => "omit"

def NestedFunctions.all : List NestedFunctions := [.flatten, .omit]

structure AnalysisSettings where
  excluded : List String :=
    ["venv/**", ".venv/**", "__pycache__/**", "*.egg-info/**", ".git/**"]
  included : List String := ["**/*.py"]
  nested : NestedFunctions := .flatten
  deriving DecidableEq, Repr

structure OutputSettings where
  directory : FilePath := "./docwright-docs"
  docstrings : Bool := true
  diagrams : Bool := true
  deriving DecidableEq, Repr

structure ServiceSettings where
  provider : Provider := .gemini
  model : String := Provider.defaultModel .gemini
  apiUrl : Option String := none
  apiKey : Option String := none
  timeout : Option Nat := none
  deriving DecidableEq, Repr

structure Settings where
  projectName : String := "Untitled Project"
  analysis : AnalysisSettings := {}
  output : OutputSettings := {}
  service : ServiceSettings := {}
  deriving DecidableEq, Repr

inductive InvalidSettings
  | noInclude | blankModel | zeroTimeout
  | unknownProvider (name : String)
  deriving DecidableEq, Repr

def InvalidSettings.message : InvalidSettings → String
  | noInclude => "at least one include pattern required"
  | blankModel => "llm.model must not be empty"
  | zeroTimeout => "llm.timeout_secs must be at least 1"
  | unknownProvider name => "unknown llm provider: " ++ name

namespace Settings

def validate (settings : Settings) : Except InvalidSettings Unit :=
  if settings.analysis.included.isEmpty then .error .noInclude
  else if Text.isBlankText settings.service.model then .error .blankModel
  else if settings.service.timeout = some 0 then .error .zeroTimeout
  else .ok ()

def IsValid (settings : Settings) : Prop :=
  settings.analysis.included ≠ [] ∧ Text.isBlankText settings.service.model = false
    ∧ settings.service.timeout ≠ some 0

theorem validate_eq_ok_iff {settings : Settings} :
    settings.validate = .ok () ↔ settings.IsValid := by
  unfold validate IsValid
  split
  · simp_all
  · split
    · simp_all
    · split <;> simp_all

end Settings

def findProvider (name : String) : Except InvalidSettings Provider :=
  (Provider.ofName name).mapError .unknownProvider

end PythonDocs
