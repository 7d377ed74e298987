import PythonDocs.Prompt
import PythonDocs.Text.Blank

namespace PythonDocs

structure LlmError where
  reason : String
  deriving DecidableEq, Repr

def LlmError.message (error : LlmError) : String := "LLM error: " ++ error.reason

structure ServiceError where
  message : String
  deriving DecidableEq, Repr

/-- Answers a prompt in a state, which it may change. -/
abbrev Service (σ : Type) := String → σ → Except ServiceError String × σ

namespace Service

variable {σ : Type}

def recorded (service : Service σ) : Service (σ × List String) := fun prompt (state, prompts) =>
  let (reply, state) := service prompt state
  (reply, state, prompt :: prompts)

def docstringText : Except ServiceError String → String
  | .ok text => Text.trimmed text
  | .error error => "\"\"\"Error generating docstring: " ++ error.message ++ "\"\"\""

def readmeText (module : String) : Except ServiceError String → String
  | .ok text => Text.trimmed text
  | .error error => "# " ++ module ++ "\n\nError generating README: " ++ error.message

def docstring (service : Service σ) (symbol : Symbol) (state : σ) : String × σ :=
  let (reply, state) := service (Prompt.docstring symbol) state
  (docstringText reply, state)

def readme (service : Service σ) (symbols : List Symbol) (module : String) (state : σ) :
    String × σ :=
  let (reply, state) := service (Prompt.readme symbols module) state
  (readmeText module reply, state)

end Service

end PythonDocs
