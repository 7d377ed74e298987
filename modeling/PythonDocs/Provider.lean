import PythonDocs.Text.LowerCase

namespace PythonDocs

inductive Provider
  | gemini | ollama | openai
  deriving DecidableEq, Repr

namespace Provider

def name : Provider → String
  | gemini => "gemini"
  | ollama => "ollama"
  | openai => "openai"

def label : Provider → String
  | gemini => "Gemini"
  | ollama => "Ollama"
  | openai => "OpenAI"

def all : List Provider := [gemini, ollama, openai]

def defaultModel : Provider → String
  | gemini => "gemini-1.5-flash"
  | ollama => "llama3"
  | openai => "gpt-4o-mini"

def keyVariable? : Provider → Option String
  | gemini => some "GOOGLE_API_KEY"
  | ollama => none
  | openai => some "OPENAI_API_KEY"

def defaultUrl : Provider → String
  | gemini => "https://generativelanguage.googleapis.com/v1beta"
  | ollama => "http://localhost:11434"
  | openai => "https://api.openai.com/v1"

def ofName (name : String) : Except String Provider :=
  match Text.lowerCase name with
  | "gemini" | "google" => .ok gemini
  | "ollama" => .ok ollama
  | "openai" => .ok openai
  | other => .error other

end Provider

end PythonDocs
