import PythonDocs.FilePath

namespace PythonDocs

structure GenerateOptions where
  path : FilePath
  output : Option FilePath := none
  config : Option FilePath := none
  excluded : List String := []
  included : List String := []
  provider : Option String := none
  model : Option String := none
  noDocstrings : Bool := false
  noDiagrams : Bool := false
  deriving DecidableEq, Repr

inductive Command
  | generate (options : GenerateOptions)
  | symbols (path : FilePath) (config : Option FilePath)
  | version
  deriving DecidableEq, Repr

structure Arguments where
  verbose : Bool := false
  quiet : Bool := false
  command : Command
  deriving DecidableEq, Repr

inductive Arguments.Stop
  | help | version
  | nothingGiven | noCommand | unknownCommand | unknownArgument
  | conflict | noValue | needlessValue | noPath
  deriving DecidableEq, Repr

namespace Arguments.Stop

def message : Stop → String
  | help | version => ""
  | nothingGiven | noCommand => "a command is needed"
  | unknownCommand => "there is no such command"
  | unknownArgument => "unexpected argument"
  | conflict => "an argument stands twice, or with one that it excludes"
  | noValue => "a value is needed"
  | needlessValue => "unexpected value"
  | noPath => "a path is needed"

end Arguments.Stop

end PythonDocs
