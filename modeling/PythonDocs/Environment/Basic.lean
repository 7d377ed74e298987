import PythonDocs.Environment.Assignments
import PythonDocs.Settings.Basic

namespace PythonDocs

/-- Variables with their values; the first value of a name counts. -/
abbrev Environment := List (String × String)

namespace Environment

def get? (environment : Environment) (name : String) : Option String :=
  environment.lookup name

def isSettable (value : String) : Bool := !value.toList.contains '\x00'

/-- Sets a variable that is not set yet; `none` where the attempt makes the program crash. -/
def setNew? (environment : Environment) (name value : String) : Option Environment :=
  match environment.get? name with
  | some _ => some environment
  | none => if isSettable value then some (environment ++ [(name, value)]) else none

def valueOf (environment : Environment) (assigned : List (String × String)) (name : String) :
    String :=
  ((environment.get? name).or (assigned.lookup name)).getD ""

/-- Takes over the assignments of a file up to the first line that cannot be read; `none` where the
program crashes. -/
def loadLines (environment : Environment) (assigned : List (String × String)) :
    List (Option (List Char)) → Option Environment
  | [] | none :: _ => some environment
  | some line :: rest =>
    match Assignments.readLine (environment.valueOf assigned) line with
    | none => some environment
    | some none => loadLines environment assigned rest
    | some (some (name, value)) =>
      match environment.setNew? name value with
      | some environment => loadLines environment ((name, value) :: assigned) rest
      | none => none

def physicalLines (bytes : Text.Bytes) : List (Option (List Char)) :=
  (split bytes).map Text.decode?
where
  split : Text.Bytes → List Text.Bytes
    | [] => []
    | byte :: rest =>
      if byte = 10 then [byte] :: split rest
      else
        match split rest with
        | line :: lines => (byte :: line) :: lines
        | [] => [[byte]]

def withoutMark : Text.Bytes → Text.Bytes
  | 0xEF :: 0xBB :: 0xBF :: rest => rest
  | bytes => bytes

def load (environment : Environment) (bytes : Text.Bytes) : Option Environment :=
  environment.loadLines [] (Assignments.joinLines [] .complete (physicalLines (withoutMark bytes)))

end Environment

/-- Settings with the key of their provider from the environment, where they have none. An empty
value is no key. -/
def Settings.fillKey (settings : Settings) (environment : Environment) : Settings :=
  match settings.service.apiKey with
  | some _ => settings
  | none =>
    let key := (settings.service.provider.keyVariable?.bind environment.get?).filter (· ≠ "")
    { settings with service := { settings.service with apiKey := key } }

end PythonDocs
