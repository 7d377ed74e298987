import PythonDocs.Arguments.Basic
import PythonDocs.Text.Lines

namespace PythonDocs.Arguments

inductive Parameter
  | path | verbose | quiet | help | version | output | config | excluded | included
  | provider | model | noDocstrings | noDiagrams
  deriving DecidableEq, Repr

namespace Parameter

/-- The word behind two dashes; a path has none. -/
def word : Parameter → String
  | path => ""
  | verbose => "verbose"
  | quiet => "quiet"
  | help => "help"
  | version => "version"
  | output => "output"
  | config => "config"
  | excluded => "exclude"
  | included => "include"
  | provider => "provider"
  | model => "model"
  | noDocstrings => "no-docstrings"
  | noDiagrams => "no-diagrams"

def letter? : Parameter → Option Char
  | verbose => some 'v'
  | quiet => some 'q'
  | help => some 'h'
  | version => some 'V'
  | output => some 'o'
  | config => some 'c'
  | _ => none

def takesValue : Parameter → Bool
  | path | output | config | excluded | included | provider | model => true
  | _ => false

def isRepeatable : Parameter → Bool
  | excluded | included => true
  | _ => false

def isPath : Parameter → Bool
  | path | output | config => true
  | _ => false

end Parameter

inductive CommandName
  | generate | symbols | version
  deriving DecidableEq, Repr

def CommandName.ofText? : String → Option CommandName
  | "generate" => some .generate
  | "symbols" => some .symbols
  | "version" => some .version
  | _ => none

def isCommand (text : String) : Bool := text = "help" || (CommandName.ofText? text).isSome

/-- The part of a command line before the command, or behind it. -/
abbrev Scope := Option CommandName

namespace Scope

def parameters : Scope → List Parameter
  | none => [.verbose, .quiet, .help, .version]
  | some .generate =>
    [.path, .verbose, .quiet, .help, .output, .config, .excluded, .included, .provider, .model,
      .noDocstrings, .noDiagrams]
  | some .symbols => [.path, .verbose, .quiet, .help, .config]
  | some .version => [.verbose, .quiet, .help]

def withWord? (scope : Scope) (word : String) : Option Parameter :=
  scope.parameters.find? fun parameter => parameter ≠ .path ∧ parameter.word = word

def withLetter? (scope : Scope) (letter : Char) : Option Parameter :=
  scope.parameters.find? (·.letter? = some letter)

def takesPath (scope : Scope) : Bool := scope.parameters.contains .path

end Scope

structure Scan where
  found : List (Parameter × String) := []
  pending : Option (Parameter × Option String) := none
  hasPath : Bool := false
  literal : Bool := false
  deriving DecidableEq, Repr

namespace Scan

def value? (scan : Scan) (parameter : Parameter) : Option String := scan.found.lookup parameter

def values (scan : Scan) (parameter : Parameter) : List String :=
  (scan.found.filter (·.1 = parameter)).map (·.2)

def has (scan : Scan) (parameter : Parameter) : Bool := (scan.value? parameter).isSome

def take (scan : Scan) (parameter : Parameter) (value : String) : Except Stop Scan :=
  if !parameter.isRepeatable ∧ scan.has parameter then .error .conflict
  else if parameter.isPath ∧ value = "" then .error .noValue
  else .ok { scan with found := scan.found ++ [(parameter, value)] }

def settle (scan : Scan) : Except Stop Scan :=
  match scan.pending with
  | none => .ok scan
  | some (_, none) => .error .noValue
  | some (parameter, some value) => { scan with pending := none }.take parameter value

def takeFlag (scan : Scan) (parameter : Parameter) : Except Stop Scan := do
  let scan ← scan.settle
  match parameter with
  | .help => .error .help
  | .version => .error .version
  | parameter => scan.take parameter ""

def takeAttached (scan : Scan) (parameter : Parameter) (value : List Char) : Except Stop Scan := do
  (← scan.settle).take parameter (.ofList value)

def expect (scan : Scan) (parameter : Parameter) : Except Stop Scan := do
  return { ← scan.settle with pending := some (parameter, none) }

def readWord (scope : Scope) (scan : Scan) (text : List Char) : Except Stop Scan :=
  let (word, value?) := Text.splitFirst '=' text
  match scope.withWord? (.ofList word) with
  | none => .error .unknownArgument
  | some parameter =>
    match value?, parameter.takesValue with
    | none, false => scan.takeFlag parameter
    | some _, false => .error .needlessValue
    | none, true => scan.expect parameter
    | some value, true => scan.takeAttached parameter value

/-- Reads letters up to one with a value, which is all that follows it. -/
def readLetters (scope : Scope) : List Char → Scan → Except Stop Scan
  | [], scan => .ok scan
  | letter :: rest, scan =>
    match scope.withLetter? letter with
    | none => .error .unknownArgument
    | some parameter =>
      match parameter.takesValue, rest with
      | false, rest => do readLetters scope rest (← scan.takeFlag parameter)
      | true, [] => scan.expect parameter
      | true, '=' :: value | true, value => scan.takeAttached parameter value

def readPlain (scope : Scope) (scan : Scan) (text : String) : Except Stop Scan :=
  if scope.takesPath ∧ !scan.hasPath then do
    return { ← scan.settle with pending := some (.path, some text), hasPath := true }
  else if scope = none ∧ !(scan.literal ∧ isCommand text) then .error .unknownCommand
  else .error .unknownArgument

def step (scope : Scope) (scan : Scan) (text : String) : Except Stop Scan :=
  match scan.literal, text.toList with
  | true, _ => scan.readPlain scope text
  | false, ['-', '-'] => .ok { scan with literal := true }
  | false, '-' :: '-' :: rest => scan.readWord scope rest
  | false, '-' :: letter :: rest => scan.readLetters scope (letter :: rest)
  | false, _ =>
    match scan.pending with
    | some (parameter, none) => .ok { scan with pending := some (parameter, some text) }
    | _ => scan.readPlain scope text

def finish (scope : Scope) (scan : Scan) : Except Stop Scan := do
  let scan ← scan.settle
  if scan.has .verbose ∧ scan.has .quiet then .error .conflict
  else if scope.takesPath ∧ !scan.has .path then .error .noPath
  else .ok scan

def command (scan : Scan) : CommandName → Command
  | .generate =>
    .generate {
      path := (scan.value? .path).getD ""
      output := scan.value? .output
      config := scan.value? .config
      excluded := scan.values .excluded
      included := scan.values .included
      provider := scan.value? .provider
      model := scan.value? .model
      noDocstrings := scan.has .noDocstrings
      noDiagrams := scan.has .noDiagrams }
  | .symbols => .symbols ((scan.value? .path).getD "") (scan.value? .config)
  | .version => .version

/-- Reads up to the command; what follows it is left. -/
def untilCommand (scan : Scan) :
    List String → Except Stop (Scan × Option (CommandName × List String))
  | [] => .ok (scan, none)
  | text :: rest =>
    match scan.literal, text == "help", CommandName.ofText? text with
    | false, true, _ => .error (if explains rest then .help else .unknownCommand)
    | false, false, some name => .ok (scan, some (name, rest))
    | _, _, _ => do untilCommand (← scan.step none text) rest
where
  explains : List String → Bool
    | [] => true
    | [text] => isCommand text
    | _ => false

end Scan

def read (line : List String) : Except Stop Arguments := do
  let (outer, command?) ← Scan.untilCommand {} line
  match command? with
  | none => .error (if outer.found.isEmpty then .nothingGiven else .noCommand)
  | some (name, rest) =>
    let inner ← (← rest.foldlM (Scan.step (some name)) {}).finish (some name)
    let outer ← outer.finish none
    return {
      verbose := outer.has .verbose || inner.has .verbose
      quiet := outer.has .quiet || inner.has .quiet
      command := inner.command name }

end PythonDocs.Arguments
