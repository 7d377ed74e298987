import PythonDocs.Arguments.Reader
import PythonDocs.Client
import PythonDocs.Environment.Load
import PythonDocs.Run
import PythonDocs.Settings.Overrides
import PythonDocs.Symbol.Encoding

namespace PythonDocs

def programVersion : String := "docwright 0.1.0"

def settingsFile : FilePath := "docwright.toml"

def usage : String :=
  "Generate docstrings, READMEs and dependency diagrams for Python code\n\n"
    ++ "Usage: docwright [OPTIONS] <COMMAND>\n\n"
    ++ "Commands:\n"
    ++ "  generate <PATH>  Generate Markdown documentation for a file or source tree\n"
    ++ "  symbols <PATH>   Print the symbols and dependencies of one file as JSON\n"
    ++ "  version          Show version information\n"
    ++ "  help             Print this message\n\n"
    ++ "Options:\n"
    ++ "  -v, --verbose              Verbose output\n"
    ++ "  -q, --quiet                Only log errors\n"
    ++ "  -c, --config <CONFIG>      Config file path\n"
    ++ "  -o, --output <OUTPUT>      Output directory\n"
    ++ "      --exclude <EXCLUDE>    Glob pattern to exclude, can be repeated\n"
    ++ "      --include <INCLUDE>    Glob pattern to include, can be repeated\n"
    ++ "      --provider <PROVIDER>  Text generation provider (gemini, ollama, openai)\n"
    ++ "      --model <MODEL>        Model name\n"
    ++ "      --no-docstrings        Skip docstrings\n"
    ++ "      --no-diagrams          Skip dependency diagrams\n"
    ++ "  -h, --help                 Print help\n"
    ++ "  -V, --version              Print version\n"

structure Outcome (σ : Type) where
  result : Except Failure Unit
  output : String
  tree : FileTree
  network : σ

def FileTree.chosenSettings (tree : FileTree) (config : Option FilePath) :
    Except Failure Settings :=
  tree.settingsOrDefault (config.getD settingsFile)

def GenerateOptions.overrides (options : GenerateOptions) : Except InvalidSettings Overrides := do
  let provider ← options.provider.mapM findProvider
  return {
    output := options.output
    excluded := options.excluded
    included := options.included
    provider
    model := options.model
    noDocstrings := options.noDocstrings
    noDiagrams := options.noDiagrams }

def GenerateOptions.merged (options : GenerateOptions) (environment : Environment)
    (tree : FileTree) : Except Failure Settings := do
  let settings ← tree.chosenSettings options.config
  let overrides ← options.overrides.mapError fun problem => .settings (.invalid problem)
  match environment.loadFrom tree with
  | some environment => return (settings.merge overrides).fillKey environment
  | none => .error .crash

variable {σ : Type}

/-- Builds the service that settings ask for. -/
abbrev Connector (σ : Type) := ServiceSettings → Except LlmError (Service σ)

def Network.connector (network : Network σ) : Connector σ := fun settings =>
  .ok (settings.client network)

/-- All that is decided before a run touches anything. -/
def GenerateOptions.accept (options : GenerateOptions) (environment : Environment)
    (connector : Connector σ) (tree : FileTree) : Except Failure (Plan × Service σ) := do
  let settings ← options.merged environment tree
  settings.validate.mapError fun problem => .settings (.invalid problem)
  if tree.exists? options.path then
    let service ← (connector settings.service).mapError .service
    let plan ← Plan.ofSettings settings
    return (plan, service)
  else .error (.pathNotFound options.path)

def Report.skippedText (report : Report) : String :=
  let count := report.skipped.length
  let line (entry : FilePath × String) : String := "  " ++ entry.1 ++ ": " ++ entry.2 ++ "\n"
  if count = 0 then ""
  else
    "\nSkipped files (" ++ toString count ++ "):\n"
      ++ String.join ((report.skipped.take 5).map line)
      ++ if count > 5 then "  ... and " ++ toString (count - 5) ++ " more\n" else ""

def Report.closing (report : Report) (output : FilePath) : String :=
  report.skippedText ++ report.summary ++ "\nDocumentation written to: " ++ output ++ "\n"

def GenerateOptions.run (options : GenerateOptions) (environment : Environment)
    (connector : Connector σ) (tree : FileTree) (state : σ) : Outcome σ :=
  match options.accept environment connector tree with
  | .error failure => { result := .error failure, output := "", tree, network := state }
  | .ok (plan, service) =>
    let directory := plan.settings.output.directory
    let opening := "Documenting " ++ options.path ++ "...\n"
    match plan.run service options.path directory tree state with
    | (.error failure, tree, state) =>
      { result := .error failure, output := opening, tree, network := state }
    | (.ok report, tree, state) =>
      { result := .ok (), output := opening ++ report.closing directory, tree, network := state }

def FileTree.symbolsText (tree : FileTree) (path : FilePath) (config : Option FilePath) :
    Except Failure String := do
  let settings ← tree.chosenSettings config
  if tree.isFile path then
    let found ← tree.symbols settings.analysis.nested path
    return found.toJson.pretty ++ "\n"
  else .error (.pathNotFound path)

def Command.runWith (environment : Environment) (connector : Connector σ) (tree : FileTree)
    (state : σ) : Command → Outcome σ
  | generate options => options.run environment connector tree state
  | symbols path config =>
    match tree.symbolsText path config with
    | .error failure => { result := .error failure, output := "", tree, network := state }
    | .ok text => { result := .ok (), output := text, tree, network := state }
  | version => { result := .ok (), output := programVersion ++ "\n", tree, network := state }

def Command.run (environment : Environment) (network : Network σ) (tree : FileTree) (state : σ)
    (command : Command) : Outcome σ :=
  command.runWith environment network.connector tree state

structure Ending (σ : Type) where
  code : Nat
  output : String := ""
  errors : String := ""
  tree : FileTree
  network : σ

def runProgram (line : List String) (environment : Environment) (network : Network σ)
    (tree : FileTree) (state : σ) : Ending σ :=
  match Arguments.read line with
  | .error .help => { code := 0, output := usage, tree, network := state }
  | .error .version => { code := 0, output := programVersion ++ "\n", tree, network := state }
  | .error stop =>
    { code := 2, errors := "error: " ++ stop.message ++ "\n\n" ++ usage, tree, network := state }
  | .ok arguments =>
    let outcome := arguments.command.run environment network tree state
    let (code, errors) := match outcome.result with
      | .ok _ => (0, "")
      | .error .crash => (101, "")
      | .error failure => (1, "Error: " ++ failure.message ++ "\n")
    { code, output := outcome.output, errors, tree := outcome.tree, network := outcome.network }

end PythonDocs
