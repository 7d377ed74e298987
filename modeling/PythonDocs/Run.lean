import PythonDocs.Diagram
import PythonDocs.Discovery
import PythonDocs.ModuleName
import PythonDocs.Page
import PythonDocs.Report
import PythonDocs.Service
import PythonDocs.Source

namespace PythonDocs

open Text (encode)

structure Plan where
  settings : Settings
  selection : Selection
  deriving DecidableEq, Repr

def Plan.ofSettings (settings : Settings) : Except Failure Plan := do
  settings.validate.mapError fun problem => .settings (.invalid problem)
  let selection ← (Selection.ofSettings settings.analysis).mapError .pattern
  return { settings, selection }

variable {σ : Type}

def Service.countedText (service : Service σ) (settings : OutputSettings) (symbol : Symbol) :
    Nat × σ → Option String × Nat × σ
  | (count, state) =>
    if settings.docstrings then
      let (text, state) := service.docstring symbol state
      (some text, count + 1, state)
    else (none, count + 1, state)

/-- The page of a module and the number of symbols on it, with texts from the service: the
introduction first, then the docstrings in the order of the symbols. -/
def Service.page (service : Service σ) (settings : OutputSettings) (module path : String)
    (found : ModuleSymbols) (state : σ) : Page × Nat × σ :=
  let (readme, state) := service.readme found.symbols module state
  let diagram := if settings.diagrams then Diagram.text found.dependencies module else ""
  let (entries, count, state) :=
    Entry.buildAll (service.countedText settings) found.symbols (0, state)
  ({ module, path, readme, diagram, entries }, count, state)

structure Progress (σ : Type) where
  tree : FileTree
  service : σ
  report : Report := {}
  /-- The module names that have a page, each with the file it was made from. -/
  claimed : List (String × FilePath) := []

def takenReason (module first : String) : String :=
  "module `" ++ module ++ "` is already documented from " ++ first

inductive Fate
  | skipped (reason : String)
  | documented (found : ModuleSymbols)

def shownFrom (base : List Component) (path : FilePath) : FilePath :=
  FilePath.ofComponents (FilePath.seenFrom base path)

/-- A file is skipped where its module has a page, and where it cannot be read as a module. -/
def Plan.fate (plan : Plan) (base : List Component) (tree : FileTree)
    (claimed : List (String × FilePath)) (path : FilePath) : Fate :=
  let module := ModuleName.seenFrom base path
  match claimed.lookup module with
  | some first => .skipped (takenReason module (shownFrom base first))
  | none =>
    match tree.symbols plan.settings.analysis.nested path with
    | .error failure => .skipped failure.message
    | .ok found => .documented found

/-- Documents one file or skips it. Only a page that cannot be written ends the run; the result has
the progress in either case. -/
def Plan.document (plan : Plan) (service : Service σ) (base : List Component) (output : FilePath)
    (path : FilePath) (progress : Progress σ) : Option OsError × Progress σ :=
  match plan.fate base progress.tree progress.claimed path with
  | .skipped reason => (none, { progress with report := progress.report.skip path reason })
  | .documented found =>
    let module := ModuleName.seenFrom base path
    let (page, count, state) :=
      service.page plan.settings.output module (shownFrom base path) found progress.service
    let progress := { progress with service := state }
    let target := page.outputPath output
    match progress.tree.write target (encode page.render.toList) with
    | .error problem => (some problem, progress)
    | .ok tree =>
      (none,
        { progress with
          tree
          report := progress.report.addPage target count
          claimed := progress.claimed ++ [(module, path)] })

def Plan.documentAll (plan : Plan) (service : Service σ) (base : List Component)
    (output : FilePath) : List FilePath → Progress σ → Option OsError × Progress σ
  | [], progress => (none, progress)
  | path :: rest, progress =>
    match plan.document service base output path progress with
    | (some problem, progress) => (some problem, progress)
    | (none, progress) => documentAll plan service base output rest progress

def runBase (tree : FileTree) (root : FilePath) : List Component :=
  if tree.isFile root then (FilePath.parent? root).getD [] else FilePath.components root

/-- Documents every module below a root. The tree and the service are left as the run made them,
also where it fails. -/
def Plan.run (plan : Plan) (service : Service σ) (root output : FilePath) (tree : FileTree)
    (state : σ) : Except Failure Report × FileTree × σ :=
  if !tree.exists? root then (.error (.pathNotFound root), tree, state)
  else
    match tree.discover plan.selection root with
    | .error failure => (.error failure, tree, state)
    | .ok files =>
      match tree.createDirectories output with
      | .error problem => (.error (.os problem), tree, state)
      | .ok made =>
        match plan.documentAll service (runBase made root) output files
            { tree := made, service := state } with
        | (some problem, progress) => (.error (.os problem), progress.tree, progress.service)
        | (none, progress) => (.ok progress.report, progress.tree, progress.service)

end PythonDocs
