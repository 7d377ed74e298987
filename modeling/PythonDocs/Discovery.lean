import PythonDocs.Failure
import PythonDocs.FileTree

namespace PythonDocs

structure Selection where
  included : List Glob
  excluded : List Glob
  deriving DecidableEq, Repr

namespace Selection

def ofSettings (settings : AnalysisSettings) : Except Glob.Problem Selection := do
  let included ← settings.included.mapM Glob.ofText
  let excluded ← settings.excluded.mapM Glob.ofText
  return { included, excluded }

/-- Excluded files are left out also where they are included. -/
def wants (selection : Selection) (path : String) : Bool :=
  selection.included.any (·.isMatch path) && !selection.excluded.any (·.isMatch path)

end Selection

def namesLess : List String → List String → Bool
  | _, [] => false
  | [], _ :: _ => true
  | first :: rest, second :: others =>
    if first = second then namesLess rest others else first < second

def insertNames (names : List String) : List (List String) → List (List String)
  | [] => [names]
  | other :: rest =>
    if namesLess other names then other :: insertNames names rest else names :: other :: rest

def sortNames (files : List (List String)) : List (List String) :=
  files.foldr insertNames []

def isSourceName (names : List String) : Bool :=
  match names.getLast? with
  | some name => (FilePath.splitName name).2 = some "py"
  | none => false

namespace FileTree

def sourcesBelow (tree : FileTree) (selection : Selection) (place : Place) :
    List (List String) :=
  sortNames ((tree.filesIn place).filter fun names =>
    isSourceName names && selection.wants (Text.join "/" names))

def discover (tree : FileTree) (selection : Selection) (root : FilePath) :
    Except Failure (List FilePath) := do
  if tree.isFile root then return [root]
  let place ← (tree.resolve root).mapError (.walk root)
  return (tree.sourcesBelow selection place).map fun names =>
    FilePath.join root (Text.join "/" names)

end FileTree

end PythonDocs
