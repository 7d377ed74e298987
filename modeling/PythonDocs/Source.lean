import PythonDocs.Failure
import PythonDocs.FileTree
import PythonDocs.Python.Outline

namespace PythonDocs

def Outline.ofSource (path : FilePath) (source : String) : Except Failure Outline :=
  (Outline.read source).mapError (.syntaxError path)

namespace FileTree

def outline (tree : FileTree) (path : FilePath) : Except Failure Outline := do
  let source ← (tree.readText path).mapError (.file path)
  Outline.ofSource path source

def symbols (tree : FileTree) (nested : NestedFunctions) (path : FilePath) :
    Except Failure ModuleSymbols := do
  let outline ← tree.outline path
  (outline.symbols nested).mapError .malformed

def settings (tree : FileTree) (path : FilePath) : Except Failure Settings := do
  let source ← (tree.readText path).mapError .os
  (Settings.read source).mapError .settings

def settingsOrDefault (tree : FileTree) (path : FilePath) : Except Failure Settings :=
  if tree.exists? path then tree.settings path else .ok {}

end FileTree

end PythonDocs
