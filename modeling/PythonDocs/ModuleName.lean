import PythonDocs.FilePath

namespace PythonDocs.ModuleName

def packageFile : String := "__init__"

def ofFile (path : FilePath) : String :=
  if FilePath.stem path = packageFile then
    ((FilePath.parent? path).bind FilePath.nameOf?).getD packageFile
  else FilePath.stem path

def ofComponents (components : List Component) : String :=
  let packages := match components.getLast? with
    | none | some .root => []
    | some _ => components.dropLast.map Component.text
  let stem := ((FilePath.nameOf? components).map fun name => (FilePath.splitName name).1).getD ""
  Text.join "." (if stem = packageFile ∧ packages ≠ [] then packages else packages ++ [stem])

def seenFrom (base : List Component) (path : FilePath) : String :=
  ofComponents (FilePath.seenFrom base path)

def below (root path : FilePath) : String := seenFrom (FilePath.components root) path

end PythonDocs.ModuleName
