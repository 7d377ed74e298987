import PythonDocs.Environment.Basic
import PythonDocs.FileTree

namespace PythonDocs

def assignmentsName : String := ".env"

def Place.outward (place : Place) : List Place :=
  (List.range (place.length + 1)).reverse.map place.take

namespace FileTree

/-- The first file with a name in some directories. Where something stands in the way of telling
whether there is one, the search is over. -/
def firstFile? (tree : FileTree) (name : String) : List Place → Option Text.Bytes
  | [] => none
  | place :: rest =>
    match tree.follow false 40 place [.name name] with
    | .ok found =>
      match tree.node? found with
      | some (.file content) => some content
      | _ => firstFile? tree name rest
    | .error .notFound => firstFile? tree name rest
    | .error _ => none

def assignmentsFile? (tree : FileTree) : Option Text.Bytes :=
  tree.firstFile? assignmentsName tree.here.outward

end FileTree

def Environment.loadFrom (environment : Environment) (tree : FileTree) : Option Environment :=
  match tree.assignmentsFile? with
  | some bytes => environment.load bytes
  | none => some environment

end PythonDocs
