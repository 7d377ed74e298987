import PythonDocs.Dependencies
import PythonDocs.Text.Alphanumeric
import PythonDocs.Text.LowerCase

namespace PythonDocs.Diagram

def identifier (name : String) : String :=
  .ofList (name.toList.map fun c => if Text.isAlphanumeric c || c == '_' then c else '_')

def reserved : List String :=
  ["end", "graph", "flowchart", "subgraph", "direction", "style", "linkstyle", "classdef",
    "class", "click", "call", "href", "default"]

def node (name : String) : String :=
  let id := identifier name
  if reserved.contains (Text.lowerCase id) then "n_" ++ id ++ "[\"" ++ name ++ "\"]" else id

def edge (module dependency : String) : String :=
  "    " ++ node module ++ " --> " ++ node dependency ++ ";"

def edges (dependencies : Dependencies) (module : String) : List String :=
  (dependencies.names.filter fun name => identifier name ≠ identifier module).map (edge module)

def text (dependencies : Dependencies) (module : String) : String :=
  if dependencies.isEmpty then ""
  else
    "## Architecture Diagram\nThis diagram shows the top-level dependencies of the `" ++ module
      ++ "` module.\n\n```mermaid\n"
      ++ Text.join "\n" ("graph TD;" :: edges dependencies module) ++ "\n```\n"

end PythonDocs.Diagram
