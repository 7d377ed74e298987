import PythonDocs.Program

namespace PythonDocs.Main

def isInput (line : List String) (name : String) : Bool :=
  [".py", ".env", ".toml"].any (fun ending => name.endsWith ending)
    || line.any fun text => FilePath.fileName? text = some name

def placeOf (path : String) : Place :=
  (FilePath.components path).filterMap fun
    | .name name => some name
    | _ => none

partial def nodesBelow (line : List String) (path : String) : IO (List (Place × Node)) := do
  let at? (node : Node) : List (Place × Node) := [(placeOf path, node)]
  let below ← (do return some (← (← IO.FS.realPath path).readDir)) <|> pure none
  let real ← (do return (← IO.FS.realPath path).toString) <|> pure path
  if real ≠ path then return at? (.link real)
  match below with
  | none =>
    if !isInput line ((FilePath.fileName? path).getD "") then return at? (.file [])
    let content? ← (do return some (← IO.FS.readBinFile path).toList) <|> pure none
    return (content?.map fun content => at? (.file content)).getD []
  | some entries =>
    let inside ← entries.toList.mapM fun entry => nodesBelow line entry.path.toString
    return at? .directory ++ inside.flatten

def around (place : Place) : List (Place × Node) :=
  (List.range place.length).map fun count => (place.take count, .directory)

def assignmentsAround (here : Place) : IO (List (Place × Node)) := do
  let files := here.outward.tail.map (· ++ [assignmentsName])
  let found ← files.mapM fun file => do
    let path := "/" ++ Text.join "/" file
    let content? ← (do return some (← IO.FS.readBinFile path).toList) <|> pure none
    return content?.map fun content => (file, .file content)
  return found.filterMap id

def readTree (line : List String) : IO FileTree := do
  let here := (← IO.currentDir).toString
  let named ← line.mapM fun text => do
    (do return some (← IO.FS.realPath text).toString) <|> pure none
  let wanted := (here :: named.filterMap id).eraseDups
  let roots := wanted.filter fun path =>
    wanted.all fun other => other = path || !(placeOf other).isPrefixOf (placeOf path)
  let nodes := (← roots.mapM (nodesBelow line)).flatten
  let assignments := (← assignmentsAround (placeOf here)).filter fun entry =>
    (nodes.lookup entry.1).isNone
  let outer := (roots.flatMap (around <| placeOf ·)).eraseDups
  return { nodes := outer ++ nodes ++ assignments, here := placeOf here }

def writeTree (before after : FileTree) : IO Unit := do
  for (place, node) in after.nodes.reverse do
    if before.node? place ≠ some node then
      let path := "/" ++ Text.join "/" place
      match node with
      | .directory => IO.FS.createDirAll path
      | .file content => IO.FS.writeBinFile path ⟨content.toArray⟩
      | .link _ => pure ()

def readEnvironment : IO Environment := do
  let names := Provider.all.filterMap Provider.keyVariable?
  let values ← names.mapM fun name => do return (← IO.getEnv name).map (name, ·)
  return values.filterMap id

end PythonDocs.Main

open PythonDocs in
def main (line : List String) : IO UInt32 := do
  let before ← Main.readTree line
  let ending := runProgram line (← Main.readEnvironment) Network.closed before ()
  Main.writeTree before ending.tree
  IO.print ending.output
  IO.eprint ending.errors
  return UInt32.ofNat ending.code
