import PythonDocs.FilePath
import PythonDocs.OsError
import PythonDocs.Text.Utf8

namespace PythonDocs

open Text (Bytes)

inductive Node
  | file (content : Bytes)
  | directory
  | link (target : FilePath)
  deriving DecidableEq, Repr

/-- The names on the way from the top to a node. -/
abbrev Place := List String

structure FileTree where
  nodes : List (Place × Node) := []
  here : Place := []
  deriving DecidableEq, Repr

namespace FilePath

/-- What the system follows to a file: a dot or a slash at the end asks for a directory. -/
def steps (path : FilePath) : List Component :=
  let inner := stepsOf (Text.splitOn '/' path.toList)
  let inner := if path.toList.getLast? = some '/' then inner ++ [.here] else inner
  if isAbsolute path then .root :: inner else inner
where
  stepsOf : List (List Char) → List Component
    | [] => []
    | piece :: rest =>
      if piece = [] then stepsOf rest
      else if piece = ['.'] then .here :: stepsOf rest
      else if piece = ['.', '.'] then .up :: stepsOf rest
      else .name (.ofList piece) :: stepsOf rest

end FilePath

namespace FileTree

def node? (tree : FileTree) (place : Place) : Option Node :=
  if place = [] then some .directory else tree.nodes.lookup place

def put (tree : FileTree) (place : Place) (node : Node) : FileTree :=
  { tree with nodes := (place, node) :: tree.nodes.filter fun entry => entry.1 ≠ place }

/-- Takes steps from a place, with `jump` for the steps behind a link. With `creating`, the last
name may be missing. -/
def take (tree : FileTree) (creating : Bool)
    (jump : Place → List Component → Except OsError Place) (place : Place) :
    List Component → Except OsError Place
  | [] => .ok place
  | step :: rest =>
    match tree.node? place with
    | some .directory =>
      match step with
      | .root => take tree creating jump [] rest
      | .here => take tree creating jump place rest
      | .up => take tree creating jump place.dropLast rest
      | .name name =>
        match tree.node? (place ++ [name]) with
        | none => if creating ∧ rest = [] then .ok (place ++ [name]) else .error .notFound
        | some (.link target) => jump place (FilePath.steps target ++ rest)
        | some _ => take tree creating jump (place ++ [name]) rest
    | _ => .error .notDirectory

def follow (tree : FileTree) (creating : Bool) :
    Nat → Place → List Component → Except OsError Place
  | 0 => tree.take creating fun _ _ => .error .tooManyLinks
  | links + 1 => tree.take creating (follow tree creating links)

def resolve (tree : FileTree) (path : FilePath) : Except OsError Place :=
  if path = "" then .error .notFound else tree.follow false 40 tree.here (FilePath.steps path)

def at? (tree : FileTree) (path : FilePath) : Option Node :=
  match tree.resolve path with
  | .ok place => tree.node? place
  | .error _ => none

def exists? (tree : FileTree) (path : FilePath) : Bool := (tree.at? path).isSome

def isFile (tree : FileTree) (path : FilePath) : Bool :=
  match tree.at? path with
  | some (.file _) => true
  | _ => false

def isDirectory (tree : FileTree) (path : FilePath) : Bool := tree.at? path = some .directory

def read (tree : FileTree) (path : FilePath) : Except OsError Bytes := do
  let place ← tree.resolve path
  match tree.node? place with
  | some (.file content) => .ok content
  | some .directory => .error .isDirectory
  | _ => .error .notFound

def readText (tree : FileTree) (path : FilePath) : Except OsError String := do
  let bytes ← tree.read path
  match Text.decode? bytes with
  | some text => .ok (.ofList text)
  | none => .error .notText

def write (tree : FileTree) (path : FilePath) (content : Bytes) : Except OsError FileTree := do
  let place ← tree.follow true 40 tree.here (FilePath.steps path)
  match tree.node? place with
  | some .directory => .error .isDirectory
  | _ => .ok (tree.put place (.file content))

def makeDirectory (tree : FileTree) (steps : List Component) : Except OsError FileTree :=
  match steps.getLast? with
  | some (.name name) => do
    let parent ← tree.follow false 40 tree.here steps.dropLast
    match tree.node? parent, tree.node? (parent ++ [name]) with
    | some .directory, none => .ok (tree.put (parent ++ [name]) .directory)
    | some .directory, some _ => .error .exists
    | _, _ => .error .notDirectory
  | _ => do
    let _ ← tree.follow false 40 tree.here steps
    .error .exists

def hasDirectory (tree : FileTree) (steps : List Component) : Bool :=
  match tree.follow false 40 tree.here steps with
  | .ok place => tree.node? place = some .directory
  | .error _ => false

/-- Makes a directory, or takes one that is there; where something on the way is missing,
`makeParents` has to provide it. -/
def ensureDirectory (tree : FileTree) (steps : List Component)
    (makeParents : Unit → Except OsError FileTree) : Except OsError FileTree :=
  match tree.makeDirectory steps with
  | .ok made => .ok made
  | .error .notFound => do
    let tree ← makeParents ()
    match tree.makeDirectory steps with
    | .ok made => .ok made
    | .error problem => if tree.hasDirectory steps then .ok tree else .error problem
  | .error problem => if tree.hasDirectory steps then .ok tree else .error problem

def ensureReversed (tree : FileTree) : List Component → Except OsError FileTree
  | [] => .ok tree
  | last :: before =>
    tree.ensureDirectory (last :: before).reverse fun _ => ensureReversed tree before

def dropSlashes (path : FilePath) : FilePath :=
  match (path.toList.reverse.dropWhile (· = '/')).reverse with
  | [] => path
  | text => .ofList text

def createDirectories (tree : FileTree) (path : FilePath) : Except OsError FileTree :=
  if path = "" then .ok tree
  else
    tree.ensureDirectory (FilePath.steps (dropSlashes path)) fun _ =>
      tree.ensureReversed (FilePath.components path).dropLast.reverse

def nameIn? (directory place : Place) : Option String :=
  if place.dropLast = directory then place.getLast? else none

def children (tree : FileTree) (place : Place) : List (String × Node) :=
  tree.nodes.filterMap fun (other, node) => (nameIn? place other).map (·, node)

/-- The regular files below a directory, as the names that lead to them. Links are followed, but
not to a directory that the walk is in. The fuel bounds the depth. -/
def filesBelow (tree : FileTree) : Nat → List Place → Place → List (List String)
  | 0, _, _ => []
  | fuel + 1, around, place =>
    let inside := place :: around
    (tree.children place).flatMap fun (name, node) =>
      (match node with
        | .file _ => [[]]
        | .directory => filesBelow tree fuel inside (place ++ [name])
        | .link target =>
          match tree.follow false 40 place (FilePath.steps target) with
          | .error _ => []
          | .ok other =>
            match tree.node? other with
            | some (.file _) => [[]]
            | some .directory =>
              if inside.contains other then [] else filesBelow tree fuel inside other
            | _ => []).map (name :: ·)

/-- Deep enough for every walk: each link leads to a directory that the walk is not in. -/
def walkDepth (tree : FileTree) : Nat := (tree.nodes.length + 1) * (tree.nodes.length + 1)

def filesIn (tree : FileTree) (place : Place) : List (List String) :=
  tree.filesBelow tree.walkDepth [] place

end FileTree

end PythonDocs
