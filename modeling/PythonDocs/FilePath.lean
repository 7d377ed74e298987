import PythonDocs.Text.Lines

namespace PythonDocs

inductive Component
  | root | here | up
  | name (text : String)
  deriving DecidableEq, Repr

namespace Component

def text : Component → String
  | root => "/"
  | here => "."
  | up => ".."
  | name text => text

def rank : Component → Nat
  | root => 0
  | here => 1
  | up => 2
  | name _ => 3

def isLess : Component → Component → Bool
  | name first, name second => first < second
  | first, second => first.rank < second.rank

end Component

def componentsLess : List Component → List Component → Bool
  | _, [] => false
  | [], _ :: _ => true
  | first :: rest, second :: others =>
    if first = second then componentsLess rest others else first.isLess second

abbrev FilePath := String

namespace FilePath

def isAbsolute (path : FilePath) : Bool := path.toList.head? = some '/'

def componentsOf : List (List Char) → List Component
  | [] => []
  | piece :: rest =>
    if piece = [] ∨ piece = ['.'] then componentsOf rest
    else if piece = ['.', '.'] then .up :: componentsOf rest
    else .name (.ofList piece) :: componentsOf rest

/-- The components of a path; a dot counts only at its start. -/
def components (path : FilePath) : List Component :=
  let pieces := Text.splitOn '/' path.toList
  let inner := componentsOf pieces
  if isAbsolute path then .root :: inner
  else if pieces.head? = some ['.'] then .here :: inner
  else inner

def ofComponents : List Component → FilePath
  | .root :: rest => "/" ++ Text.join "/" (rest.map Component.text)
  | components => Text.join "/" (components.map Component.text)

def parent? (path : FilePath) : Option (List Component) :=
  match (components path).getLast? with
  | none | some .root => none
  | some _ => some (components path).dropLast

def nameOf? (components : List Component) : Option String :=
  match components.getLast? with
  | some (.name text) => some text
  | _ => none

def fileName? (path : FilePath) : Option String := nameOf? (components path)

/-- A name before and after its last dot, unless that is its first character. -/
def splitName (name : String) : String × Option String :=
  let reversed := name.toList.reverse
  let after := (reversed.takeWhile (· ≠ '.')).reverse
  match reversed.dropWhile (· ≠ '.') with
  | [] | ['.'] => (name, none)
  | _ :: before => (.ofList before.reverse, some (.ofList after))

def stem (path : FilePath) : String :=
  ((fileName? path).map fun name => (splitName name).1).getD ""

def extension? (path : FilePath) : Option String :=
  (fileName? path).bind fun name => (splitName name).2

def dropCommon? : List Component → List Component → Option (List Component)
  | [], rest => some rest
  | first :: base, second :: rest => if first = second then dropCommon? base rest else none
  | _ :: _, [] => none

/-- The components of a path behind those of a base, or all of them where it is elsewhere. -/
def seenFrom (base : List Component) (path : FilePath) : List Component :=
  (dropCommon? base (components path)).getD (components path)

def relativeTo (base path : FilePath) : List Component := seenFrom (components base) path

def join (base path : FilePath) : FilePath :=
  if isAbsolute path ∨ base = "" then path
  else if base.toList.getLast? = some '/' then base ++ path
  else base ++ "/" ++ path

def isLess (first second : FilePath) : Bool :=
  componentsLess (components first) (components second)

end FilePath

end PythonDocs
