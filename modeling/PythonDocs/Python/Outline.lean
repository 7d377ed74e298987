import PythonDocs.Outline
import PythonDocs.Python.Parse
import PythonDocs.Text.Blank
import PythonDocs.Text.Lines

namespace PythonDocs

open Python Text

namespace Python

/-- The source of a definition without the white space behind it. Each later line loses the
indentation that it has in common with the column where the definition starts. -/
def definitionText (source : List Char) (start stop : Nat) : List Char :=
  let text := trimEnd (slice source start stop)
  match columnAt source start with
  | 0 => text
  | column => dedent column text

def nodeText (source : List Char) (tree : Tree) : String :=
  .ofList (slice source tree.start tree.stop)

def identifierText? : Tree → Option String
  | .leaf .identifier _ text => some (.ofList text)
  | _ => none

/-- The name at the start of a parameter; a comment behind the star hides it. -/
def boundName? : Tree → Option String
  | .leaf terminal _ text => if terminal.isName then some (.ofList text) else none
  | .node .primary _ _ [.leaf terminal _ text] =>
    if terminal.isName then some (.ofList text) else none
  | .node .starred _ _ (_ :: .node .primary _ _ [.leaf terminal _ text] :: _) =>
    if terminal.isName then some (.ofList text) else none
  | _ => none

def parameterName? : Tree → Option String
  | .node .typed _ _ (first :: _) | .node .defaulted _ _ (first :: _) => boundName? first
  | tree => boundName? tree

def parameterNames (children : List Tree) : List String :=
  match children.find? (Tree.isNode .parameters) with
  | some list => list.children.filterMap parameterName?
  | none => []

def importedModule (source : List Char) (children : List Tree) : Option String :=
  match children.find? fun child => child.isNode .dottedName || child.isNode .relative with
  | some (.node .relative _ _ inner) =>
    (inner.find? (Tree.isNode .dottedName)).map (nodeText source)
  | some tree => some (nodeText source tree)
  | none => none

def definedName (children : List Tree) : String := (children.findSome? identifierText?).getD ""

mutual

/-- The statements that a tree contributes. -/
def statementsOf (source : List Char) : Tree → List Statement
  | .leaf .. => []
  | .node kind start stop children =>
    match kind with
    | .importNames =>
      [.imports ((children.filter (Tree.isNode .dottedName)).map (nodeText source))]
    | .importFrom => [.importFrom (importedModule source children)]
    | .importFuture => [.importFrom (some "__future__")]
    | .classDef =>
      [.classDef (definedName children) (.ofList (definitionText source start stop))
        (bodyOf source children)]
    | .functionDef =>
      [.functionDef
        { name := definedName children
          params := parameterNames children
          returns := (children.find? (Tree.isNode .resultType)).map (nodeText source)
          isAsync := children.any (Tree.isToken (.keyword .async))
          source := .ofList (definitionText source start stop) }
        (bodyOf source children)]
    | .decorated =>
      (statementsOfAll source children).map fun
        | .classDef name _ body =>
          .classDef name (.ofList (definitionText source start stop)) body
        | .functionDef header body =>
          .functionDef
            { header with source := .ofList (definitionText source start stop) } body
        | other => other
    | _ =>
      match statementsOfAll source children with
      | [] => []
      | body => [.group body]

def statementsOfAll (source : List Char) : List Tree → List Statement
  | [] => []
  | tree :: rest => statementsOf source tree ++ statementsOfAll source rest

def bodyOf (source : List Char) : List Tree → List Statement
  | [] => []
  | .node .block _ _ children :: _ => statementsOfAll source children
  | _ :: rest => bodyOf source rest

end

end Python

def Position.ofOffset (source : List Char) (offset : Nat) : Position :=
  ⟨lineAt source offset + 1, columnAt source offset + 1⟩

def Outline.read (source : String) : Except Position Outline :=
  let text := source.toList
  match parse text with
  | .ok trees => .ok (statementsOfAll text trees)
  | .error offset => .error (.ofOffset text offset)

end PythonDocs
