import PythonDocs.Dependencies
import PythonDocs.Symbol

namespace PythonDocs

inductive NestedFunctions
  | flatten | omit
  deriving DecidableEq, Repr

structure ModuleSymbols where
  symbols : List Symbol
  dependencies : Dependencies

namespace ModuleSymbols

def empty : ModuleSymbols := ⟨[], .empty⟩

def names (found : ModuleSymbols) : List String := found.symbols.map (·.name)

def isEmpty (found : ModuleSymbols) : Bool := found.symbols.isEmpty

def addImports (found : ModuleSymbols) (paths : List String) : ModuleSymbols :=
  { found with
    dependencies := paths.foldl (fun known path => (known.addRoot path).2) found.dependencies }

def addSymbol (found : ModuleSymbols) (symbol : Symbol) : ModuleSymbols :=
  { found with symbols := found.symbols ++ [symbol] }

def addMethod? (found : ModuleSymbols) (index : Nat) (method : Symbol) : Option ModuleSymbols :=
  match found.symbols[index]?.filter Symbol.isClass with
  | some owner =>
    let owner := { owner with methods := owner.methods ++ [method] }
    some { found with symbols := found.symbols.set index owner }
  | none => none

end ModuleSymbols

inductive MalformedOutline
  | unnamedClass | unnamedFunction
  | strayMethod (name : String)
  deriving DecidableEq, Repr

def MalformedOutline.message : MalformedOutline → String
  | .unnamedClass => "class definition without a name"
  | .unnamedFunction => "function definition without a name"
  | .strayMethod name => "method " ++ name ++ " has no enclosing class record"

structure Scope where
  owner : Option Nat := none
  inFunction : Bool := false
  deriving DecidableEq, Repr

def ModuleSymbols.addFunction (found : ModuleSymbols) (scope : Scope) (header : FunctionHeader) :
    Except MalformedOutline ModuleSymbols :=
  match scope.owner with
  | none => .ok (found.addSymbol (.ofFunction .function header))
  | some index =>
    match found.addMethod? index (.ofFunction .method header) with
    | some found => .ok found
    | none => .error (.strayMethod header.name)

mutual

def visit (nested : NestedFunctions) (scope : Scope) (found : ModuleSymbols) :
    Statement → Except MalformedOutline ModuleSymbols
  | .imports names => .ok (found.addImports names)
  | .importFrom module => .ok (found.addImports module.toList)
  | .classDef name source body =>
    if name = "" then .error .unnamedClass
    else
      visitAll nested { owner := some found.symbols.length }
        (found.addSymbol (.ofClass name source)) body
  | .functionDef header body =>
    if header.name = "" then .error .unnamedFunction
    else
      let skipped := scope.inFunction && nested = .omit
      match if skipped then .ok found else found.addFunction scope header with
      | .ok found => visitAll nested { scope with inFunction := true } found body
      | .error problem => .error problem
  | .group body => visitAll nested scope found body

def visitAll (nested : NestedFunctions) (scope : Scope) (found : ModuleSymbols) :
    List Statement → Except MalformedOutline ModuleSymbols
  | [] => .ok found
  | statement :: rest =>
    match visit nested scope found statement with
    | .ok found => visitAll nested scope found rest
    | .error problem => .error problem

end

def Outline.symbols (nested : NestedFunctions) (outline : Outline) :
    Except MalformedOutline ModuleSymbols :=
  visitAll nested {} .empty outline

end PythonDocs
