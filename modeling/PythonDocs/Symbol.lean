import PythonDocs.Outline
import PythonDocs.Text.Lines

namespace PythonDocs

inductive SymbolKind
  | «class» | function | method
  deriving DecidableEq, Repr

def SymbolKind.name : SymbolKind → String
  | .class => "class"
  | .function => "function"
  | .method => "method"

def SymbolKind.all : List SymbolKind := [.class, .function, .method]

def SymbolKind.ofName? (name : String) : Option SymbolKind :=
  SymbolKind.all.find? (·.name = name)

structure Symbol where
  kind : SymbolKind
  name : String
  args : List String := []
  returns : Option String := none
  isAsync : Bool := false
  source : String
  methods : List Symbol := []
  deriving Repr

namespace Symbol

def ofClass (name source : String) : Symbol := { kind := .class, name, source }

def ofFunction (kind : SymbolKind) (header : FunctionHeader) : Symbol :=
  { kind
    name := header.name
    args := header.params
    returns := header.returns
    isAsync := header.isAsync
    source := header.source }

def isClass (symbol : Symbol) : Bool := symbol.kind = .class

def signature (symbol : Symbol) : String :=
  if symbol.isClass then "class " ++ symbol.name
  else
    (if symbol.isAsync then "async def " else "def ") ++ symbol.name ++ "("
      ++ Text.join ", " symbol.args ++ ")"
      ++ (symbol.returns.map (" -> " ++ ·)).getD ""

def withMethods (symbols : List Symbol) : List Symbol :=
  symbols.flatMap fun symbol => symbol :: symbol.methods

end Symbol

end PythonDocs
