import PythonDocs.FilePath
import PythonDocs.Symbol

namespace PythonDocs

structure Entry where
  name : String
  signature : String
  docstring : Option String
  methods : List Entry := []
  deriving Repr

mutual

/-- The entry of a symbol, with docstrings from `write`: its own before those of its methods. -/
def Entry.build {σ : Type} (write : Symbol → σ → Option String × σ) (symbol : Symbol) (state : σ) :
    Entry × σ :=
  match symbol with
  | ⟨kind, name, args, returns, isAsync, source, methods⟩ =>
    let symbol : Symbol := ⟨kind, name, args, returns, isAsync, source, methods⟩
    let (docstring, state) := write symbol state
    let (methods, state) := buildAll write methods state
    ({ name, signature := symbol.signature, docstring, methods }, state)

def Entry.buildAll {σ : Type} (write : Symbol → σ → Option String × σ) :
    List Symbol → σ → List Entry × σ
  | [], state => ([], state)
  | symbol :: rest, state =>
    let (entry, state) := build write symbol state
    let (entries, state) := buildAll write rest state
    (entry :: entries, state)

end

structure Page where
  module : String
  path : String
  readme : String
  diagram : String
  entries : List Entry
  deriving Repr

namespace Page

def fileName (page : Page) : String := page.module ++ ".md"

def outputPath (page : Page) (directory : FilePath) : FilePath :=
  FilePath.join directory page.fileName

def fence : Option String → String
  | none | some "" => ""
  | some text => "\n\n```python\n" ++ text ++ "\n```"

def methodSection (owner : String) (method : Entry) : String :=
  "\n\n#### `" ++ owner ++ "." ++ method.name ++ "`\n\n`" ++ method.signature ++ "`"
    ++ fence method.docstring

def entrySection (entry : Entry) : String :=
  "\n\n### `" ++ entry.signature ++ "`" ++ fence entry.docstring
    ++ String.join (entry.methods.map (methodSection entry.name))

def diagramSection (diagram : String) : String :=
  if diagram = "" then "" else "\n" ++ diagram

def reference (entries : List Entry) : String :=
  if entries.isEmpty then ""
  else "\n\n## API Reference" ++ String.join (entries.map entrySection)

def footer (path : String) : String := "\n\n---\n*Source: `" ++ path ++ "`*\n"

def render (page : Page) : String :=
  page.readme ++ "\n" ++ diagramSection page.diagram ++ reference page.entries
    ++ footer page.path

end Page

end PythonDocs
