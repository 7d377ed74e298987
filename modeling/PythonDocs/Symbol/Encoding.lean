import PythonDocs.Extraction
import PythonDocs.Json.Printer
import PythonDocs.Json.Reader
import PythonDocs.Mismatch

namespace PythonDocs

namespace Symbol

mutual

def toJson (symbol : Symbol) : Json :=
  match symbol with
  | ⟨kind, name, args, returns, isAsync, source, methods⟩ =>
    .object (
      [("kind", .string kind.name), ("name", .string name), ("args", .ofTexts args),
        ("return_annotation", .ofText? returns)]
      ++ (if isAsync then [("is_async", .bool true)] else [])
      ++ [("source_text", .string source), ("methods", .array (toJsons methods))])

def toJsons : List Symbol → List Json
  | [] => []
  | symbol :: rest => toJson symbol :: toJsons rest

end

def invalid {α : Type} (value : Json) (expected : String) : Except Mismatch α :=
  .error (.invalidType value.describe expected)

def readText : Json → Except Mismatch String
  | .string text => .ok text
  | value => invalid value "a string"

def readFlag : Json → Except Mismatch Bool
  | .bool flag => .ok flag
  | value => invalid value "a boolean"

def readReturns : Json → Except Mismatch (Option String)
  | .null => .ok none
  | value => (readText value).map some

def readTexts : Json → Except Mismatch (List String)
  | .array items => items.mapM readText
  | value => invalid value "a sequence"

def readKindName (name : String) : Except Mismatch SymbolKind :=
  match SymbolKind.ofName? name with
  | some kind => .ok kind
  | none => .error (.unknownVariant name (SymbolKind.all.map SymbolKind.name))

/-- A kind is its name, or an object with its name as only entry and nothing in it. -/
def readKind : Json → Except Mismatch SymbolKind
  | .string name => readKindName name
  | .object [(name, value)] => do
    let kind ← readKindName name
    match value with
    | .null => .ok kind
    | value => invalid value "unit"
  | .object _ => .error (.invalidValue "map" "map with a single key")
  | value => invalid value "string or map"

structure Fields where
  kind : Option SymbolKind := none
  name : Option String := none
  args : Option (List String) := none
  returns : Option (Option String) := none
  isAsync : Option Bool := none
  source : Option String := none
  methods : Option (List Symbol) := none

def required {α : Type} (name : String) : Option α → Except Mismatch α
  | some value => .ok value
  | none => .error (.missingField name)

def unread {α : Type} (name : String) : Option α → Except Mismatch Unit
  | some _ => .error (.duplicateField name)
  | none => .ok ()

def Fields.symbol (fields : Fields) : Except Mismatch Symbol := do
  let kind ← required "kind" fields.kind
  let name ← required "name" fields.name
  let args ← required "args" fields.args
  let source ← required "source_text" fields.source
  let methods ← required "methods" fields.methods
  return {
    kind, name, args, source, methods
    returns := fields.returns.getD none
    isAsync := fields.isAsync.getD false }

def tooShort (length : Nat) : Mismatch :=
  .invalidLength length "struct SymbolRecord with 7 elements"

mutual

def ofJson : Json → Except Mismatch Symbol
  | .object entries => do
    let fields ← ofEntries {} entries
    fields.symbol
  | .array items => ofItems 0 {} items
  | value => invalid value "struct SymbolRecord"

/-- Reads the entries in their order, so that the first bad one is reported. -/
def ofEntries (fields : Fields) : List (String × Json) → Except Mismatch Fields
  | [] => .ok fields
  | (name, value) :: rest =>
    match name with
    | "kind" => do
      unread name fields.kind
      let kind ← readKind value
      ofEntries { fields with kind := some kind } rest
    | "name" => do
      unread name fields.name
      let text ← readText value
      ofEntries { fields with name := some text } rest
    | "args" => do
      unread name fields.args
      let args ← readTexts value
      ofEntries { fields with args := some args } rest
    | "return_annotation" => do
      unread name fields.returns
      let returns ← readReturns value
      ofEntries { fields with returns := some returns } rest
    | "is_async" => do
      unread name fields.isAsync
      let isAsync ← readFlag value
      ofEntries { fields with isAsync := some isAsync } rest
    | "source_text" => do
      unread name fields.source
      let source ← readText value
      ofEntries { fields with source := some source } rest
    | "methods" => do
      unread name fields.methods
      let methods ← readSymbols value
      ofEntries { fields with methods := some methods } rest
    | _ => ofEntries fields rest

def ofItems (index : Nat) (fields : Fields) : List Json → Except Mismatch Symbol
  | [] =>
    match index with
    | 4 => .error (tooShort 5)
    | 7 => fields.symbol
    | index => .error (tooShort index)
  | value :: rest =>
    match index with
    | 0 => do
      let kind ← readKind value
      ofItems 1 { fields with kind := some kind } rest
    | 1 => do
      let name ← readText value
      ofItems 2 { fields with name := some name } rest
    | 2 => do
      let args ← readTexts value
      ofItems 3 { fields with args := some args } rest
    | 3 => do
      let returns ← readReturns value
      ofItems 4 { fields with returns := some returns } rest
    | 4 => do
      let isAsync ← readFlag value
      ofItems 5 { fields with isAsync := some isAsync } rest
    | 5 => do
      let source ← readText value
      ofItems 6 { fields with source := some source } rest
    | 6 => do
      let methods ← readSymbols value
      ofItems 7 { fields with methods := some methods } rest
    | _ => .error (.invalidLength (index + 1 + rest.length) "fewer elements in array")

def readSymbols : Json → Except Mismatch (List Symbol)
  | .array items => ofJsons items
  | value => invalid value "a sequence"

def ofJsons : List Json → Except Mismatch (List Symbol)
  | [] => .ok []
  | value :: rest => do
    let symbol ← ofJson value
    let symbols ← ofJsons rest
    return symbol :: symbols

end

mutual

def depth (symbol : Symbol) : Nat :=
  match symbol with
  | ⟨_, _, _, _, _, _, methods⟩ => 2 + depthAll methods

def depthAll : List Symbol → Nat
  | [] => 0
  | symbol :: rest => max (depth symbol) (depthAll rest)

end

/-- A text in which lists and objects stand deeper in one another is not read. -/
def maxDepth : Nat := 127

def ofText? (text : String) : Option Symbol := do
  let symbol ← (ofJson (← Json.read? text)).toOption
  if symbol.depth ≤ maxDepth then some symbol else none

end Symbol

namespace Dependencies

def toJson (dependencies : Dependencies) : Json := .ofTexts dependencies.names

def ofJson : Json → Except Mismatch Dependencies
  | .array items => (items.mapM Symbol.readText).map ofList
  | value => Symbol.invalid value "a set"

end Dependencies

namespace ModuleSymbols

open PythonDocs.Symbol (invalid maxDepth readSymbols required unread)

def toJson (found : ModuleSymbols) : Json :=
  .object [("symbols", .array (Symbol.toJsons found.symbols)),
    ("dependencies", found.dependencies.toJson)]

def ofEntries (symbols : Option (List Symbol)) (dependencies : Option Dependencies) :
    List (String × Json) → Except Mismatch ModuleSymbols
  | [] => do
    let symbols ← required "symbols" symbols
    let dependencies ← required "dependencies" dependencies
    return { symbols, dependencies }
  | (name, value) :: rest =>
    match name with
    | "symbols" => do
      unread name symbols
      let symbols ← readSymbols value
      ofEntries (some symbols) dependencies rest
    | "dependencies" => do
      unread name dependencies
      let dependencies ← Dependencies.ofJson value
      ofEntries symbols (some dependencies) rest
    | _ => ofEntries symbols dependencies rest

def tooShort (length : Nat) : Mismatch :=
  .invalidLength length "struct ModuleSymbols with 2 elements"

def ofItems : List Json → Except Mismatch ModuleSymbols
  | [] => .error (tooShort 0)
  | first :: rest => do
    let symbols ← readSymbols first
    match rest with
    | [] => .error (tooShort 1)
    | second :: rest =>
      let dependencies ← Dependencies.ofJson second
      match rest with
      | [] => return { symbols, dependencies }
      | rest => .error (.invalidLength (2 + rest.length) "fewer elements in array")

def ofJson : Json → Except Mismatch ModuleSymbols
  | .object entries => ofEntries none none entries
  | .array items => ofItems items
  | value => invalid value "struct ModuleSymbols"

def ofText? (text : String) : Option ModuleSymbols := do
  let found ← (ofJson (← Json.read? text)).toOption
  if 2 + Symbol.depthAll found.symbols ≤ maxDepth then some found else none

end ModuleSymbols

end PythonDocs
