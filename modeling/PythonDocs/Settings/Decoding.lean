import PythonDocs.Mismatch
import PythonDocs.Settings.Basic
import PythonDocs.Toml.Reader

namespace PythonDocs

structure ShapeError where
  mismatch : Mismatch
  span : Option Toml.Span
  deriving DecidableEq, Repr

inductive SettingsError
  | unreadable
  | shape (source : String) (error : ShapeError)
  | invalid (problem : InvalidSettings)
  deriving DecidableEq, Repr

def ShapeError.message (source : String) (error : ShapeError) : String :=
  match error.span with
  | some span => Toml.excerpt source.toList span error.mismatch.message
  | none => error.mismatch.message ++ "\n"

def SettingsError.message : SettingsError → String
  | unreadable => "Failed to parse config file"
  | shape source error => "Failed to parse config file: " ++ error.message source
  | invalid problem => "Config validation error: " ++ problem.message

namespace Settings

open Toml

def located {α : Type} (span : Option Span) (result : Except ShapeError α) :
    Except ShapeError α :=
  result.mapError fun error => { error with span := error.span.or span }

def mismatched {α : Type} (item : Item) (expected : String) : Except ShapeError α :=
  .error ⟨.invalidType item.describe expected, item.span?⟩

def readText (expected : String) : Item → Except ShapeError String
  | .scalar (.string text) _ => .ok text
  | item => mismatched item expected

def readFlag : Item → Except ShapeError Bool
  | .scalar (.bool flag) _ => .ok flag
  | item => mismatched item "a boolean"

def readNumber : Item → Except ShapeError Nat
  | .scalar (.integer value) span =>
    if value < 0 then
      .error ⟨.invalidValue (Item.scalar (.integer value) span).describe "u64", span⟩
    else .ok value.toNat
  | item => mismatched item "u64"

def readTexts : Item → Except ShapeError (List String)
  | .array items span _ => located span (items.mapM (readText "a string"))
  | item => mismatched item "a sequence"

/-- An alternative is its name, or a table with its name as only key and nothing under it. -/
def readChoice {α : Type} (name : α → String) (choices : List α) (item : Item) :
    Except ShapeError α :=
  let find (text : String) (span : Option Span) : Except ShapeError α :=
    match choices.find? fun choice => name choice = text with
    | some choice => .ok choice
    | none => .error ⟨.unknownVariant text (choices.map name), span⟩
  match item with
  | .scalar (.string text) span => find text (some span)
  | .table [(key, value)] span _ =>
    located span do
      let choice ← find key.name (some key.span)
      match value with
      | .array [] _ _ | .table [] _ _ => .ok choice
      | .array _ span _ => .error ⟨.filled "array", span⟩
      | .table _ span _ => .error ⟨.filled "table", span⟩
      | value => .error ⟨.notTable value.kindName, value.span?⟩
  | .table entries span _ => .error ⟨.notOneEntry entries.isEmpty, span⟩
  | item => .error ⟨.wantedTable, item.span?⟩

/-- How one entry of a table sets a field, and the fields in their order. -/
abbrev FieldReader (α : Type) := List (String × (α → Item → Except ShapeError α))

def readEntries {α : Type} (fields : FieldReader α) : α → Entries → Except ShapeError α
  | settings, [] => .ok settings
  | settings, (key, item) :: rest =>
    match fields.lookup key.name with
    | none => readEntries fields settings rest
    | some read => do
      let settings ← located (item.span?.or key.span) (read settings item)
      readEntries fields settings rest

def readItems {α : Type} : FieldReader α → α → List Item → Except ShapeError α
  | (_, read) :: fields, settings, item :: rest => do
    let settings ← read settings item
    readItems fields settings rest
  | _, settings, _ => .ok settings

def readTable {α : Type} (name : String) (fields : FieldReader α) (settings : α) (item : Item) :
    Except ShapeError α :=
  match item with
  | .table entries span _ => located span (readEntries fields settings entries)
  | .array items span _ => located span (readItems fields settings items)
  | .scalar .datetime _ => .ok settings
  | item => mismatched item ("struct " ++ name)

def analysisFields : FieldReader AnalysisSettings :=
  [("exclude", fun settings item => do return { settings with excluded := ← readTexts item }),
   ("include", fun settings item => do return { settings with included := ← readTexts item }),
   ("nested_functions", fun settings item => do
     return { settings with nested := ← readChoice NestedFunctions.name NestedFunctions.all item })]

def outputFields : FieldReader OutputSettings :=
  [("directory", fun settings item => do
     return { settings with directory := ← readText "path string" item }),
   ("docstrings", fun settings item => do return { settings with docstrings := ← readFlag item }),
   ("diagrams", fun settings item => do return { settings with diagrams := ← readFlag item })]

def serviceFields : FieldReader ServiceSettings :=
  [("provider", fun settings item => do
     return { settings with provider := ← readChoice Provider.name Provider.all item }),
   ("model", fun settings item => do return { settings with model := ← readText "a string" item }),
   ("api_url", fun settings item => do
     return { settings with apiUrl := some (← readText "a string" item) }),
   ("api_key", fun settings item => do
     return { settings with apiKey := some (← readText "a string" item) }),
   ("timeout_secs", fun settings item => do
     return { settings with timeout := some (← readNumber item) })]

def projectFields : FieldReader String :=
  [("name", fun _ item => readText "a string" item)]

def fields : FieldReader Settings :=
  let fresh : Settings := {}
  [("project", fun settings item => do
     let projectName ← readTable "ProjectConfig" projectFields fresh.projectName item
     return { settings with projectName }),
   ("analysis", fun settings item => do
     return { settings with analysis := ← readTable "AnalysisConfig" analysisFields {} item }),
   ("output", fun settings item => do
     return { settings with output := ← readTable "OutputConfig" outputFields {} item }),
   ("llm", fun settings item => do
     return { settings with service := ← readTable "LlmConfig" serviceFields {} item })]

def read (source : String) : Except SettingsError Settings :=
  match Toml.read? source.toList with
  | none => .error .unreadable
  | some entries =>
    match readEntries fields {} entries with
    | .error error => .error (.shape source error)
    | .ok settings =>
      match settings.validate with
      | .ok () => .ok settings
      | .error problem => .error (.invalid problem)

end Settings

end PythonDocs
