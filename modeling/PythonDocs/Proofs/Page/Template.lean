import PythonDocs.Page
import PythonDocs.Template

namespace PythonDocs

open Template (Block Context Part Piece Value nest? renderAll? render_text render_value)

namespace Page

/-- The template for the document of a module. -/
def template : List Piece :=
  [.value ["readme"], .text "\n",
    .opens false (.when ["diagram"]), .text "\n", .value ["diagram"], .text "\n",
    .closes true false, .text "\n",
    .opens true (.when ["symbols"]), .text "\n\n## API Reference\n",
    .opens true (.each "symbol" ["symbols"]),
    .text "\n\n### `", .value ["symbol", "signature"], .text "`\n",
    .opens true (.when ["symbol", "docstring"]),
    .text "\n\n```python\n", .value ["symbol", "docstring"], .text "\n```\n",
    .closes true false, .text "\n",
    .opens true (.each "method" ["symbol", "methods"]),
    .text "\n\n#### `", .value ["symbol", "name"], .text ".", .value ["method", "name"],
    .text "`\n\n`", .value ["method", "signature"], .text "`\n",
    .opens true (.when ["method", "docstring"]),
    .text "\n\n```python\n", .value ["method", "docstring"], .text "\n```\n",
    .closes true false, .text "\n",
    .closes true true, .text "\n",
    .closes true true, .text "\n",
    .closes true false, .text "\n\n---\n*Source: `", .value ["path"], .text "`*\n"]

def templateName : String := "module.md"

def fencePart (path : List String) : Part :=
  .block (.when path) [.text "\n\n```python\n", .value path, .text "\n```"]

def methodParts : List Part :=
  [.text "\n\n#### `", .value ["symbol", "name"], .text ".", .value ["method", "name"],
    .text "`\n\n`", .value ["method", "signature"], .text "`", fencePart ["method", "docstring"],
    .text ""]

def entryParts : List Part :=
  [.text "\n\n### `", .value ["symbol", "signature"], .text "`", fencePart ["symbol", "docstring"],
    .text "", .block (.each "method" ["symbol", "methods"]) methodParts, .text ""]

def diagramPart : Part :=
  .block (.when ["diagram"]) [.text "\n", .value ["diagram"], .text ""]

def referencePart : Part :=
  .block (.when ["symbols"])
    [.text "\n\n## API Reference", .block (.each "symbol" ["symbols"]) entryParts, .text ""]

def parts : List Part :=
  [.value ["readme"], .text "\n", diagramPart, .text "", referencePart,
    .text "\n\n---\n*Source: `", .value ["path"], .text "`*\n"]

theorem nest_template : nest? [] [] (Template.trimmed template) = some parts := rfl

end Page

mutual

def Entry.value : Entry → Value
  | ⟨name, signature, docstring, methods⟩ =>
    .record [("name", .text name), ("signature", .text signature),
      ("docstring", .optional docstring), ("methods", .list (values methods))]

def Entry.values : List Entry → List Value
  | [] => []
  | entry :: rest => entry.value :: values rest

end

namespace Entry

variable (entry : Entry)

theorem value_name : entry.value.get? ["name"] = some (.text entry.name) := by
  cases entry
  rfl

theorem value_signature : entry.value.get? ["signature"] = some (.text entry.signature) := by
  cases entry
  rfl

theorem value_docstring : entry.value.get? ["docstring"] = some (.optional entry.docstring) := by
  cases entry
  rfl

theorem value_methods : entry.value.get? ["methods"] = some (.list (values entry.methods)) := by
  cases entry
  rfl

end Entry

namespace Page

def context (page : Page) : Context :=
  [("module_name", .text page.module), ("path", .text page.path), ("readme", .text page.readme),
    ("diagram", .text page.diagram), ("symbols", .list (Entry.values page.entries))]

section

variable {context : Context} {path : List String}

theorem render_fencePart {docstring : Option String}
    (given : context.get? path = some (.optional docstring)) :
    (fencePart path).render? id context = some (fence docstring) := by
  cases docstring with
  | none => simp [fencePart, Part.render?, given, Value.optional, Value.isTrue, fence]
  | some text =>
    by_cases empty : text = ""
    · subst empty
      simp [fencePart, Part.render?, given, Value.optional, Value.isTrue, fence]
    · simp [fencePart, Part.render?, renderAll?, given, Value.optional, Value.isTrue, fence, empty,
        String.append_assoc]

theorem render_each {name : String} {body : List Part} {entries : List Entry}
    {sectionOf : Entry → String} (given : context.get? path = some (.list (Entry.values entries)))
    (sections : ∀ entry : Entry,
      renderAll? id ((name, entry.value) :: context) body = some (sectionOf entry)) :
    (Part.block (.each name path) body).render? id context =
      some (.join (entries.map sectionOf)) := by
  have bodies : (Entry.values entries).mapM
      (fun item => renderAll? id ((name, item) :: context) body) =
        some (entries.map sectionOf) := by
    clear given
    induction entries with
    | nil => rfl
    | cons entry rest ih => simp [Entry.values, sections, ih]
  simp [Part.render?, given, bodies]

theorem methodSection_text (owner : String) (method : Entry) :
    methodSection owner method = "\n\n#### `" ++ owner ++ "." ++ method.name ++ "`\n\n`" ++
      method.signature ++ "`" ++ fence method.docstring := rfl

theorem entrySection_text (entry : Entry) :
    entrySection entry = "\n\n### `" ++ entry.signature ++ "`" ++ fence entry.docstring ++
      String.join (entry.methods.map (methodSection entry.name)) := rfl

theorem render_methodParts (entry method : Entry) :
    renderAll? id (("method", method.value) :: ("symbol", entry.value) :: context) methodParts =
      some (methodSection entry.name method) := by
  have own (path : List String) : Context.get? (("method", method.value) ::
      ("symbol", entry.value) :: context) ("method" :: path) = method.value.get? path :=
    Context.get?_self ..
  have owner (path : List String) : Context.get? (("method", method.value) ::
      ("symbol", entry.value) :: context) ("symbol" :: path) = entry.value.get? path :=
    (Context.get?_other (by decide) ..).trans (Context.get?_self ..)
  have fenced := render_fencePart ((own _).trans method.value_docstring)
  have ownerName := @render_value id _ _ _ ((owner _).trans entry.value_name)
  have name := @render_value id _ _ _ ((own _).trans method.value_name)
  have signature := @render_value id _ _ _ ((own _).trans method.value_signature)
  simp only [methodParts, renderAll?, render_text, ownerName, name, signature, fenced,
    Option.bind_eq_bind, Option.bind_some, Option.pure_def, id_eq, methodSection_text,
    String.append_assoc, String.append_empty]

theorem render_entryParts (entry : Entry) :
    renderAll? id (("symbol", entry.value) :: context) entryParts = some (entrySection entry) := by
  have own (path : List String) : Context.get? (("symbol", entry.value) :: context)
      ("symbol" :: path) = entry.value.get? path := Context.get?_self ..
  have fenced := render_fencePart ((own _).trans entry.value_docstring)
  have methods := render_each ((own _).trans entry.value_methods)
    fun method => render_methodParts entry method
  have signature := @render_value id _ _ _ ((own _).trans entry.value_signature)
  simp only [entryParts, renderAll?, render_text, signature, fenced, methods,
    Option.bind_eq_bind, Option.bind_some, Option.pure_def, id_eq, entrySection_text,
    String.append_assoc, String.append_empty, String.empty_append]

end

theorem render_diagram (page : Page) :
    diagramPart.render? id page.context = some (diagramSection page.diagram) := by
  have given : page.context.get? ["diagram"] = some (.text page.diagram) := rfl
  by_cases empty : page.diagram = "" <;>
    simp [diagramPart, Part.render?, renderAll?, given, Value.isTrue, diagramSection, empty]

theorem render_reference (page : Page) :
    referencePart.render? id page.context = some (reference page.entries) := by
  have given : page.context.get? ["symbols"] = some (.list (Entry.values page.entries)) := rfl
  have sections := render_each given fun entry => render_entryParts entry
  rw [referencePart, Part.render?, given]
  simp only [renderAll?, render_text, sections]
  cases page.entries with
  | nil => rfl
  | cons entry rest => simp [Entry.values, Value.isTrue, reference]

theorem render_template (page : Page) :
    Template.render? templateName template page.context = some page.render := by
  have readme : page.context.get? ["readme"] = some (.text page.readme) := rfl
  have path : page.context.get? ["path"] = some (.text page.path) := rfl
  have first := @render_value id _ _ _ readme
  have last := @render_value id _ _ _ path
  have ending : footer page.path = "\n\n---\n*Source: `" ++ page.path ++ "`*\n" := rfl
  have plain : Template.isHtml templateName = false := by decide
  rw [Template.render?, nest_template, plain]
  simp only [parts, Option.bind_eq_bind, Option.bind_some, Bool.false_eq_true, ↓reduceIte,
    renderAll?, render_text, first, last, render_diagram, render_reference, Option.pure_def,
    id_eq, render, ending, String.append_assoc, String.append_empty, String.empty_append]

example :
    Template.render? templateName template (context {
      module := "m"
      path := "m.py"
      readme := "\x7b\x7b path \x7d\x7d & <b>"
      diagram := ""
      entries := [⟨"f", "def f()", some "\x7b% endif %\x7d", []⟩] }) =
    some ("\x7b\x7b path \x7d\x7d & <b>\n" ++
      "\n\n## API Reference\n\n### `def f()`\n\n```python\n\x7b% endif %\x7d\n```" ++
      "\n\n---\n*Source: `m.py`*\n") := by
  decide

theorem reference_append {first : List Entry} (some : first ≠ []) (second : List Entry) :
    reference (first ++ second) = reference first ++ String.join (second.map entrySection) := by
  have whole : (first ++ second).isEmpty = false := by simp [some]
  have own : first.isEmpty = false := by simp [some]
  simp only [reference, whole, own, Bool.false_eq_true, ↓reduceIte, List.map_append,
    String.join_append, String.append_assoc]

/-- A page is put together from its texts, which stand in it as they are. The section of an entry
depends on nothing but the entry, so that further sections go between the others and the end. -/
structure IsComposed (page : Page) : Prop where
  rendered : Template.render? templateName template page.context = some page.render
  layout : page.render =
    page.readme ++ "\n" ++ (if page.diagram = "" then "" else "\n" ++ page.diagram) ++
      (if page.entries = [] then ""
        else "\n\n## API Reference" ++ String.join (page.entries.map entrySection)) ++
      footer page.path
  /-- The body of the loop over the entries makes the same of an entry whatever else is given. -/
  alone : ∀ (entry : Entry) (context : Context),
    renderAll? id (("symbol", entry.value) :: context) entryParts = some (entrySection entry)
  sections : ∀ entry : Entry, entrySection entry =
    "\n\n### `" ++ entry.signature ++ "`" ++ fence entry.docstring ++
      String.join (entry.methods.map fun method => "\n\n#### `" ++ entry.name ++ "." ++
        method.name ++ "`\n\n`" ++ method.signature ++ "`" ++ fence method.docstring)
  fenced : ∀ text, text ≠ "" → fence (some text) = "\n\n```python\n" ++ text ++ "\n```"
  unfenced : ∀ docstring, fence docstring = "" ↔ docstring.getD "" = ""
  footer : footer page.path = "\n\n---\n*Source: `" ++ page.path ++ "`*\n"
  appended : ∀ first second : List Entry, page.entries = first ++ second → first ≠ [] →
    ∃ front, render { page with entries := first } = front ++ Page.footer page.path ∧
      page.render = front ++ String.join (second.map entrySection) ++ Page.footer page.path

theorem composed (page : Page) : page.IsComposed := by
  refine ⟨page.render_template, ?_, fun entry _ => render_entryParts entry, fun _ => rfl, ?_, ?_,
    rfl, ?_⟩
  · cases entries : page.entries <;> simp [render, reference, diagramSection, entries]
  · intro text nonempty
    simp [fence]
  · intro docstring
    cases docstring with
    | none => simp [fence]
    | some text => by_cases empty : text = "" <;> simp [fence, empty]
  · intro first second split nonempty
    refine ⟨page.readme ++ "\n" ++ diagramSection page.diagram ++ reference first, rfl, ?_⟩
    rw [render, split, reference_append nonempty]
    simp only [String.append_assoc]

end Page

end PythonDocs
