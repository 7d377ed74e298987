import PythonDocs.Text.Blank

namespace PythonDocs.Template

open Text (trimEnd)

/-- What a template is given. -/
inductive Value
  | missing
  | text (text : String)
  | list (items : List Value)
  | record (fields : List (String × Value))

namespace Value

def isTrue : Value → Bool
  | missing => false
  | text content => content ≠ ""
  | list items => !items.isEmpty
  | record fields => !fields.isEmpty

def optional : Option String → Value
  | none => missing
  | some content => text content

def get? : List String → Value → Option Value
  | [], value => some value
  | name :: rest, record fields => do get? rest (← fields.lookup name)
  | _ :: _, _ => none

end Value

inductive Block
  | when (path : List String)
  | each (name : String) (path : List String)
  deriving DecidableEq, Repr

def Block.isLoop : Block → Bool
  | when _ => false
  | each .. => true

/-- A template as it is written: texts, values and tags. -/
inductive Piece
  | text (text : String)
  | value (path : List String)
  | opens (trims : Bool) (block : Block)
  | closes (trims isLoop : Bool)
  deriving DecidableEq, Repr

def Piece.trims : Piece → Bool
  | opens trims _ | closes trims _ => trims
  | text _ | value _ => false

def trimmed : List Piece → List Piece
  | .text text :: tag :: rest =>
    .text (if tag.trims then .ofList (trimEnd text.toList) else text) :: trimmed (tag :: rest)
  | piece :: rest => piece :: trimmed rest
  | [] => []

inductive Part
  | text (text : String)
  | value (path : List String)
  | block (block : Block) (body : List Part)

/-- Puts pieces into the blocks around them. Of the blocks that are open, with what stands before
them, the innermost is the first, and of the parts of a block the last. -/
def nest? (parts : List Part) (around : List (Block × List Part)) :
    List Piece → Option (List Part)
  | [] => if around.isEmpty then some parts.reverse else none
  | .text text :: rest => nest? (.text text :: parts) around rest
  | .value path :: rest => nest? (.value path :: parts) around rest
  | .opens _ block :: rest => nest? [] ((block, parts) :: around) rest
  | .closes _ isLoop :: rest =>
    match around with
    | [] => none
    | (block, before) :: around =>
      if block.isLoop = isLoop then nest? (.block block parts.reverse :: before) around rest
      else none

abbrev Context := List (String × Value)

def Context.get? (context : Context) (path : List String) : Option Value :=
  (Value.record context).get? path

theorem Context.get?_self (name : String) (value : Value) (context : Context)
    (path : List String) :
    Context.get? ((name, value) :: context) (name :: path) = value.get? path := by
  simp [get?, Value.get?]

theorem Context.get?_other {name other : String} (apart : other ≠ name) (value : Value)
    (context : Context) (path : List String) :
    Context.get? ((name, value) :: context) (other :: path) = context.get? (other :: path) := by
  have skipped : (other == name) = false := by simpa using apart
  simp [get?, Value.get?, List.lookup_cons, skipped]

mutual

/-- What a part becomes. There is no result where a value is missing or of another kind. -/
def Part.render? (write : String → String) (context : Context) : Part → Option String
  | .text text => some text
  | .value path =>
    match context.get? path with
    | some (.text text) => some (write text)
    | _ => none
  | .block (.when path) body => do
    if (← context.get? path).isTrue then renderAll? write context body else some ""
  | .block (.each name path) body =>
    match context.get? path with
    | some (.list items) => do
      return .join (← items.mapM fun item => renderAll? write ((name, item) :: context) body)
    | _ => none

def renderAll? (write : String → String) (context : Context) : List Part → Option String
  | [] => some ""
  | part :: rest => do return (← part.render? write context) ++ (← renderAll? write context rest)

end

section

variable {write : String → String} {context : Context}

theorem render_text (content : String) :
    (Part.text content).render? write context = some content := by
  rw [Part.render?]

theorem render_value {path : List String} {content : String}
    (given : context.get? path = some (.text content)) :
    (Part.value path).render? write context = some (write content) := by
  rw [Part.render?, given]

end

def escapedChar : Char → String
  | '&' => "&amp;"
  | '<' => "&lt;"
  | '>' => "&gt;"
  | '"' => "&quot;"
  | '\x27' => "&#x27;"
  | '/' => "&#x2F;"
  | c => .singleton c

def escaped (text : String) : String := .join (text.toList.map escapedChar)

def isHtml (name : String) : Bool :=
  [".html", ".htm", ".xml"].any fun ending => ending.toList.isSuffixOf name.toList

def render? (name : String) (pieces : List Piece) (context : Context) : Option String := do
  renderAll? (if isHtml name then escaped else id) context (← nest? [] [] (trimmed pieces))

end PythonDocs.Template
