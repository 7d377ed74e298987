import PythonDocs.Text.Alphanumeric
import PythonDocs.Text.Blank
import PythonDocs.Text.Lines
import PythonDocs.Text.Utf8

namespace PythonDocs.Assignments

inductive LineState
  | complete | escape | single | singleEscape | double | doubleEscape | comment | blank
  deriving DecidableEq, Repr

def LineState.plain (c : Char) : LineState :=
  if c = '\\' then .escape
  else if c = '"' then .double
  else if c = '\'' then .single
  else .complete

def LineState.next (state : LineState) (c : Char) : LineState :=
  match state with
  | .blank => if c = '#' then .comment else plain c
  | .escape => .complete
  | .complete =>
    if Text.isBlank c && c ≠ '\n' && c ≠ '\r' then .blank else plain c
  | .double => if c = '\\' then .doubleEscape else if c = '"' then .complete else .double
  | .doubleEscape => .double
  | .single => if c = '\\' then .singleEscape else if c = '\'' then .complete else .single
  | .singleEscape => .single
  | .comment => .comment

def scanLine : LineState → List Char → List Char × LineState
  | state, [] => ([], state)
  | state, c :: rest =>
    match state.next c with
    | .comment => ([], .comment)
    | state =>
      let (text, last) := scanLine state rest
      (c :: text, last)

def dropLineEnd (line : List Char) : List Char :=
  match line.reverse with
  | '\n' :: '\r' :: before | '\n' :: before => before.reverse
  | _ => line

/-- Joins lines while something is open; a file that cannot be read to its end, or that ends with
something open, ends in `none`. Lines that start with a comment are empty. -/
def joinLines : List Char → LineState → List (Option (List Char)) → List (Option (List Char))
  | _, state, [] => if state = .complete then [] else [none]
  | _, _, none :: _ => [none]
  | opened, state, some line :: rest =>
    if ((opened ++ line).dropWhile Text.isBlank).head? = some '#' then
      some [] :: joinLines [] .complete rest
    else
      let (text, last) := scanLine state line
      match last with
      | .complete => some (dropLineEnd (opened ++ text)) :: joinLines [] .complete rest
      | .comment => some (opened ++ text) :: joinLines [] .complete rest
      | last => joinLines (opened ++ text) last rest

inductive Naming
  | none | bare | braced
  deriving DecidableEq, Repr

structure ValueState where
  single : Bool := false
  double : Bool := false
  escaped : Bool := false
  finished : Bool := false
  naming : Naming := .none
  name : List Char := []
  output : List Char := []

def ValueState.substitute (value : String → String) (state : ValueState) : ValueState :=
  { state with
    name := []
    output := state.output ++ (value (.ofList state.name)).toList }

def ValueState.emit (state : ValueState) (c : Char) : ValueState :=
  { state with output := state.output ++ [c] }

/-- Takes one more character; `none` where the value is malformed. -/
def ValueState.step (value : String → String) (state : ValueState) (c : Char) :
    Option ValueState :=
  if state.finished then
    if c = ' ' ∨ c = '\t' then some state else none
  else if state.escaped then
    let state := { state with escaped := false }
    if ['\\', '\'', '"', '$', ' '].contains c then some (state.emit c)
    else if c = 'n' then some (state.emit '\n')
    else none
  else if state.single then
    some (if c = '\'' then { state with single := false } else state.emit c)
  else if state.naming ≠ .none then
    if Text.isAlphanumeric c then some { state with name := state.name ++ [c] }
    else if state.naming = .braced then
      some (if c = '\x7d' then { state.substitute value with naming := .none }
        else { state with name := state.name ++ [c] })
    else if c = '\x7b' && state.name.isEmpty then some { state with naming := .braced }
    else
      let state := state.substitute value
      some (if c = '$' then { state with naming := .bare }
        else { state with naming := .none }.emit c)
  else if c = '$' then some { state with naming := .bare }
  else if state.double then
    some (if c = '"' then { state with double := false }
      else if c = '\\' then { state with escaped := true }
      else state.emit c)
  else if c = '\'' then some { state with single := true }
  else if c = '"' then some { state with double := true }
  else if c = '\\' then some { state with escaped := true }
  else if c = ' ' ∨ c = '\t' then some { state with finished := true }
  else some (state.emit c)

def ValueState.close (value : String → String) (state : ValueState) : Option String :=
  if state.naming = .braced ∨ state.single ∨ state.double then none
  else some (.ofList (state.substitute value).output)

def readValue (value : String → String) : ValueState → List Char → Option String
  | state, [] => state.close value
  | state, c :: rest =>
    if state.finished && c = '#' then state.close value
    else
      match state.step value c with
      | some state => readValue value state rest
      | none => none

def isNameStart (c : Char) : Bool := c.isAlpha || c == '_'

def isNamePart (c : Char) : Bool := c.isAlphanum || c == '_' || c == '.'

def skipBlank (text : List Char) : List Char := text.dropWhile Text.isBlank

def readName (text : List Char) : Option (List Char × List Char) :=
  if (text.head?.map isNameStart).getD false then
    some (text.takeWhile isNamePart, text.dropWhile isNamePart)
  else none

def skipEquals : List Char → Option (List Char)
  | '=' :: rest => some rest
  | _ => none

/-- The name that a line assigns to, perhaps behind the word `export`, and the text of its value. -/
def readTarget (text : List Char) : Option (List Char × List Char) := do
  let (name, rest) ← readName text
  let rest := skipBlank rest
  if name = "export".toList then
    match skipEquals rest with
    | some rest => return (name, skipBlank rest)
    | none =>
      let (name, rest) ← readName rest
      let rest ← skipEquals (skipBlank rest)
      return (name, skipBlank rest)
  else
    let rest ← skipEquals rest
    return (name, skipBlank rest)

/-- What a line says: nothing, or a name and its value. `none` outside where it is malformed. -/
def readLine (value : String → String) (line : List Char) : Option (Option (String × String)) :=
  let text := skipBlank (Text.trimEnd line)
  if text = [] ∨ text.head? = some '#' then some none
  else do
    let (name, rest) ← readTarget text
    if rest = [] ∨ rest.head? = some '#' then return some (.ofList name, "")
    else
      let found ← readValue value {} rest
      return some (.ofList name, found)

end PythonDocs.Assignments
