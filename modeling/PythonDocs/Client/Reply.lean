import PythonDocs.Json.Value
import PythonDocs.Provider

namespace PythonDocs

namespace Json

/-- The field of a record that has one that counts; there is `none` inside where it is missing. A
record is an object, or an array of the values of its fields. -/
def field? (name : String) : Json → Option (Option Json)
  | .object entries =>
    match entries.filter (·.1 = name) with
    | [] => some none
    | [(_, value)] => some (some value)
    | _ => none
  | .array [] => some none
  | .array [value] => some (some value)
  | _ => none

def needed? (name : String) (value : Json) : Option Json := (value.field? name).join

def text? : Json → Option String
  | .string text => some text
  | _ => none

def items? : Json → Option (List Json)
  | .array items => some items
  | _ => none

end Json

namespace Reply

def partText? (part : Json) : Option String := do
  match ← part.field? "text" with
  | none => some ""
  | some value => value.text?

def candidateText? (candidate : Json) : Option String := do
  let content ← candidate.needed? "content"
  let parts ← (← content.needed? "parts").items?
  return String.join (← parts.mapM partText?)

def choiceText? (choice : Json) : Option String := do
  let message ← choice.needed? "message"
  (← message.needed? "content").text?

end Reply

open Reply in
/-- The texts that a reply offers, if it has the form of the provider. -/
def Provider.texts? : Provider → Json → Option (List String)
  | gemini, reply => do
    match ← reply.field? "candidates" with
    | none => some []
    | some candidates => do (← candidates.items?).mapM candidateText?
  | ollama, reply => do
    let text ← (← reply.needed? "response").text?
    return [text]
  | openai, reply => do
    let choices ← (← reply.needed? "choices").items?
    choices.mapM choiceText?

end PythonDocs
