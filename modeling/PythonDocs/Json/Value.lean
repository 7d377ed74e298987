import PythonDocs.Decimal
import PythonDocs.Text.Quoted

namespace PythonDocs

inductive Json
  | null
  | bool (value : Bool)
  | number (literal : String)
  | string (text : String)
  | array (items : List Json)
  | object (entries : List (String × Json))
  /-- A string, or an object with a name, that holds half of a surrogate pair. -/
  | broken
  deriving Repr, Inhabited

namespace Json

def ofNat (n : Nat) : Json := .number (toString n)

def ofText? : Option String → Json
  | some text => .string text
  | none => .null

def ofTexts (texts : List String) : Json := .array (texts.map .string)

def entries : Json → List (String × Json)
  | .object entries => entries
  | _ => []

def get? (name : String) (value : Json) : Option Json :=
  value.entries.lookup name

def isFraction (literal : String) : Bool :=
  literal.toList.any (['.', 'e', 'E'].contains ·) || literal = "-0"

def describeNumber (literal : String) : String :=
  let (sign, digits) := match literal.toList with
    | '-' :: digits => ("-", digits)
    | digits => ("", digits)
  let limit := if sign = "-" then 0x8000000000000000 else 0xFFFFFFFFFFFFFFFF
  if isFraction literal || limit < Decimal.natural digits then
    "floating point `" ++ sign ++ (Decimal.ofLiteral digits).doubleText ++ "`"
  else "integer `" ++ literal ++ "`"

def describe : Json → String
  | .null => "null"
  | .bool value => "boolean `" ++ (if value then "true" else "false") ++ "`"
  | .number literal => describeNumber literal
  | .string text => "string " ++ Text.quoted text
  | .array _ => "sequence"
  | .object _ => "map"
  | .broken => "string"

end Json

end PythonDocs
