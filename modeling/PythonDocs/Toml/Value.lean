import PythonDocs.Text.Lines
import PythonDocs.Text.Quoted

namespace PythonDocs.Toml

structure Span where
  start : Nat
  stop : Nat
  deriving DecidableEq, Repr

structure Key where
  name : String
  span : Span
  deriving DecidableEq, Repr

inductive Scalar
  | string (text : String)
  | integer (value : Int)
  | float (shown : String)
  | bool (value : Bool)
  | datetime
  deriving DecidableEq, Repr

inductive Origin
  | inline | header | implied | dotted
  deriving DecidableEq, Repr

/-- Tables made on the way to others have no place of their own. -/
inductive Item
  | scalar (value : Scalar) (span : Span)
  | array (items : List Item) (span : Option Span) (ofTables : Bool)
  | table (entries : List (Key × Item)) (span : Option Span) (origin : Origin)
  deriving Repr, Inhabited

namespace Item

def span? : Item → Option Span
  | .scalar _ span => some span
  | .array _ span _ => span
  | .table _ span _ => span

def describe : Item → String
  | .scalar (.string text) _ => "string " ++ Text.quoted text
  | .scalar (.integer value) _ => "integer `" ++ toString value ++ "`"
  | .scalar (.float shown) _ => "floating point `" ++ shown ++ "`"
  | .scalar (.bool value) _ => "boolean `" ++ (if value then "true" else "false") ++ "`"
  | .scalar .datetime _ => "map"
  | .array .. => "sequence"
  | .table .. => "map"

def kindName : Item → String
  | .scalar (.string _) _ => "string"
  | .scalar (.integer _) _ => "integer"
  | .scalar (.float _) _ => "float"
  | .scalar (.bool _) _ => "boolean"
  | .scalar .datetime _ => "datetime"
  | .array _ _ true => "array of tables"
  | .array _ _ false => "array"
  | .table _ _ .inline => "inline table"
  | .table .. => "table"

end Item

/-- The line of a text where a span starts, with carets under the part of the span on that line and
a message below. Columns count characters, carets count bytes. -/
def excerpt (source : List Char) (span : Span) (message : String) : String :=
  let before := source.take span.start
  let line := before.count '\n'
  let column := (before.reverse.takeWhile (· ≠ '\n')).length
  let content := ((Text.splitOn '\n' source)[line]?).getD []
  let number := toString (line + 1)
  let gutter := String.ofList (List.replicate (number.length + 1) ' ') ++ "|"
  let width := min (Text.byteLength (Text.slice source span.start span.stop))
    (Text.byteLength content - column)
  "TOML parse error at line " ++ number ++ ", column " ++ toString (column + 1) ++ "\n"
    ++ gutter ++ "\n"
    ++ number ++ " | " ++ .ofList content ++ "\n"
    ++ gutter ++ String.ofList (List.replicate (column + 1) ' ')
    ++ String.ofList (List.replicate (max width 1) '^') ++ "\n"
    ++ message ++ "\n"

end PythonDocs.Toml
