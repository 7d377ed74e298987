namespace PythonDocs

inductive Mismatch
  | missingField (name : String)
  | duplicateField (name : String)
  | unknownVariant (name : String) (known : List String)
  | invalidType (found expected : String)
  | invalidValue (found expected : String)
  | invalidLength (length : Nat) (expected : String)
  /-- A table that should name one alternative has no entry, or more than one. -/
  | notOneEntry (none : Bool)
  | wantedTable
  | filled (kind : String)
  | notTable (kind : String)
  deriving DecidableEq, Repr

namespace Mismatch

def codeQuoted (name : String) : String := "`" ++ name ++ "`"

def alternatives : List String → String
  | [] => "there are no variants"
  | [only] => "expected " ++ codeQuoted only
  | [first, second] => "expected " ++ codeQuoted first ++ " or " ++ codeQuoted second
  | known => "expected one of " ++ String.intercalate ", " (known.map codeQuoted)

def message : Mismatch → String
  | missingField name => "missing field " ++ codeQuoted name
  | duplicateField name => "duplicate field " ++ codeQuoted name
  | unknownVariant name known =>
    "unknown variant " ++ codeQuoted name ++ ", " ++ alternatives known
  | invalidType found expected => "invalid type: " ++ found ++ ", expected " ++ expected
  | invalidValue found expected => "invalid value: " ++ found ++ ", expected " ++ expected
  | invalidLength length expected =>
    "invalid length " ++ toString length ++ ", expected " ++ expected
  | notOneEntry true => "wanted exactly 1 element, found 0 elements"
  | notOneEntry false => "wanted exactly 1 element, more than 1 element"
  | wantedTable => "wanted string or table"
  | filled kind => "expected empty " ++ kind
  | notTable kind => "expected table, found " ++ kind

end Mismatch

end PythonDocs
