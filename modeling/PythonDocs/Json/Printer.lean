import PythonDocs.Json.Value
import PythonDocs.Text.Hex

namespace PythonDocs.Json

def encodeChar (c : Char) : List Char :=
  if c = '"' then ['\\', '"']
  else if c = '\\' then ['\\', '\\']
  else if c = '\x08' then ['\\', 'b']
  else if c = '\x0c' then ['\\', 'f']
  else if c = '\n' then ['\\', 'n']
  else if c = '\r' then ['\\', 'r']
  else if c = '\t' then ['\\', 't']
  else if c.toNat < 32 then
    ['\\', 'u', '0', '0', Text.hexDigit (c.toNat / 16), Text.hexDigit (c.toNat % 16)]
  else [c]

def encodeString (text : String) : List Char :=
  '"' :: text.toList.flatMap encodeChar ++ ['"']

def encodeAtom : Json → List Char
  | .null | .broken => "null".toList
  | .bool true => "true".toList
  | .bool false => "false".toList
  | .number literal => literal.toList
  | .string text => encodeString text
  | .array _ => ['[', ']']
  | .object _ => ['\x7b', '\x7d']

structure Style where
  colon : List Char
  line : Nat → List Char

def Style.compact : Style := ⟨[':'], fun _ => []⟩

def Style.pretty : Style :=
  ⟨[':', ' '], fun depth => '\n' :: List.replicate (2 * depth) ' '⟩

mutual

def encode (style : Style) (depth : Nat) : Json → List Char
  | .array (first :: rest) =>
    '[' :: style.line (depth + 1) ++ encode style (depth + 1) first
      ++ encodeItems style (depth + 1) rest ++ style.line depth ++ [']']
  | .object ((name, value) :: rest) =>
    '\x7b' :: style.line (depth + 1) ++ encodeString name ++ style.colon
      ++ encode style (depth + 1) value
      ++ encodeEntries style (depth + 1) rest ++ style.line depth ++ ['\x7d']
  | value => encodeAtom value

def encodeItems (style : Style) (depth : Nat) : List Json → List Char
  | [] => []
  | item :: rest =>
    ',' :: style.line depth ++ encode style depth item ++ encodeItems style depth rest

def encodeEntries (style : Style) (depth : Nat) : List (String × Json) → List Char
  | [] => []
  | (name, value) :: rest =>
    ',' :: style.line depth ++ encodeString name ++ style.colon
      ++ encode style depth value ++ encodeEntries style depth rest

end

def compact (value : Json) : String := .ofList (value.encode .compact 0)

def pretty (value : Json) : String := .ofList (value.encode .pretty 0)

end PythonDocs.Json
