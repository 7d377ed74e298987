import PythonDocs.Json.Value
import PythonDocs.Text.Hex
import PythonDocs.Text.Utf8

namespace PythonDocs.Json

def isGap (c : Char) : Bool := c == ' ' || c == '\n' || c == '\t' || c == '\r'

def skipGap (text : List Char) : List Char := text.dropWhile isGap

def unit? (a b c d : Char) : Option Nat := do
  let a ← Text.hexValue? a
  let b ← Text.hexValue? b
  let c ← Text.hexValue? c
  let d ← Text.hexValue? d
  return 4096 * a + 256 * b + 16 * c + d

def escaped? (c : Char) : Option Char :=
  ['"', '\\', '/', 'b', 'f', 'n', 'r', 't'].zip
    ['"', '\\', '/', '\x08', '\x0c', '\n', '\r', '\t'] |>.lookup c

def readUnits : List Char → Option (List Nat × List Char)
  | '"' :: rest => some ([], rest)
  | '\\' :: 'u' :: a :: b :: c :: d :: rest => do
    let unit ← unit? a b c d
    let (units, rest) ← readUnits rest
    return (unit :: units, rest)
  | '\\' :: c :: rest => do
    let c ← escaped? c
    let (units, rest) ← readUnits rest
    return (c.toNat :: units, rest)
  | c :: rest =>
    if c.toNat < 32 then none
    else (readUnits rest).map fun (units, rest) => (c.toNat :: units, rest)
  | [] => none

def isHigh (unit : Nat) : Bool := 0xD800 ≤ unit && unit < 0xDC00

def isLow (unit : Nat) : Bool := 0xDC00 ≤ unit && unit < 0xE000

/-- Joins surrogate pairs; `high` is the first half of a pair that waits for the second. -/
def joinPairs : Option Nat → List Nat → Option (List Char)
  | none, [] => some []
  | some _, [] => none
  | none, unit :: rest =>
    if isHigh unit then joinPairs (some unit) rest
    else if isLow unit then none
    else (joinPairs none rest).map (Char.ofNat unit :: ·)
  | some high, unit :: rest =>
    if isLow unit then
      (joinPairs none rest).map
        (Char.ofNat (0x10000 + 0x400 * (high - 0xD800) + (unit - 0xDC00)) :: ·)
    else none

/-- A string behind its quotation mark: `none` inside for a broken one. -/
def readString (text : List Char) : Option (Option String × List Char) :=
  (readUnits text).map fun (units, rest) => ((joinPairs none units).map String.ofList, rest)

def digits (text : List Char) : List Char := text.takeWhile Char.isDigit

def numberLength (text : List Char) : Nat :=
  let sign := if text.head? = some '-' then 1 else 0
  let afterSign := text.drop sign
  let whole := match afterSign with
    | '0' :: _ => 1
    | rest => (digits rest).length
  let afterWhole := afterSign.drop whole
  let fraction? : Option Nat := match afterWhole with
    | '.' :: rest => if digits rest = [] then none else some ((digits rest).length + 1)
    | _ => some 0
  let fraction := fraction?.getD 0
  let power? : Option Nat := match afterWhole.drop fraction with
    | c :: rest =>
      if c = 'e' ∨ c = 'E' then
        let sign := if rest.head? = some '-' ∨ rest.head? = some '+' then 1 else 0
        let count := (digits (rest.drop sign)).length
        if count = 0 then none else some (1 + sign + count)
      else some 0
    | [] => some 0
  match whole, fraction?, power? with
  | 0, _, _ | _, none, _ | _, _, none => 0
  | whole, some fraction, some power => sign + whole + fraction + power

def expect (word : String) (value : Json) (text : List Char) : Option (Json × List Char) :=
  if word.toList.isPrefixOf text then some (value, text.drop word.length) else none

def ofNamed (entries : List (Option String × Json)) : Json :=
  match entries.mapM fun (name, value) => name.map (·, value) with
  | some entries => .object entries
  | none => .broken

mutual

/-- A value at the start of a text without leading blanks, and what follows it. The fuel bounds the
characters left. -/
def readValue : Nat → List Char → Option (Json × List Char)
  | 0, _ => none
  | fuel + 1, text =>
    match text with
    | '"' :: rest =>
      (readString rest).map fun (text, rest) => ((text.map Json.string).getD .broken, rest)
    | '[' :: rest =>
      match skipGap rest with
      | ']' :: rest => some (.array [], rest)
      | rest => (readItems fuel rest).map fun (items, rest) => (.array items, rest)
    | '\x7b' :: rest =>
      match skipGap rest with
      | '\x7d' :: rest => some (.object [], rest)
      | rest => (readEntries fuel rest).map fun (entries, rest) => (ofNamed entries, rest)
    | 't' :: _ => expect "true" (.bool true) text
    | 'f' :: _ => expect "false" (.bool false) text
    | 'n' :: _ => expect "null" .null text
    | _ =>
      match numberLength text with
      | 0 => none
      | length => some (.number (.ofList (text.take length)), text.drop length)

def readItems : Nat → List Char → Option (List Json × List Char)
  | 0, _ => none
  | fuel + 1, text =>
    match readValue fuel text with
    | none => none
    | some (item, rest) =>
      match skipGap rest with
      | ']' :: rest => some ([item], rest)
      | ',' :: rest =>
        (readItems fuel (skipGap rest)).map fun (items, rest) => (item :: items, rest)
      | _ => none

def readEntries : Nat → List Char → Option (List (Option String × Json) × List Char)
  | 0, _ => none
  | fuel + 1, text =>
    match text with
    | '"' :: rest =>
      match readString rest with
      | none => none
      | some (name, rest) =>
        match skipGap rest with
        | ':' :: rest =>
          match readValue fuel (skipGap rest) with
          | none => none
          | some (value, rest) =>
            match skipGap rest with
            | '\x7d' :: rest => some ([(name, value)], rest)
            | ',' :: rest =>
              (readEntries fuel (skipGap rest)).map fun (entries, rest) =>
                ((name, value) :: entries, rest)
            | _ => none
        | _ => none
    | _ => none

end

def read? (text : String) : Option Json :=
  match readValue (text.length + 1) (skipGap text.toList) with
  | some (value, rest) => if skipGap rest = [] then some value else none
  | none => none

inductive Scope
  | outside | string | escape
  deriving DecidableEq, Repr

def Scope.after : Scope → Char → Scope
  | outside, '"' => string
  | outside, _ => outside
  | string, '"' => outside
  | string, '\\' => escape
  | string, _ => string
  | escape, _ => string

/-- The characters in bytes. A byte of a string that encodes none becomes two halves of surrogate
pairs that do not match, and the bytes have no text where such a byte is elsewhere. The fuel bounds
the bytes left. -/
def mend : Nat → Scope → Text.Bytes → Option (List Char)
  | _, _, [] => some []
  | 0, _, _ => none
  | fuel + 1, scope, byte :: rest =>
    match Text.first? (byte :: rest) with
    | some (c, rest) => (mend fuel (scope.after c) rest).map (c :: ·)
    | none =>
      if scope = .string then (mend fuel scope rest).map ("\\ud800\\ud800".toList ++ ·) else none

def readBytes? (bytes : Text.Bytes) : Option Json :=
  (mend bytes.length .outside bytes).bind fun text => read? (.ofList text)

end PythonDocs.Json
