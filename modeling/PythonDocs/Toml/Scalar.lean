import PythonDocs.Decimal
import PythonDocs.Text.Hex
import PythonDocs.Toml.Value

namespace PythonDocs.Toml

def isGap (c : Char) : Bool := c == ' ' || c == '\t'

def skipGap (text : List Char) : List Char := text.dropWhile isGap

def isPlain (c : Char) : Bool := c == '\t' || (32 ≤ c.toNat && c.toNat ≠ 127)

def isBareKey (c : Char) : Bool := c.isAlphanum || c == '_' || c == '-'

def scalarValue? (digits : List Char) : Option Char := do
  let values ← digits.mapM Text.hexValue?
  let code := values.foldl (fun n d => 16 * n + d) 0
  if code < 0xD800 ∨ (0xDFFF < code ∧ code ≤ 0x10FFFF) then some (Char.ofNat code) else none

def shortEscape? (c : Char) : Option Char :=
  (['b', 't', 'n', 'f', 'r', '"', '\\'].zip
    ['\x08', '\t', '\n', '\x0c', '\r', '"', '\\']).lookup c

def prepend (c : Char) (read : Option (List Char × List Char)) : Option (List Char × List Char) :=
  read.map fun (text, rest) => (c :: text, rest)

def basicString : List Char → Option (List Char × List Char)
  | '"' :: rest => some ([], rest)
  | '\\' :: 'u' :: a :: b :: c :: d :: rest => do
    let c ← scalarValue? [a, b, c, d]
    prepend c (basicString rest)
  | '\\' :: 'U' :: a :: b :: c :: d :: e :: f :: g :: h :: rest => do
    let c ← scalarValue? [a, b, c, d, e, f, g, h]
    prepend c (basicString rest)
  | '\\' :: c :: rest => do
    let c ← shortEscape? c
    prepend c (basicString rest)
  | c :: rest => if isPlain c then prepend c (basicString rest) else none
  | [] => none

def literalString : List Char → Option (List Char × List Char)
  | '\'' :: rest => some ([], rest)
  | c :: rest => if isPlain c then prepend c (literalString rest) else none
  | [] => none

def startsNewline : List Char → Bool
  | '\n' :: _ | '\r' :: '\n' :: _ => true
  | _ => false

/-- A string over several lines, behind its three quotation marks. After a backslash at the end of
a line, blanks are skipped up to the next other character. -/
def basicLines : Bool → List Char → Option (List Char × List Char)
  | _, '"' :: '"' :: '"' :: '"' :: '"' :: rest => some (['"', '"'], rest)
  | _, '"' :: '"' :: '"' :: '"' :: rest => some (['"'], rest)
  | _, '"' :: '"' :: '"' :: rest => some ([], rest)
  | skipping, '\r' :: '\n' :: rest =>
    if skipping then basicLines true rest else prepend '\n' (basicLines false rest)
  | skipping, '\n' :: rest =>
    if skipping then basicLines true rest else prepend '\n' (basicLines false rest)
  | _, '\\' :: 'u' :: a :: b :: c :: d :: rest => do
    let c ← scalarValue? [a, b, c, d]
    prepend c (basicLines false rest)
  | _, '\\' :: 'U' :: a :: b :: c :: d :: e :: f :: g :: h :: rest => do
    let c ← scalarValue? [a, b, c, d, e, f, g, h]
    prepend c (basicLines false rest)
  | _, '\\' :: c :: rest =>
    if startsNewline ((c :: rest).dropWhile isGap) then
      if c = '\r' ∨ c = '\n' ∨ isGap c then basicLines true rest else none
    else do
      let c ← shortEscape? c
      prepend c (basicLines false rest)
  | skipping, c :: rest =>
    if skipping && isGap c then basicLines true rest
    else if isPlain c then prepend c (basicLines false rest)
    else none
  | _, [] => none

def literalLines : List Char → Option (List Char × List Char)
  | '\'' :: '\'' :: '\'' :: '\'' :: '\'' :: rest => some (['\'', '\''], rest)
  | '\'' :: '\'' :: '\'' :: '\'' :: rest => some (['\''], rest)
  | '\'' :: '\'' :: '\'' :: rest => some ([], rest)
  | '\r' :: '\n' :: rest => prepend '\n' (literalLines rest)
  | '\n' :: rest => prepend '\n' (literalLines rest)
  | c :: rest => if isPlain c then prepend c (literalLines rest) else none
  | [] => none

def dropNewline : List Char → List Char
  | '\r' :: '\n' :: rest | '\n' :: rest => rest
  | text => text

def string? : List Char → Option (List Char × List Char)
  | '"' :: '"' :: '"' :: rest => basicLines false (dropNewline rest)
  | '\'' :: '\'' :: '\'' :: rest => literalLines (dropNewline rest)
  | '"' :: rest => basicString rest
  | '\'' :: rest => literalString rest
  | _ => none

def keyName? (text : List Char) : Option (List Char × List Char) :=
  match text with
  | '"' :: rest => basicString rest
  | '\'' :: rest => literalString rest
  | _ =>
    match text.takeWhile isBareKey with
    | [] => none
    | name => some (name, text.dropWhile isBareKey)

def runLength (isDigit : Char → Bool) : Bool → List Char → Nat
  | true, '_' :: c :: rest => if isDigit c then 2 + runLength isDigit true rest else 0
  | _, c :: rest => if isDigit c then 1 + runLength isDigit true rest else 0
  | _, [] => 0

def signLength (text : List Char) : Nat :=
  match text with
  | '+' :: _ | '-' :: _ => 1
  | _ => 0

def integerLength (text : List Char) : Nat :=
  let sign := signLength text
  match text.drop sign with
  | '0' :: _ => sign + 1
  | digits =>
    match runLength Char.isDigit false digits with
    | 0 => 0
    | length => sign + length

def powerLength : List Char → Nat
  | c :: rest =>
    if c = 'e' ∨ c = 'E' then
      let sign := signLength rest
      match runLength Char.isDigit false (rest.drop sign) with
      | 0 => 0
      | length => 1 + sign + length
    else 0
  | [] => 0

def floatLength (text : List Char) : Nat :=
  let whole := integerLength text
  if whole = 0 then 0
  else
    match text.drop whole with
    | '.' :: rest =>
      match runLength Char.isDigit false rest with
      | 0 => 0
      | fraction => whole + 1 + fraction + powerLength (rest.drop fraction)
    | rest =>
      match powerLength rest with
      | 0 => 0
      | power => whole + power

def numberOf (base : Nat) (digits : List Char) : Nat :=
  (digits.filterMap Text.hexValue?).foldl (fun n d => base * n + d) 0

def inRange (value : Int) : Bool := -0x8000000000000000 ≤ value && value < 0x8000000000000000

def based? (base : Nat) (digits : List Char) : Option (Scalar × List Char) :=
  let isDigit c := ((Text.hexValue? c).map (decide <| · < base)).getD false
  match runLength isDigit false digits with
  | 0 => none
  | length =>
    let value : Int := numberOf base (digits.take length)
    if inRange value then some (.integer value, digits.drop length) else none

def decimal? (text : List Char) : Option (Scalar × List Char) :=
  match integerLength text with
  | 0 => none
  | length =>
    let size : Int := numberOf 10 (text.take length)
    let value := if text.head? = some '-' then -size else size
    if inRange value then some (.integer value, text.drop length) else none

def float? (text : List Char) : Option (Scalar × List Char) :=
  match floatLength text with
  | 0 =>
    let sign := signLength text
    match text.drop sign with
    | 'i' :: 'n' :: 'f' :: rest =>
      some (.float (if text.head? = some '-' then "-inf" else "inf"), rest)
    | 'n' :: 'a' :: 'n' :: rest => some (.float "NaN", rest)
    | _ => none
  | length =>
    let number := (text.take length).filter (· ≠ '_')
    let shown := (Decimal.ofLiteral (number.drop (signLength number))).doubleText
    match number.head?, shown with
    | some '-', shown => some (.float ("-" ++ shown), text.drop length)
    | _, "inf" => none
    | _, shown => some (.float shown, text.drop length)

def twoDigits? (low high : Nat) : List Char → Option (Nat × List Char)
  | a :: b :: rest =>
    if a.isDigit && b.isDigit then
      let value := numberOf 10 [a, b]
      if low ≤ value ∧ value ≤ high then some (value, rest) else none
    else none
  | _ => none

def char? (c : Char) : List Char → Option (List Char)
  | d :: rest => if c = d then some rest else none
  | [] => none

def daysIn (year month : Nat) : Nat :=
  if month = 2 then
    if year % 4 = 0 ∧ (year % 100 ≠ 0 ∨ year % 400 = 0) then 29 else 28
  else if [4, 6, 9, 11].contains month then 30
  else 31

def minutes? (text : List Char) : Option (List Char) := do
  let (_, rest) ← twoDigits? 0 59 text
  let rest ← char? ':' rest
  let (_, rest) ← twoDigits? 0 60 rest
  match rest with
  | '.' :: fraction =>
    match fraction.takeWhile Char.isDigit with
    | [] => some rest
    | digits => some (fraction.drop digits.length)
  | _ => some rest

def hour? (text : List Char) : Option (List Char) := do
  let (_, rest) ← twoDigits? 0 23 text
  char? ':' rest

def offset? : List Char → Option (List Char)
  | c :: rest =>
    if c = 'Z' ∨ c = 'z' then some rest
    else if c = '+' ∨ c = '-' then do
      let rest ← hour? rest
      (twoDigits? 0 59 rest).map Prod.snd
    else none
  | [] => none

def monthDay? (year : Nat) (text : List Char) : Option (List Char) := do
  let (month, rest) ← twoDigits? 1 12 text
  let rest ← char? '-' rest
  let (day, rest) ← twoDigits? 1 31 rest
  if day ≤ daysIn year month then some rest else none

def timeAfter? : List Char → Option (List Char)
  | c :: rest =>
    if c = 'T' ∨ c = 't' ∨ c = ' ' then (hour? rest).bind minutes? else none
  | [] => none

def startsHour (text : List Char) : Bool := (hour? text).isSome

def startsYear : List Char → Bool
  | a :: b :: c :: d :: '-' :: _ => [a, b, c, d].all Char.isDigit
  | _ => false

/-- A date, a time, or both with an offset. The text starts with a year or an hour. -/
def datetime? (text : List Char) : Option (List Char) :=
  if startsYear text then do
    let rest ← monthDay? (numberOf 10 (text.take 4)) (text.drop 5)
    let afterMark := rest.drop 1
    let marked := match rest.head? with
      | some c => c = 'T' || c = 't' || c = ' '
      | none => false
    if marked && startsHour afterMark then
      let rest ← timeAfter? rest
      some ((offset? rest).getD rest)
    else some rest
  else (hour? text).bind minutes?

/-- A value that is no string and has no parts. -/
def plainScalar? (text : List Char) : Option (Scalar × List Char) :=
  match text with
  | 't' :: 'r' :: 'u' :: 'e' :: rest => some (.bool true, rest)
  | 'f' :: 'a' :: 'l' :: 's' :: 'e' :: rest => some (.bool false, rest)
  | '0' :: 'x' :: digits => based? 16 digits
  | '0' :: 'o' :: digits => based? 8 digits
  | '0' :: 'b' :: digits => based? 2 digits
  | _ =>
    if startsYear text || startsHour text then (datetime? text).map (Scalar.datetime, ·)
    else
      match float? text with
      | some read => some read
      | none => decimal? text

end PythonDocs.Toml
