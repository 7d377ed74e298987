import PythonDocs.Python.Layout
import PythonDocs.Text.Identifier

namespace PythonDocs.Python

open PythonDocs.Text

def isGapChar (c : Char) : Bool :=
  [' ', '\t', '\r', '\n', '\x0c', '\uFEFF', '\u2060', '\u200B'].contains c

def digitsLength : Bool → List Char → Nat
  | started, c :: rest =>
    if c.isDigit then 1 + digitsLength true rest
    else if c = '_' && started then 1 + digitsLength false rest
    else 0
  | _, [] => 0

def basedLength (isDigit : Char → Bool) : List Char → Nat
  | '_' :: c :: rest => if isDigit c then 2 + basedLength isDigit rest else 0
  | c :: rest => if isDigit c then 1 + basedLength isDigit rest else 0
  | [] => 0

def suffixLength (letters : List Char) (text : List Char) : Nat :=
  if (text.head?.map letters.contains).getD false then 1 else 0

def basedInteger (isDigit : Char → Bool) (digits : List Char) : Nat :=
  match basedLength isDigit digits with
  | 0 => 0
  | length => 2 + length + suffixLength ['l', 'L'] (digits.drop length)

def isHexDigit (c : Char) : Bool :=
  c.isDigit || ('a' ≤ c && c ≤ 'f') || ('A' ≤ c && c ≤ 'F')

def integerLength (text : List Char) : Nat :=
  let plain := digitsLength false text
  let decimal := if plain = 0 then 0
    else plain + suffixLength ['l', 'L', 'j', 'J'] (text.drop plain)
  let based := match text with
    | '0' :: c :: digits =>
      if c = 'x' ∨ c = 'X' then basedInteger isHexDigit digits
      else if c = 'o' ∨ c = 'O' then basedInteger (fun d => '0' ≤ d && d ≤ '7') digits
      else if c = 'b' ∨ c = 'B' then basedInteger (fun d => d == '0' || d == '1') digits
      else 0
    | _ => 0
  max decimal based

def exponentLength (text : List Char) : Nat :=
  match text with
  | c :: rest =>
    if c = 'e' ∨ c = 'E' then
      let sign := suffixLength ['+', '-'] rest
      match digitsLength false (rest.drop sign) with
      | 0 => 0
      | digits => 1 + sign + digits
    else 0
  | [] => 0

def floatLength (text : List Char) : Nat :=
  let whole := digitsLength false text
  let body := match text.drop whole with
    | '.' :: rest =>
      let fraction := digitsLength false rest
      if whole = 0 ∧ fraction = 0 then 0
      else whole + 1 + fraction + exponentLength (rest.drop fraction)
    | rest =>
      match exponentLength rest with
      | 0 => 0
      | power => if whole = 0 then 0 else whole + power
  if body = 0 then 0 else body + suffixLength ['j', 'J'] (text.drop body)

def wordLength (text : List Char) : Nat :=
  match text with
  | c :: rest => if isIdentifierStart c then 1 + (rest.takeWhile isIdentifierPart).length else 0
  | [] => 0

def escapeLength : List Char → Nat
  | '\\' :: 'u' :: rest => if hex 4 rest then 6 else 0
  | '\\' :: 'U' :: rest => if hex 8 rest then 10 else 0
  | '\\' :: 'x' :: rest => if hex 2 rest then 4 else 0
  | '\\' :: 'N' :: '\x7b' :: rest =>
    let name := rest.takeWhile (· ≠ '\x7d')
    if name ≠ [] ∧ name.length < rest.length then 4 + name.length else 0
  | '\\' :: '\r' :: '\n' :: _ => 3
  | '\\' :: c :: rest =>
    if ['\n', '\'', '"', 'a', 'b', 'f', 'n', 'r', 't', 'v', '\\'].contains c then 2
    else if c.isDigit ∧ (rest.take 2).length = 2 ∧ (rest.take 2).all Char.isDigit then 4
    else 0
  | _ => 0
where
  hex (count : Nat) (rest : List Char) : Bool :=
    (rest.take count).length = count && (rest.take count).all isHexDigit

def symbolsAt (possible : Terminal → Bool) (text : List Char) : List (Nat × Terminal) :=
  symbolTexts.filterMap fun (spelling, mark) =>
    if spelling.isPrefixOf text && possible (.symbol mark) then
      some (spelling.length, .symbol mark)
    else none

def wordAt (possible : Terminal → Bool) (text : List Char) : List (Nat × Terminal) :=
  let length := wordLength text
  let keyword := ((Keyword.ofText? (text.take length)).map Terminal.keyword).filter possible
  let terminal := keyword.getD .identifier
  if length ≠ 0 && possible terminal then [(length, terminal)] else []

def numbersAt (possible : Terminal → Bool) (text : List Char) : List (Nat × Terminal) :=
  [(integerLength text, .integer), (floatLength text, .float)].filter fun (length, terminal) =>
    length ≠ 0 && possible terminal

def conversionAt (possible : Terminal → Bool) (text : List Char) : List (Nat × Terminal) :=
  match text with
  | '!' :: c :: _ => if c.isLower && possible .conversion then [(2, .conversion)] else []
  | _ => []

def longest : List (Nat × Terminal) → Option (Nat × Terminal)
  | [] => none
  | first :: rest =>
    match longest rest with
    | some best => if first.1 < best.1 then some best else some first
    | none => some first

def triviaAt : List Char → Option (Nat × Terminal)
  | '#' :: rest => some (1 + (rest.takeWhile (· ≠ '\n')).length, .comment)
  | '\\' :: '\n' :: _ => some (2, .continuation)
  | '\\' :: '\r' :: '\n' :: _ => some (3, .continuation)
  | [] => some (0, .endOfInput)
  | _ => none

def immediateAt (possible : Terminal → Bool) (text : List Char) : Option (Nat × Terminal) :=
  let escape := escapeLength text
  if escape ≠ 0 && possible .escape then some (escape, .escape)
  else if text.head? = some '\\' && possible .backslash then some (1, .backslash)
  else
    let format := (text.takeWhile fun c => !isBrace c && c ≠ '\n').length
    if format ≠ 0 && possible .formatText then some (format, .formatText) else none

def Lexeme.cut (skipped : Nat) (text : List Char) (found : Nat × Terminal) : Lexeme :=
  ⟨skipped, found.2, text.take found.1, text.drop found.1⟩

/-- The next token that layout does not decide. -/
def Lexeme.plain? (possible : Terminal → Bool) (text : List Char) : Option Lexeme :=
  match immediateAt possible text with
  | some found => some (cut 0 text found)
  | none =>
    let rest := text.dropWhile isGapChar
    let found := match triviaAt rest with
      | some found => some found
      | none => longest (wordAt possible rest ++ numbersAt possible rest
          ++ conversionAt possible rest ++ symbolsAt possible rest)
    found.map (cut (text.length - rest.length) rest)

def Lexeme.next? (layout : Layout) (possible : Terminal → Bool) (text : List Char) :
    Option (Lexeme × Layout) :=
  match layout.next? possible text with
  | some found => some found
  | none => (Lexeme.plain? possible text).map (·, layout)

end PythonDocs.Python
