import PythonDocs.Text.Lines
import PythonDocs.Text.Percent

namespace PythonDocs

inductive Host
  | name (text : String)
  | v4 (address : Nat)
  | v6 (groups : List Nat)
  deriving DecidableEq, Repr

namespace Host

open Text (hexValue? splitOn)

def numberOf? (base : Nat) (digits : List Char) : Option Nat :=
  digits.foldl (fun number? c => do
    let number ← number?
    let digit ← hexValue? c
    if digit < base then some (base * number + digit) else none) (some 0)

def dottedPart? : List Char → Option Nat
  | [] => none
  | '0' :: 'x' :: digits | '0' :: 'X' :: digits => numberOf? 16 digits
  | ['0'] => some 0
  | '0' :: digits => numberOf? 8 digits
  | digits => numberOf? 10 digits

def dottedParts (text : List Char) : List (List Char) :=
  let parts := splitOn '.' text
  if parts.length > 1 ∧ parts.getLast? = some [] then parts.dropLast else parts

def endsInNumber (text : List Char) : Bool :=
  match (dottedParts text).getLast? with
  | none | some [] => false
  | some part => part.all Char.isDigit || (dottedPart? part).isSome

def joinParts? : Nat → List Nat → Option Nat
  | _, [] => none
  | room, [part] => if part < Nat.pow 256 room then some part else none
  | 0, _ => none
  | room + 1, part :: rest =>
    if part < 256 then (joinParts? room rest).map (part * Nat.pow 256 room + ·) else none

def v4? (text : List Char) : Option Nat := do
  let parts ← (dottedParts text).mapM dottedPart?
  joinParts? 4 parts

def group? (digits : List Char) : Option Nat :=
  if digits.isEmpty ∨ digits.length > 4 then none else numberOf? 16 digits

def plainByte? (digits : List Char) : Option Nat := do
  let value ← numberOf? 10 digits
  if digits.isEmpty ∨ value > 255 ∨ (digits.length > 1 ∧ digits.head? = some '0') then none
  else some value

/-- Groups between colons; the last may be two groups in the form of four bytes. -/
def groupsOf? : List (List Char) → Option (List Nat)
  | [] => some []
  | [last] =>
    if last.contains '.' then do
      match ← (splitOn '.' last).mapM plainByte? with
      | [a, b, c, d] => some [256 * a + b, 256 * c + d]
      | _ => none
    else (group? last).map ([·])
  | group :: rest => do return (← group? group) :: (← groupsOf? rest)

def groups? (text : List Char) : Option (List Nat) :=
  if text.isEmpty then some [] else groupsOf? (splitOn ':' text)

def splitGap? : List Char → Option (List Char × List Char)
  | [] => none
  | ':' :: ':' :: rest => some ([], rest)
  | c :: rest => (splitGap? rest).map fun (before, after) => (c :: before, after)

/-- An address of groups, in which one pair of colons can stand for zeros. -/
def v6? (text : List Char) : Option (List Nat) := do
  match splitGap? text with
  | none =>
    let groups ← groups? text
    if groups.length = 8 then some groups else none
  | some (before, after) =>
    if before.contains '.' then none
    else
      let left ← groups? before
      let right ← groups? after
      if left.length + right.length < 8 then
        some (left ++ List.replicate (8 - left.length - right.length) 0 ++ right)
      else none

def bracketed? (text : List Char) : Option Host :=
  if text.getLast? = some ']' then (v6? (text.drop 1).dropLast).map v6 else none

def delimiters : List Char :=
  ['\x00', '\t', '\n', '\r', ' ', '#', '/', ':', '<', '>', '?', '@', '[', '\\', ']', '^', '|']

def isNameChar (c : Char) : Bool := Text.isPrintable c && c ≠ '%' && !delimiters.contains c

def ofAddress? (text : List Char) : Option Host := do
  if text.head? = some '[' then bracketed? text
  else
    let decoded ← Text.decode? (Text.percentDecoded text)
    let named := decoded.map Char.toLower
    if named.isEmpty ∨ !named.all isNameChar then none
    else if endsInNumber named then (v4? named).map v4
    else some (.name (.ofList named))

def ofOpaque? (text : List Char) : Option Host :=
  if text.head? = some '[' then bracketed? text
  else if text.any delimiters.contains then none
  else some (.name (.ofList (Text.percentEncoded [] text)))

def longestGap : Nat → List Nat → Nat × Nat
  | _, [] => (0, 0)
  | position, group :: rest =>
    let length := ((group :: rest).takeWhile (· = 0)).length
    let (other, best) := longestGap (position + 1) rest
    if best ≤ length then (position, length) else (other, best)

def groupText (group : Nat) : String := .ofList (Nat.toDigits 16 group)

def v6Text (groups : List Nat) : String :=
  let (position, length) := longestGap 0 groups
  if length < 2 then Text.join ":" (groups.map groupText)
  else
    Text.join ":" ((groups.take position).map groupText) ++ "::"
      ++ Text.join ":" ((groups.drop (position + length)).map groupText)

def text : Host → String
  | name text => text
  | v4 address =>
    Text.join "." ([16777216, 65536, 256, 1].map fun unit => toString (address / unit % 256))
  | v6 groups => "[" ++ v6Text groups ++ "]"

end Host

end PythonDocs
