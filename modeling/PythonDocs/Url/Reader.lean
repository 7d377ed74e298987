import PythonDocs.Url.Basic

namespace PythonDocs.Url

open Text (percentEncoded splitFirst splitOn)

def fragmentReserved : List Char := [' ', '"', '<', '>', '\x60']

def pathReserved : List Char := fragmentReserved ++ ['#', '?', '\x7b', '\x7d']

def queryReserved (scheme : String) : List Char :=
  [' ', '"', '#', '<', '>'] ++ if isNetwork scheme || scheme = "file" then ['\x27'] else []

def cleaned (text : List Char) : List Char :=
  let outer (c : Char) : Bool := c.toNat ≤ 32
  let trimmed := ((text.dropWhile outer).reverse.dropWhile outer).reverse
  trimmed.filter fun c => c ≠ '\t' && c ≠ '\n' && c ≠ '\r'

def splitScheme? (text : List Char) : Option (String × List Char) :=
  let scheme := text.takeWhile fun c => c.isAlphanum || ['+', '-', '.'].contains c
  match scheme, text.drop scheme.length with
  | first :: _, ':' :: rest =>
    if first.isAlpha then some (.ofList (scheme.map Char.toLower), rest) else none
  | _, _ => none

def plainDots : List Char → List Char
  | '%' :: '2' :: 'e' :: rest | '%' :: '2' :: 'E' :: rest => '.' :: plainDots rest
  | c :: rest => c :: plainDots rest
  | [] => []

def followDots (passed : List (List Char)) : List (List Char) → List (List Char)
  | [] => passed.reverse
  | segment :: rest =>
    let isLast := rest.isEmpty
    match plainDots segment with
    | ['.', '.'] => followDots (if isLast then [] :: passed.tail else passed.tail) rest
    | ['.'] => followDots (if isLast then [] :: passed else passed) rest
    | _ => followDots (segment :: passed) rest

def normalPath (text : List Char) : String :=
  let segments := (followDots [] (splitOn '/' text)).map (percentEncoded pathReserved)
  .ofList ('/' :: Text.joinWith ['/'] segments)

def readNumber? (scheme : String) (digits : List Char) : Option (Option Nat) := do
  if digits.isEmpty then return none
  if !digits.all Char.isDigit then none
  let number ← Host.numberOf? 10 digits
  if number > 65535 then none
  return if usualNumbers.lookup scheme = some number then none else some number

def splitNumber (text : List Char) : List Char × List Char :=
  let inBrackets := if text.head? = some '[' then text.takeWhile (· ≠ ']') else []
  let host := inBrackets ++ (text.drop inBrackets.length).takeWhile (· ≠ ':')
  (host, (text.drop host.length).drop 1)

def withoutUser (text : List Char) : List Char :=
  (text.reverse.takeWhile (· ≠ '@')).reverse

def authority? (scheme : String) (text : List Char) : Option (Host × Option Nat) := do
  let (host, digits) := splitNumber (withoutUser text)
  if host.isEmpty ∧ (isNetwork scheme ∨ text ≠ []) then none
  let host ← if isNetwork scheme then Host.ofAddress? host else Host.ofOpaque? host
  return (host, ← readNumber? scheme digits)

def withAuthority? (scheme : String) (text : List Char) : Option Url := do
  let authority := text.takeWhile (· ≠ '/')
  let (host, number?) ← authority? scheme authority
  let path := text.drop authority.length
  return {
    scheme, host? := some host, number?
    path := if path.isEmpty ∧ !isNetwork scheme then "" else normalPath (path.drop 1) }

def file? : List Char → Option Url
  | '/' :: '/' :: text => do
    let machine := text.takeWhile (· ≠ '/')
    let host ← if machine.isEmpty then some (.name "") else Host.ofAddress? machine
    return {
      scheme := "file"
      host? := some (if host = .name "localhost" then .name "" else host)
      path := normalPath ((text.drop machine.length).drop 1) }
  | text =>
    some {
      scheme := "file", host? := some (.name "")
      path := normalPath (if text.head? = some '/' then text.drop 1 else text) }

def ofParts? (scheme : String) (text : List Char) : Option Url :=
  let slashed := text.map fun c => if c = '\\' then '/' else c
  if isNetwork scheme then withAuthority? scheme (slashed.dropWhile (· = '/'))
  else if scheme = "file" then file? slashed
  else
    match text with
    | '/' :: '/' :: rest => withAuthority? scheme rest
    | '/' :: rest => some { scheme, path := normalPath rest }
    | text => some { scheme, path := .ofList (percentEncoded [] text) }

def encoded (reserved text : List Char) : String := .ofList (percentEncoded reserved text)

def read? (text : String) : Option Url := do
  let (scheme, text) ← splitScheme? (cleaned text.toList)
  let (text, fragment?) := splitFirst '#' text
  let (text, query?) := splitFirst '?' text
  let url ← ofParts? scheme text
  return { url with
    query? := query?.map (encoded (queryReserved scheme))
    fragment? := fragment?.map (encoded fragmentReserved) }

end PythonDocs.Url
