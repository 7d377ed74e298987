import PythonDocs.Url.Host

namespace PythonDocs

structure Url where
  scheme : String
  host? : Option Host := none
  /-- The number behind the host, unless it is the usual one of the scheme. -/
  number? : Option Nat := none
  path : String
  query? : Option String := none
  fragment? : Option String := none
  deriving DecidableEq, Repr

namespace Url

def usualNumbers : List (String × Nat) :=
  [("http", 80), ("https", 443), ("ftp", 21), ("ws", 80), ("wss", 443)]

def isNetwork (scheme : String) : Bool := (usualNumbers.lookup scheme).isSome

def hasHost (url : Url) : Bool :=
  match url.host? with
  | none => false
  | some host => host ≠ .name ""

def target (url : Url) : String :=
  url.path ++ (url.query?.map ("?" ++ ·)).getD ""

def authority (url : Url) : String :=
  match url.host? with
  | some host => "//" ++ host.text ++ (url.number?.map (":" ++ toString ·)).getD ""
  | none => if "//".toList.isPrefixOf url.path.toList then "/." else ""

def text (url : Url) : String :=
  url.scheme ++ ":" ++ url.authority ++ url.target ++ (url.fragment?.map ("#" ++ ·)).getD ""

end Url

end PythonDocs
