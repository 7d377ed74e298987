namespace PythonDocs

namespace Glob

inductive Token
  | char (c : Char)
  | anyChar
  | sequence
  | directories
  /-- One character inside one of the ranges, or outside of all of them. -/
  | within (inside : Bool) (ranges : List (Char × Char))
  deriving DecidableEq, Repr

inductive Problem
  | range (position : Nat)
  | tooManyStars (position : Nat)
  | partOfComponent (position : Nat)
  deriving DecidableEq, Repr

def Problem.message (problem : Problem) : String :=
  let (position, text) : Nat × String := match problem with
    | .range position => (position, "invalid range pattern")
    | .tooManyStars position =>
      (position, "wildcards are either regular `*` or recursive `**`")
    | .partOfComponent position =>
      (position, "recursive wildcards must form a single path component")
  "Pattern syntax error near position " ++ toString position ++ ": " ++ text

def ranges : List Char → List (Char × Char)
  | low :: '-' :: high :: rest => (low, high) :: ranges rest
  | c :: rest => (c, c) :: ranges rest
  | [] => []

/-- The class behind an opening bracket, and the characters that it takes with its closing one. -/
def class? (text : List Char) : Option (Token × Nat) :=
  let (inside, body) := match text with
    | '!' :: rest => (false, rest)
    | rest => (true, rest)
  match body with
  | [] => none
  | first :: rest =>
    let more := rest.takeWhile (· ≠ ']')
    if more.length = rest.length then none
    else
      some (.within inside (ranges (first :: more)),
        more.length + 2 + if inside then 0 else 1)

/-- The tokens of a pattern from a position, with the character before it. The fuel bounds the
characters left. -/
def tokens : Nat → Nat → Option Char → List Char → Except Problem (List Token)
  | _, _, _, [] => .ok []
  | 0, _, _, _ => .ok []
  | fuel + 1, position, before, c :: rest =>
    if c = '?' then do
      return .anyChar :: (← tokens fuel (position + 1) (some c) rest)
    else if c = '*' then
      let stars := (rest.takeWhile (· = '*')).length + 1
      if 2 < stars then .error (.tooManyStars (position + 2))
      else if stars = 2 then
        if before = none ∨ before = some '/' then
          match rest.drop 1 with
          | [] => .ok [.directories]
          | '/' :: rest => do
            return .directories :: (← tokens fuel (position + 3) (some '/') rest)
          | _ => .error (.partOfComponent (position + 2))
        else .error (.partOfComponent (position - 1))
      else do
        return .sequence :: (← tokens fuel (position + 1) (some c) rest)
    else if c = '[' then
      match class? rest with
      | none => .error (.range position)
      | some (token, taken) => do
        return token :: (← tokens fuel (position + 1 + taken) (some ']') (rest.drop taken))
    else do
      return .char c :: (← tokens fuel (position + 1) (some c) rest)

end Glob

abbrev Glob := List Glob.Token

namespace Glob

def ofText (text : String) : Except Problem Glob :=
  tokens text.length 0 none text.toList

def Token.accepts : Token → Char → Bool
  | .char own, c => own = c
  | .anyChar, _ => true
  | .within inside ranges, c => inside == ranges.any fun (low, high) => low ≤ c && c ≤ high
  | .sequence, _ | .directories, _ => false

def ends : List Char → List (List Char)
  | [] => [[]]
  | c :: rest => (c :: rest) :: ends rest

def endsAfterSlash : List Char → List (List Char)
  | [] => []
  | c :: rest => if c = '/' then rest :: endsAfterSlash rest else endsAfterSlash rest

def afterDirectories (text : List Char) : List (List Char) :=
  text :: endsAfterSlash text ++ [[]]

def matchesText : Glob → List Char → Bool
  | [], text => text.isEmpty
  | .sequence :: glob, text => (ends text).any (matchesText glob)
  | .directories :: glob, text => (afterDirectories text).any (matchesText glob)
  | token :: glob, c :: rest => token.accepts c && matchesText glob rest
  | _ :: _, [] => false

def isMatch (glob : Glob) (path : String) : Bool := glob.matchesText path.toList

end Glob

end PythonDocs
