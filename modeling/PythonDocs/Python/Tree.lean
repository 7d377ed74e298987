import PythonDocs.Python.Terminal

namespace PythonDocs.Python

inductive Kind
  | module | statement | clause | block
  | importNames | importFrom | importFuture | dottedName | relative
  | classDef | functionDef | decorated
  | parameters | typed | defaulted | starred | resultType
  | operands | expression | primary | member | call | group | comprehension
  deriving DecidableEq, Repr

/-- Offsets count characters; a node ends where its last leaf ends. -/
inductive Tree
  | leaf (terminal : Terminal) (start : Nat) (text : List Char)
  | node (kind : Kind) (start stop : Nat) (children : List Tree)
  deriving Repr

namespace Tree

def start : Tree → Nat
  | .leaf _ start _ | .node _ start _ _ => start

def stop : Tree → Nat
  | .leaf _ start text => start + text.length
  | .node _ _ stop _ => stop

def isTrivia : Tree → Bool
  | .leaf terminal _ _ => terminal.isTrivia
  | .node .. => false

def isNode (kind : Kind) : Tree → Bool
  | .leaf .. => false
  | .node own _ _ _ => own = kind

def isToken (terminal : Terminal) : Tree → Bool
  | .leaf own _ _ => own = terminal
  | .node .. => false

def children : Tree → List Tree
  | .leaf .. => []
  | .node _ _ _ children => children

def parts (tree : Tree) : List Tree :=
  tree.children.filter fun child => !child.isTrivia

def ofChildren (kind : Kind) (empty : Nat) (children : List Tree) : Tree :=
  .node kind ((children.head?.map start).getD empty) ((children.getLast?.map stop).getD empty)
    children

mutual

def terminals : Tree → List Terminal
  | .leaf terminal _ _ => if terminal.isTrivia then [] else [terminal]
  | .node _ _ _ children => terminalsOf children

def terminalsOf : List Tree → List Terminal
  | [] => []
  | child :: rest => child.terminals ++ terminalsOf rest

end

def isPlace (tree : Tree) : Bool :=
  match tree.parts with
  | [.leaf terminal _ _] => terminal.isName
  | parts => (parts.getLast?.map (isNode .member)).getD false

def isStarredPlace (tree : Tree) : Bool :=
  match tree.parts with
  | [child] => tree.isPlace || child.isPlace
  | _ => tree.isPlace

def isListMark : Terminal → Bool
  | .symbol mark =>
    [Symbol.leftParen, .rightParen, .leftBracket, .rightBracket, .comma].contains mark
  | _ => false

mutual

def isTarget : Tree → Bool
  | .leaf terminal _ _ => terminal.isName || terminal.isTrivia || isListMark terminal
  | tree@(.node .primary _ _ children) => tree.isPlace || areTargets children
  | .node .starred _ _ children => (children.getLast?.map isStarredPlace).getD false
  | .node .operands _ _ children => areTargets children
  | .node .expression _ _ children => areTargets children
  | .node .group _ _ children => areTargets children
  | .node .. => false

def areTargets : List Tree → Bool
  | [] => true
  | child :: rest => child.isTarget && areTargets rest

end

end Tree

inductive Shape
  | target
  | place
  /-- Not the word `match` before a token that can start its subject. -/
  | unmatched
  deriving DecidableEq, Repr

def startsSubject : Terminal → Bool
  | .symbol mark => [Symbol.leftParen, .leftBracket, .plus, .minus, .star].contains mark
  | .keyword word => word = .not
  | _ => false

def Shape.holds : Shape → Tree → Bool
  | .target, tree => tree.isTarget
  | .place, tree => tree.isPlace
  | .unmatched, tree =>
    match tree.terminals with
    | .keyword .match :: next :: _ => !startsSubject next
    | _ => true

end PythonDocs.Python
