import PythonDocs.Python.Tree

namespace PythonDocs.Python

inductive Category
  | statement | simpleStatement | simpleLine | suite | elseClause
  | dottedName | importList
  | expressions | targets | expression | operand | tail | arithmetic | primary | atom | trailer
  | «yield» | element | moreElements | entry | moreEntries | argument | moreArguments
  | subscripts | slice | assignment | value
  | comprehension | filterExpression | filterOperand | filterTail | source
  | string | interpolation | lambdaParameter | parameter | tupleTarget
  | starredName | starredNames
  | typeArguments | «type» | typeAtom
  | exceptClause | exceptGroup | caseClause | casePattern | simplePattern | patternAtom
  | patternList | starPattern | decorator | classDef | functionDef
  deriving DecidableEq, Repr

inductive Rule
  | empty
  | token (terminal : Terminal)
  | part (category : Category)
  | both (first second : Rule)
  | either (first second : Rule)
  | many (rule : Rule)
  | tree (kind : Kind) (rule : Rule)
  | require (shape : Shape)
  deriving DecidableEq, Repr

namespace Rule

def all : List Rule → Rule
  | [] => .empty
  | [rule] => rule
  | rule :: rest => .both rule (all rest)

def any : List Rule → Rule
  | [] => .empty
  | [rule] => rule
  | rule :: rest => .either rule (any rest)

def word (keyword : Keyword) : Rule := .token (.keyword keyword)

def mark (symbol : Symbol) : Rule := .token (.symbol symbol)

def words (keywords : List Keyword) : Rule := any (keywords.map word)

def marks (symbols : List Symbol) : Rule := any (symbols.map mark)

def maybe (rule : Rule) : Rule := .either rule .empty

def many1 (rule : Rule) : Rule := .both rule (.many rule)

def separatedBy (separator rule : Rule) : Rule :=
  .both rule (.many (.both separator rule))

def separated (rule : Rule) (separator : Symbol) : Rule :=
  separatedBy (mark separator) rule

def list (rule : Rule) : Rule :=
  .both (separated rule .comma) (maybe (mark .comma))

def more (rule : Rule) : Rule :=
  .both (.many (.both (mark .comma) rule)) (maybe (mark .comma))

def between (opening : Symbol) (rule : Rule) (closing : Symbol) : Rule :=
  all [mark opening, rule, mark closing]

end Rule

end PythonDocs.Python
