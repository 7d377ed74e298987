namespace PythonDocs.Python

inductive Keyword
  | «and» | «as» | assert | async | await | «break» | «case» | «class» | «continue» | define | «del»
  | «elif» | «else» | except | exec | falsity | «finally» | «for» | «from» | future | global | «if»
  | «import» | «in» | «is» | lambda | «match» | none | nonlocal | not | or | pass | print | raise
  | «return» | truth | try | type | underscore | while | «with» | yield
  deriving DecidableEq, Repr

def Keyword.all : List (String × Keyword) :=
  [("and", .and), ("as", .as), ("assert", .assert), ("async", .async), ("await", .await),
   ("break", .break), ("case", .case), ("class", .class), ("continue", .continue), ("def", .define),
   ("del", .del), ("elif", .elif), ("else", .else), ("except", .except), ("exec", .exec),
   ("False", .falsity), ("finally", .finally), ("for", .for), ("from", .from),
   ("__future__", .future), ("global", .global), ("if", .if), ("import", .import), ("in", .in),
   ("is", .is), ("lambda", .lambda), ("match", .match), ("None", .none), ("nonlocal", .nonlocal),
   ("not", .not), ("or", .or), ("pass", .pass), ("print", .print), ("raise", .raise),
   ("return", .return), ("True", .truth), ("try", .try), ("type", .type), ("_", .underscore),
   ("while", .while), ("with", .with), ("yield", .yield)]

def keywordTexts : List (List Char × Keyword) :=
  Keyword.all.map fun entry => (entry.1.toList, entry.2)

def Keyword.ofText? (text : List Char) : Option Keyword :=
  keywordTexts.lookup text

inductive Symbol
  | leftParen | rightParen | leftBracket | rightBracket | leftBrace | rightBrace
  | comma | colon | semicolon | dot | ellipsis | arrow | «at» | exceptStar
  | assign | walrus | plusAssign | minusAssign | starAssign | slashAssign | atAssign
  | floorAssign | percentAssign | powerAssign | rightShiftAssign | leftShiftAssign
  | andAssign | xorAssign | orAssign
  | plus | minus | star | slash | floor | percent | power | tilde
  | bar | ampersand | caret | leftShift | rightShift
  | less | lessEqual | equal | notEqual | greaterEqual | greater | unequal
  deriving DecidableEq, Repr

def Symbol.all : List (String × Symbol) :=
  [("(", .leftParen), (")", .rightParen), ("[", .leftBracket), ("]", .rightBracket),
   ("\x7b", .leftBrace), ("\x7d", .rightBrace), (",", .comma), (":", .colon), (";", .semicolon),
   (".", .dot), ("...", .ellipsis), ("->", .arrow), ("@", .at), ("except*", .exceptStar),
   ("=", .assign), (":=", .walrus), ("+=", .plusAssign), ("-=", .minusAssign),
   ("*=", .starAssign), ("/=", .slashAssign), ("@=", .atAssign), ("//=", .floorAssign),
   ("%=", .percentAssign), ("**=", .powerAssign), (">>=", .rightShiftAssign),
   ("<<=", .leftShiftAssign), ("&=", .andAssign), ("^=", .xorAssign), ("|=", .orAssign),
   ("+", .plus), ("-", .minus), ("*", .star), ("/", .slash), ("//", .floor), ("%", .percent),
   ("**", .power), ("~", .tilde), ("|", .bar), ("&", .ampersand), ("^", .caret),
   ("<<", .leftShift), (">>", .rightShift), ("<", .less), ("<=", .lessEqual), ("==", .equal),
   ("!=", .notEqual), (">=", .greaterEqual), (">", .greater), ("<>", .unequal)]

def symbolTexts : List (List Char × Symbol) :=
  Symbol.all.map fun entry => (entry.1.toList, entry.2)

inductive Terminal
  | keyword (word : Keyword)
  | symbol (mark : Symbol)
  | identifier | integer | float
  | stringStart | stringEnd | stringContent
  | doubledBrace
  | escape
  | backslash
  | conversion | formatText
  | newline | indent | dedent | endOfInput
  | comment
  | continuation
  deriving DecidableEq, Repr

def Terminal.isTrivia : Terminal → Bool
  | .comment | .continuation => true
  | _ => false

def Terminal.isName : Terminal → Bool
  | .identifier => true
  | .keyword word => [Keyword.print, .exec, .async, .await, .type, .match].contains word
  | _ => false

end PythonDocs.Python
