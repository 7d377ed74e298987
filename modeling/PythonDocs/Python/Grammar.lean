import PythonDocs.Python.Rule

namespace PythonDocs.Python

open Rule

namespace Grammar

def comma : Rule := mark .comma

def colon : Rule := mark .colon

def name : Rule := .token .identifier

def softName : Rule := .either name (words [.print, .exec, .async, .await, .type, .match])

def expression : Rule := .part .expression

def numbers : Rule := .either (.token .integer) (.token .float)

def strings : Rule := many1 (.part .string)

def binaryOperator : Rule :=
  .either
    (marks [.plus, .minus, .star, .slash, .floor, .percent, .power, .at, .bar, .ampersand, .caret,
      .leftShift, .rightShift, .less, .lessEqual, .equal, .notEqual, .greaterEqual, .greater,
      .unequal])
    (any [word .in, all [word .not, word .in], all [word .is, maybe (word .not)]])

def augmentedAssign : Rule :=
  marks [.plusAssign, .minusAssign, .starAssign, .slashAssign, .atAssign, .floorAssign,
    .percentAssign, .powerAssign, .rightShiftAssign, .leftShiftAssign, .andAssign, .xorAssign,
    .orAssign]

def starredElement : Rule := .tree .starred (all [mark .star, expression])

def elements : Rule :=
  .either
    (all [expression, .either (.part .comprehension) (.part .moreElements)])
    (all [.either (.part .yield) starredElement, .part .moreElements])

def entries : Rule :=
  any [
    all [expression, any [
      all [colon, expression, .either (.part .comprehension) (.part .moreEntries)],
      .part .comprehension,
      .part .moreElements]],
    all [mark .power, expression, .part .moreEntries],
    all [.either (.part .yield) starredElement, .part .moreElements],
    comma]

def markedArgument : Rule :=
  any [
    all [.either (mark .star) (mark .power), expression],
    all [softName, mark .assign, expression]]

def arguments : Rule :=
  any [
    comma,
    all [expression, .either (.part .comprehension) (.part .moreArguments)],
    all [markedArgument, .part .moreArguments]]

def lambdaHead : Rule :=
  all [word .lambda, maybe (list (.part .lambdaParameter)), colon]

def walrus : Rule := all [softName, mark .walrus]

def iteration : Rule :=
  all [maybe (word .async), word .for, .part .targets, word .in,
    list (.part .source)]

def parameters : Rule :=
  .tree .parameters (between .leftParen (maybe (list (.part .parameter))) .rightParen)

def importGroup : Rule :=
  .either (.part .importList) (between .leftParen (.part .importList) .rightParen)

def colonSuite : Rule := all [colon, .part .suite]

def finallyClause : Rule := .tree .clause (all [word .finally, colonSuite])

def maybeElse : Rule := maybe (.part .elseClause)

def importStatement : Rule :=
  any [
    .tree .importNames (all [word .import, .part .importList]),
    .tree .importFrom (all [word .from,
      .either (.part .dottedName)
        (.tree .relative (all [many1 (mark .dot), maybe (.part .dottedName)])),
      word .import, .either (mark .star) importGroup]),
    .tree .importFuture (all [word .from, word .future, word .import, importGroup])]

def printStatement : Rule :=
  all [word .print, .either
    (all [mark .rightShift, expression, more expression])
    (list expression)]

def wordStatement : Rule :=
  any [
    printStatement,
    all [word .assert, separated expression .comma],
    all [word .return, maybe (.part .expressions)],
    all [word .del, .part .expressions],
    all [word .raise, maybe (.part .expressions),
      maybe (all [word .from, expression])],
    words [.pass, .break, .continue],
    all [words [.global, .nonlocal], separated name .comma],
    all [word .exec, .either (.part .string) name,
      maybe (all [word .in, separated expression .comma])],
    all [word .type, .part .type, mark .assign, .part .type]]

def expressionStatement : Rule :=
  .either (.part .yield)
    (all [.part .expressions, .require .unmatched,
      maybe (all [.require .target, .part .assignment])])

def tryStatement : Rule :=
  .tree .clause (all [word .try, colonSuite, any [
    all [many1 (.part .exceptClause), maybeElse, maybe finallyClause],
    all [many1 (.part .exceptGroup), maybeElse, maybe finallyClause],
    finallyClause]])

def matchStatement : Rule :=
  .tree .clause (all [word .match, list expression, colon,
    .tree .block (.either
      (all [.token .indent, .many (.part .caseClause), .token .dedent])
      (.token .newline))])

def compoundStatement : Rule :=
  any [
    .tree .clause (all [word .if, expression, colonSuite,
      .many (.tree .clause (all [word .elif, expression, colonSuite])), maybeElse]),
    .tree .clause (all [maybe (word .async), word .for, .part .targets, word .in,
      .part .expressions, colonSuite, maybeElse]),
    .tree .clause (all [word .while, expression, colonSuite, maybeElse]),
    tryStatement,
    .tree .clause (all [maybe (word .async), word .with, list expression, colonSuite]),
    matchStatement,
    .part .functionDef,
    .part .classDef,
    .tree .decorated (all [many1 (.part .decorator),
      .either (.part .functionDef) (.part .classDef)])]

def rule : Category → Rule
  | .statement => .either (.part .simpleLine) compoundStatement
  | .simpleStatement =>
    .either importStatement (.tree .statement (.either wordStatement expressionStatement))
  | .simpleLine =>
    all [separated (.part .simpleStatement) .semicolon, maybe (mark .semicolon),
      .token .newline]
  | .suite =>
    any [
      .tree .block (.part .simpleLine),
      all [.token .indent, .tree .block (all [.many (.part .statement), .token .dedent])],
      .tree .block (.token .newline)]
  | .elseClause => .tree .clause (all [word .else, colonSuite])
  | .dottedName => .tree .dottedName (separated name .dot)
  | .importList => list (all [.part .dottedName, maybe (all [word .as, name])])
  | .expressions => .tree .operands (list expression)
  | .targets => all [.tree .operands (list (.part .primary)), .require .target]
  | .expression => .tree .expression (all [.part .operand, .many (.part .tail)])
  | .operand =>
    any [
      all [word .not, .part .operand],
      all [lambdaHead, .part .operand],
      all [walrus, .part .operand],
      .part .arithmetic]
  | .tail =>
    any [
      all [words [.and, .or, .as], .part .operand],
      all [word .if, expression, word .else, .part .operand]]
  | .arithmetic =>
    separatedBy binaryOperator
      (all [.many (.either (marks [.plus, .minus, .tilde]) (word .await)), .part .primary])
  | .primary =>
    .tree .primary (.either
      (all [.part .atom, .many (.part .trailer)])
      (all [word .await,
        maybe (all [.tree .member (all [mark .dot, name]), .many (.part .trailer)])]))
  | .atom =>
    any [
      name,
      words [.print, .exec, .async, .type, .match, .truth, .falsity, .none],
      numbers,
      mark .ellipsis,
      strings,
      .tree .group (between .leftParen (maybe elements) .rightParen),
      .tree .group (between .leftBracket (maybe elements) .rightBracket),
      between .leftBrace (maybe entries) .rightBrace,
      .part .starredName]
  | .trailer =>
    any [
      .tree .member (all [mark .dot, name]),
      .tree .member (between .leftBracket (.part .subscripts) .rightBracket),
      .tree .call (between .leftParen (maybe arguments) .rightParen)]
  | .yield =>
    all [word .yield,
      maybe (.either (all [word .from, expression]) (.part .expressions))]
  | .element => any [expression, .part .yield, starredElement]
  | .moreElements => more (.part .element)
  | .entry => .either (all [expression, colon, expression]) (all [mark .power, expression])
  | .moreEntries => more (.part .entry)
  | .argument => .either expression markedArgument
  | .moreArguments => more (.part .argument)
  | .subscripts =>
    list (.either (all [expression, maybe (.part .slice)]) (.part .slice))
  | .slice =>
    all [colon, maybe expression, maybe (all [colon, maybe expression])]
  | .assignment =>
    any [
      all [.either (mark .assign) augmentedAssign, .part .value],
      all [colon, .part .type, maybe (all [mark .assign, .part .value])]]
  | .value =>
    .either (.part .yield)
      (all [.part .expressions, maybe (all [.require .target, .part .assignment])])
  | .comprehension =>
    .tree .comprehension
      (all [iteration, .many (.either iteration (all [word .if, .part .filterExpression]))])
  | .filterExpression =>
    .tree .expression (all [.part .filterOperand, .many (.part .filterTail)])
  | .filterOperand =>
    any [
      all [word .not, .part .filterOperand],
      all [lambdaHead, expression],
      all [walrus, .part .filterOperand],
      .part .arithmetic]
  | .filterTail => all [words [.and, .or, .as], .part .filterOperand]
  | .source =>
    .either
      (all [lambdaHead, .part .source])
      (.tree .expression (all [
        any [
          all [word .not, .part .filterOperand],
          all [walrus, .part .filterOperand],
          .part .arithmetic],
        .many (.part .filterTail)]))
  | .string =>
    all [
      .token .stringStart,
      .many (any [.token .stringContent, .token .doubledBrace, .token .escape,
        .token .backslash, .part .interpolation]),
      .token .stringEnd]
  | .interpolation =>
    between .leftBrace
      (all [
        .either (.part .expressions) (.part .yield),
        maybe (mark .assign),
        maybe (.token .conversion),
        maybe (all [colon, .many (.either (.token .formatText) (.part .interpolation))])])
      .rightBrace
  | .lambdaParameter =>
    any [
      name,
      .tree .defaulted (all [.either name (.part .tupleTarget), mark .assign, expression]),
      .part .starredName,
      .part .starredNames,
      .part .tupleTarget,
      marks [.star, .slash]]
  | .parameter =>
    any [
      .part .lambdaParameter,
      .tree .typed (all [
        any [name, .part .starredName, .part .starredNames], colon, .part .type]),
      .tree .defaulted (all [name, colon, .part .type, mark .assign, expression])]
  | .tupleTarget =>
    all [
      .tree .group (between .leftParen (maybe (list (.part .primary))) .rightParen),
      .require .target]
  | .starredName =>
    .tree .starred (all [mark .star, .part .primary, .require .place])
  | .starredNames =>
    .tree .starred (all [mark .power, .part .primary, .require .place])
  | .typeArguments => between .leftBracket (list (.part .type)) .rightBracket
  | .type =>
    all [.part .typeAtom, .many (.either
      (all [.either (mark .bar) colon, .part .typeAtom])
      (all [mark .dot, name]))]
  | .typeAtom =>
    any [
      expression,
      all [.either (mark .star) (mark .power), name],
      all [name, .part .typeArguments]]
  | .exceptClause =>
    .tree .clause (all [word .except,
      maybe (all [expression, maybe (all [comma, expression])]), colonSuite])
  | .exceptGroup => .tree .clause (all [mark .exceptStar, expression, colonSuite])
  | .caseClause =>
    .tree .clause (all [word .case, list (.part .casePattern),
      maybe (all [word .if, expression]), colonSuite])
  | .casePattern =>
    all [
      .either (all [name, mark .assign, .part .simplePattern]) (.part .simplePattern),
      .many (all [word .as, name])]
  | .simplePattern => separatedBy (mark .bar) (.part .patternAtom)
  | .patternAtom =>
    any [
      all [.part .dottedName,
        maybe (between .leftParen (.part .patternList) .rightParen)],
      .part .starPattern,
      between .leftBracket (.part .patternList) .rightBracket,
      between .leftParen (.part .patternList) .rightParen,
      between .leftBrace
        (maybe (list (.either
          (all [.part .simplePattern, colon, .part .casePattern])
          (.part .starPattern))))
        .rightBrace,
      strings,
      words [.truth, .falsity, .none, .underscore],
      all [maybe (mark .minus), numbers,
        maybe (all [.either (mark .plus) (mark .minus), numbers])]]
  | .patternList => maybe (list (.part .casePattern))
  | .starPattern =>
    all [.either (mark .star) (mark .power), .either name (word .underscore)]
  | .decorator => all [mark .at, expression, .token .newline]
  | .classDef =>
    .tree .classDef (all [word .class, name, maybe (.part .typeArguments),
      maybe (between .leftParen
        (maybe (.either comma (all [.part .argument, .part .moreArguments])))
        .rightParen),
      colonSuite])
  | .functionDef =>
    .tree .functionDef (all [maybe (word .async), word .define, name,
      maybe (.part .typeArguments), parameters,
      maybe (all [mark .arrow, .tree .resultType (.part .type)]), colonSuite])

def moduleRule : Rule := .many (.part .statement)

end Grammar

end PythonDocs.Python
