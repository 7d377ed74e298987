import PythonDocs.Python.Terminal

namespace PythonDocs.Python

structure Quote where
  mark : Char
  triple : Bool := false
  raw : Bool := false
  bytes : Bool := false
  formatted : Bool := false
  deriving DecidableEq, Repr

/-- The open blocks and strings, innermost first. A block is kept as the width of its indentation
modulo 256. -/
structure Layout where
  blocks : List Nat := []
  quotes : List Quote := []
  formatted : Bool := false
  deriving DecidableEq, Repr

def Layout.width (layout : Layout) : Nat := layout.blocks.headD 0

/-- A terminal behind `skipped` characters of the text, and what follows it. -/
structure Lexeme where
  skipped : Nat
  terminal : Terminal
  text : List Char
  rest : List Char
  deriving Repr

def isBrace (c : Char) : Bool := c == '\x7b' || c == '\x7d'

/-- The lengths of the next piece of a string: its contents, or its end mark. -/
inductive StringPiece
  | content (length : Nat)
  | close (length : Nat)
  | nothing
  deriving DecidableEq, Repr

/-- One character of a text, with what a backslash in a raw string takes along: the quote or
backslash after it, and then the end of a line. -/
def rawEscape (quote : Quote) (rest : List Char) : Nat :=
  let (taken, rest) := match rest with
    | c :: more => if c = quote.mark ∨ c = '\\' then (2, more) else (1, rest)
    | [] => (1, rest)
  match rest with
  | '\r' :: '\n' :: _ => taken + 2
  | '\r' :: _ | '\n' :: _ => taken + 1
  | _ => taken

/-- Reads on in a string of which `length` characters are read; `content` says that they are not
only escapes of a raw string. The fuel bounds the characters left. -/
def stringPiece (quote : Quote) : Nat → Nat → Bool → List Char → StringPiece
  | 0, _, _, _ => .nothing
  | _, _, _, [] => .nothing
  | fuel + 1, length, content, c :: rest =>
    let held := if content then StringPiece.content length else .nothing
    if c = '\x00' then .nothing
    else if isBrace c && quote.formatted then held
    else if c = '\\' then
      if quote.raw then
        let taken := rawEscape quote rest
        stringPiece quote fuel (length + taken) content (rest.drop (taken - 1))
      else
        match quote.bytes, rest with
        | true, next :: after :: more =>
          if next = 'N' ∨ next = 'u' ∨ next = 'U' then
            if after = '\x00' then .nothing
            else stringPiece quote fuel (length + 3) true more
          else held
        | true, [next] => if next = 'N' ∨ next = 'u' ∨ next = 'U' then .nothing else held
        | _, _ => held
    else if c = quote.mark then
      if quote.triple then
        match rest with
        | second :: third :: _ =>
          if second = quote.mark then
            if third = quote.mark then
              if content then .content length else .close (length + 3)
            else .content (length + 2)
          else .content (length + 1)
        | [second] => .content (if second = quote.mark then length + 2 else length + 1)
        | [] => .content (length + 1)
      else if content then .content length
      else .close (length + 1)
    else if c = '\n' && content && !quote.triple then .nothing
    else stringPiece quote fuel (length + 1) true rest

/-- What lies between two tokens: whether a line ended, the indentation since, and the indentation
of the first comment on a line of its own. -/
structure Gap where
  ended : Bool := false
  indentation : Nat := 0
  comment : Option Nat := none
  deriving DecidableEq, Repr

/-- Skips blanks and continued lines, and whole comment lines where `marks` are possible. Finds
nothing before a comment at the end of a line and before a stray backslash. -/
def Gap.skip (marks : Bool) : Gap → Bool → List Char → Option (Gap × List Char)
  | gap, _, [] => some ({ gap with ended := true, indentation := 0 }, [])
  | gap, true, c :: rest =>
    if c = '\n' ∨ c = '\x00' then skip marks { gap with indentation := 0 } false rest
    else skip marks gap true rest
  | gap, false, '\n' :: rest => skip marks { gap with ended := true, indentation := 0 } false rest
  | gap, false, ' ' :: rest =>
    skip marks { gap with indentation := gap.indentation + 1 } false rest
  | gap, false, '\t' :: rest =>
    skip marks { gap with indentation := gap.indentation + 8 } false rest
  | gap, false, '\r' :: rest => skip marks { gap with indentation := 0 } false rest
  | gap, false, '\x0c' :: rest => skip marks { gap with indentation := 0 } false rest
  | gap, false, '\\' :: '\r' :: '\n' :: rest => skip marks gap false rest
  | gap, false, '\\' :: '\n' :: rest => skip marks gap false rest
  | gap, false, ['\\', '\r'] | gap, false, ['\\'] =>
    some ({ gap with ended := true, indentation := 0 }, [])
  | _, false, '\\' :: _ => none
  | gap, false, '#' :: rest =>
    if marks then
      if gap.ended then
        skip marks { gap with comment := gap.comment.getD gap.indentation } true rest
      else none
    else some (gap, '#' :: rest)
  | gap, false, rest => some (gap, rest)

def Quote.letters : Quote → List Char → Quote × List Char
  | quote, c :: rest =>
    if c = 'f' ∨ c = 'F' then letters { quote with formatted := true } rest
    else if c = 'r' ∨ c = 'R' then letters { quote with raw := true } rest
    else if c = 'b' ∨ c = 'B' then letters { quote with bytes := true } rest
    else if c = 'u' ∨ c = 'U' then letters quote rest
    else (quote, c :: rest)
  | quote, [] => (quote, [])

def isQuotationMark (c : Char) : Bool := c == '"' || c == '\'' || c == '`'

def Quote.opening? (text : List Char) : Option (Quote × List Char) :=
  match Quote.letters { mark := ' ' } text with
  | (quote, c :: rest) =>
    if !isQuotationMark c then none
    else if c ≠ '`' ∧ rest.take 2 = [c, c] then
      some ({ quote with mark := c, triple := true }, rest.drop 2)
    else some ({ quote with mark := c }, rest)
  | (_, []) => none

namespace Layout

/-- The next piece of an open string: `none` if no string is read here. -/
def string? (layout : Layout) (possible : Terminal → Bool) (text : List Char) :
    Option (Option (Lexeme × Layout)) :=
  match layout.quotes with
  | [] => none
  | quote :: outer =>
    let doubled := match text with
      | c :: next :: _ => isBrace c && next == c
      | _ => false
    if possible .doubledBrace && quote.formatted && (text.head?.map isBrace).getD false then
      if doubled then some (some (⟨0, .doubledBrace, text.take 2, text.drop 2⟩, layout))
      else some none
    else if possible .stringContent then
      some <| match stringPiece quote (text.length + 1) 0 false text with
        | .content length =>
          some (⟨0, .stringContent, text.take length, text.drop length⟩, layout)
        | .close length =>
          some (⟨0, .stringEnd, text.take length, text.drop length⟩,
            { layout with quotes := outer, formatted := false })
        | .nothing => none
    else none

def mark? (layout : Layout) (possible : Terminal → Bool) (gap : Gap) (rest : List Char) :
    Option (Terminal × Layout) :=
  let bracketed := possible (.symbol .rightParen) || possible (.symbol .rightBracket)
    || possible (.symbol .rightBrace)
  let quoted := possible .stringStart && (rest.head?.map isQuotationMark).getD false
  if !gap.ended then none
  else if possible .indent && gap.indentation > layout.width then
    some (.indent, { layout with blocks := gap.indentation % 256 :: layout.blocks })
  else if (possible .dedent || (!possible .newline && !quoted && !bracketed))
      && gap.indentation < layout.width && !layout.formatted
      && (gap.comment.all (· < layout.width)) then
    some (.dedent, { layout with blocks := layout.blocks.tail })
  else if possible .newline then some (.newline, layout)
  else none

/-- The mark of layout at the start of `text`, if one is there. Ends of lines and edges of blocks
have no width. -/
def next? (layout : Layout) (possible : Terminal → Bool) (text : List Char) :
    Option (Lexeme × Layout) :=
  match layout.string? possible text with
  | some found => found
  | none =>
    let marks := [Terminal.indent, .dedent, .newline, .keyword .except].any possible
    match Gap.skip marks {} false text with
    | none => none
    | some (gap, rest) =>
      match layout.mark? possible gap rest with
      | some (terminal, layout) => some (⟨0, terminal, [], text⟩, layout)
      | none =>
        if gap.comment.isNone && possible .stringStart then
          (Quote.opening? rest).map fun (quote, after) =>
            (⟨text.length - rest.length, .stringStart, rest.take (rest.length - after.length),
              after⟩,
              { layout with quotes := quote :: layout.quotes, formatted := quote.formatted })
        else none

end Layout

end PythonDocs.Python
