import PythonDocs.Python.Grammar
import PythonDocs.Python.Lexeme

namespace PythonDocs.Python

inductive Task
  | follow (rule : Rule)
  | close
  deriving DecidableEq, Repr

structure Frame where
  kind : Kind
  children : List Tree
  deriving Repr

/-- One reading of the text so far: what is left to do, the innermost open node, and the nodes
around it. -/
structure Thread where
  todo : List Task
  frame : Frame
  outer : List Frame
  deriving Repr

namespace Thread

def push (thread : Thread) (tree : Tree) : Thread :=
  { thread with frame := { thread.frame with children := tree :: thread.frame.children } }

def last? (thread : Thread) : Option Tree :=
  thread.frame.children.find? fun child => !child.isTrivia

/-- Closes the innermost node. Comments behind its last token go to the node around it. -/
def close (thread : Thread) (todo : List Task) : Option Thread :=
  match thread.outer with
  | [] => none
  | frame :: outer =>
    let trailing := thread.frame.children.takeWhile Tree.isTrivia
    let children := thread.frame.children.dropWhile Tree.isTrivia
    let node := Tree.ofChildren thread.frame.kind 0 children.reverse
    some ⟨todo, { frame with children := trailing ++ node :: frame.children }, outer⟩

/-- The readings that are left once everything before the next terminal is done. -/
def expand : Nat → Thread → List Thread
  | 0, _ => []
  | fuel + 1, thread =>
    match thread.todo with
    | [] => [thread]
    | .close :: todo =>
      match thread.close todo with
      | some thread => expand fuel thread
      | none => []
    | .follow rule :: todo =>
      match rule with
      | .token _ => [thread]
      | .empty => expand fuel { thread with todo }
      | .part category =>
        expand fuel { thread with todo := .follow (Grammar.rule category) :: todo }
      | .both first second =>
        expand fuel { thread with todo := .follow first :: .follow second :: todo }
      | .either first second =>
        expand fuel { thread with todo := .follow first :: todo }
          ++ expand fuel { thread with todo := .follow second :: todo }
      | .many rule =>
        expand fuel { thread with todo := .follow rule :: .follow (.many rule) :: todo }
          ++ expand fuel { thread with todo }
      | .tree kind rule =>
        expand fuel ⟨.follow rule :: .close :: todo, ⟨kind, []⟩, thread.frame :: thread.outer⟩
      | .require shape =>
        if (thread.last?.map shape.holds).getD false then expand fuel { thread with todo }
        else []

/-- Enough steps to get past every rule on the list. -/
def ready (thread : Thread) : List Thread :=
  thread.expand (200 * (thread.todo.length + 1))

def awaits : Thread → Terminal
  | ⟨.follow (.token terminal) :: _, _, _⟩ => terminal
  | _ => .endOfInput

def take? (terminal : Terminal) (leaf : Tree) (thread : Thread) : Option Thread :=
  match thread.todo with
  | .follow (.token own) :: todo =>
    if own = terminal then some (({ thread with todo } : Thread).push leaf) else none
  | _ => none

def statementStart? (thread : Thread) : Option Nat :=
  go (thread.frame :: thread.outer)
where
  go : List Frame → Option Nat
    | [] => none
    | frame :: outer =>
      match frame.kind, frame.children.getLast? with
      | .block, _ | .module, _ => none
      | .statement, some first | .clause, some first | .importNames, some first
      | .importFrom, some first | .importFuture, some first | .classDef, some first
      | .functionDef, some first | .decorated, some first => some first.start
      | _, _ => go outer

end Thread

/-- Threads that have the same left to do, represented by the first of them. -/
def distinct : List Thread → List Thread
  | [] => []
  | thread :: rest => thread :: (distinct rest).filter (·.todo ≠ thread.todo)

structure Reader where
  threads : List Thread
  layout : Layout := {}
  offset : Nat := 0
  text : List Char

def Reader.start (text : List Char) : Reader :=
  { threads := [⟨[.follow Grammar.moduleRule], ⟨.module, []⟩, []⟩], text }

/-- The place of a syntax error: the statement being read, else the token that does not fit. -/
def Reader.failure (reader : Reader) : Nat :=
  (reader.threads.findSome? Thread.statementStart?).getD
    (reader.offset + (reader.text.takeWhile isGapChar).length)

/-- Reads token after token; ends with the children of the module or the place of an error. -/
def Reader.run : Nat → Reader → Except Nat (List Tree)
  | 0, reader => .error reader.failure
  | fuel + 1, reader =>
    let threads := reader.threads.flatMap Thread.ready
    let awaited := threads.map Thread.awaits
    match Lexeme.next? reader.layout awaited.contains reader.text with
    | none => .error reader.failure
    | some (lexeme, layout) =>
      let start := reader.offset + lexeme.skipped
      let leaf := Tree.leaf lexeme.terminal start lexeme.text
      let offset := start + lexeme.text.length
      if lexeme.terminal = .endOfInput then
        match threads.find? (·.todo.isEmpty) with
        | some thread => .ok thread.frame.children.reverse
        | none => .error reader.failure
      else if lexeme.terminal.isTrivia then
        run fuel ⟨reader.threads.map (·.push leaf), layout, offset, lexeme.rest⟩
      else
        match distinct (threads.filterMap (Thread.take? lexeme.terminal leaf)) with
        | [] => .error reader.failure
        | threads => run fuel ⟨threads, layout, offset, lexeme.rest⟩

def parse (source : List Char) : Except Nat (List Tree) :=
  Reader.run (8 * (source.length + 2)) (.start source)

end PythonDocs.Python
