import PythonDocs.Toml.Scalar

namespace PythonDocs.Toml

/-- Nesting and dotted keys must stay below this depth. -/
def depthLimit : Nat := 80

abbrev Entries := List (Key × Item)

structure Table where
  entries : Entries := []
  span : Option Span := none
  origin : Origin := .header
  deriving Repr

def Table.item (table : Table) : Item := .table table.entries table.span table.origin

namespace Entries

def get? (name : String) : Entries → Option Item
  | [] => none
  | (key, item) :: rest => if key.name = name then some item else get? name rest

def erase (name : String) (entries : Entries) : Entries :=
  entries.filter fun (key, _) => key.name ≠ name

def put (key : Key) (item : Item) : Entries → Entries
  | [] => [(key, item)]
  | (other, kept) :: rest =>
    if other.name = key.name then (other, item) :: rest
    else (other, kept) :: put key item rest

end Entries

/-- Works on the table at a path, and makes the tables on the way. Dotted keys cannot enter a table
with a header, and nothing enters a value. -/
def Table.update {α : Type} (dotted : Bool) (change : Table → Option (α × Table)) :
    List Key → Table → Option (α × Table)
  | [], table => change table
  | key :: path, table =>
    let enter (inner : Table) (wrap : Table → Item) : Option (α × Table) :=
      (update dotted change path inner).map fun (found, inner) =>
        (found, { table with entries := Entries.put key (wrap inner) table.entries })
    match Entries.get? key.name table.entries with
    | none => enter { origin := if dotted then .dotted else .implied } Table.item
    | some (.table entries span origin) =>
      if origin = .inline ∨ (dotted ∧ origin = .header) then none
      else enter { entries, span, origin } Table.item
    | some (.array items span true) =>
      match items.getLast? with
      | some (.table entries inner origin) =>
        if dotted ∧ origin = .header then
          none
        else
          enter { entries, span := inner, origin } fun last =>
            .array (items.dropLast ++ [last.item]) span true
      | _ => none
    | some _ => none

def Table.insert (path : List Key) (key : Key) (item : Item) (table : Table) : Option Table :=
  (Table.update true
    (fun target =>
      if (path ≠ [] ∧ target.origin ≠ .dotted)
          ∨ (Entries.get? key.name target.entries).isSome then none
      else some ((), { target with entries := target.entries ++ [(key, item)] }))
    path table).map Prod.snd

def spanOf (total : Nat) (before after : List Char) : Span :=
  ⟨total - before.length, total - after.length⟩

/-- A dotted key, with blanks around its parts. The fuel bounds the parts. -/
def keyPath? (total : Nat) : Nat → List Char → Option (List Key × List Char)
  | 0, _ => none
  | fuel + 1, text => do
    let text := skipGap text
    let (name, rest) ← keyName? text
    let key : Key := ⟨.ofList name, spanOf total text rest⟩
    match skipGap rest with
    | '.' :: rest =>
      let (keys, rest) ← keyPath? total fuel rest
      return (key :: keys, rest)
    | rest => return ([key], rest)

def skipComment : List Char → Option (List Char)
  | '#' :: rest =>
    let rest := rest.dropWhile isPlain
    if rest = [] ∨ startsNewline rest then some rest else none
  | text => some text

def skipLines : Nat → List Char → Option (List Char)
  | 0, _ => none
  | fuel + 1, text => do
    let rest ← skipComment (skipGap text)
    if startsNewline rest then skipLines fuel (dropNewline rest) else some rest

mutual

/-- A value and the rest of the text. The fuel bounds the characters left. -/
def value? (total : Nat) : Nat → Nat → List Char → Option (Item × List Char)
  | 0, _, _ => none
  | fuel + 1, depth, text =>
    match text with
    | '[' :: rest =>
      if depth + 1 < depthLimit then do
        let rest ← skipLines (total + 1) rest
        let (items, rest) ← items? total fuel (depth + 1) rest
        return (.array items (some (spanOf total text rest)) false, rest)
      else none
    | '\x7b' :: rest =>
      if depth + 1 < depthLimit then do
        let (table, rest) ← match skipGap rest with
          | '\x7d' :: rest => some ({ origin := .inline }, rest)
          | rest => inline? total fuel (depth + 1) { origin := .inline } rest
        return (.table table.entries (some (spanOf total text rest)) .inline, rest)
      else none
    | _ =>
      if text.head? = some '"' ∨ text.head? = some '\'' then do
        let (string, rest) ← string? text
        return (.scalar (.string (.ofList string)) (spanOf total text rest), rest)
      else do
        let (scalar, rest) ← plainScalar? text
        return (.scalar scalar (spanOf total text rest), rest)

def items? (total : Nat) : Nat → Nat → List Char → Option (List Item × List Char)
  | 0, _, _ => none
  | fuel + 1, depth, text =>
    match text with
    | ']' :: rest => some ([], rest)
    | text => do
      let (item, rest) ← value? total fuel depth text
      let rest ← skipLines (total + 1) rest
      match rest with
      | ',' :: rest =>
        let rest ← skipLines (total + 1) rest
        let (items, rest) ← items? total fuel depth rest
        return (item :: items, rest)
      | ']' :: rest => return ([item], rest)
      | _ => none

def inline? (total : Nat) : Nat → Nat → Table → List Char → Option (Table × List Char)
  | 0, _, _, _ => none
  | fuel + 1, depth, table, text => do
    let (path, rest) ← keyPath? total depthLimit text
    let key ← path.getLast?
    let rest ← char? '=' rest
    let (item, rest) ← value? total fuel depth (skipGap rest)
    let table ← table.insert path.dropLast key item
    match skipGap rest with
    | ',' :: rest => inline? total fuel depth table rest
    | '\x7d' :: rest => return (table, rest)
    | _ => none

end

/-- A document being read: its tables so far, and the one that takes values now. -/
structure Document where
  root : Table := {}
  current : Table := {}
  path : List Key := []
  isArray : Bool := false

namespace Document

def finish (document : Document) : Option Table :=
  match document.path.getLast? with
  | none => some document.current
  | some key =>
    (Table.update false
      (fun parent =>
        match document.isArray, Entries.get? key.name parent.entries with
        | true, found =>
          let items? : Option (List Item) := match found with
            | none => some []
            | some (.array items _ true) => some items
            | some _ => none
          items?.map fun items =>
            let items := items ++ [document.current.item]
            let span? := do
              let first ← items.head?.bind Item.span?
              let last ← items.getLast?.bind Item.span?
              return (⟨first.start, last.stop⟩ : Span)
            ((), { parent with
              entries := Entries.put key (.array items span? true) parent.entries })
        | false, none =>
          some ((), { parent with entries := parent.entries ++ [(key, document.current.item)] })
        | false, some (.table _ _ origin) =>
          if origin = .implied ∨ origin = .dotted then
            some ((), { parent with
              entries := Entries.put key document.current.item parent.entries })
          else none
        | false, some _ => none)
      document.path.dropLast document.root).map Prod.snd

/-- Starts the table under a header; one that was made on the way to another is taken over. -/
def startTable (document : Document) (path : List Key) (span : Span) : Option Document := do
  let root ← document.finish
  let key ← path.getLast?
  let (entries, root) ← Table.update false
    (fun parent =>
      match Entries.get? key.name parent.entries with
      | none => some ([], parent)
      | some (.table entries _ .implied) =>
        some (entries, { parent with entries := Entries.erase key.name parent.entries })
      | some _ => none)
    path.dropLast root
  return { root, current := { entries, span := some span }, path }

def startArray (document : Document) (path : List Key) (span : Span) : Option Document := do
  let root ← document.finish
  let key ← path.getLast?
  let (_, root) ← Table.update false
    (fun parent =>
      match Entries.get? key.name parent.entries with
      | none =>
        some ((), { parent with entries := parent.entries ++ [(key, .array [] none true)] })
      | some (.array _ _ true) => some ((), parent)
      | some _ => none)
    path.dropLast root
  return { root, current := { span := some span }, path, isArray := true }

def insert (document : Document) (path : List Key) (item : Item) : Option Document := do
  let key ← path.getLast?
  let span := match document.current.span, item.span? with
    | some span, some last => some ⟨span.start, last.stop⟩
    | span, _ => span
  let current ← ({ document.current with span } : Table).insert path.dropLast key item
  return { document with current }

end Document

def endLine? (text : List Char) : Option (List Char) := do
  let rest ← skipComment (skipGap text)
  if rest = [] ∨ startsNewline rest then some (dropNewline rest) else none

def header? (total : Nat) (document : Document) (text : List Char) :
    Option (Document × List Char) :=
  match text with
  | '[' :: '[' :: rest => do
    let (path, rest) ← keyPath? total depthLimit rest
    let rest ← char? ']' rest
    let rest ← char? ']' rest
    let document ← document.startArray path (spanOf total text rest)
    return (document, ← endLine? rest)
  | '[' :: rest => do
    let (path, rest) ← keyPath? total depthLimit rest
    let rest ← char? ']' rest
    let document ← document.startTable path (spanOf total text rest)
    return (document, ← endLine? rest)
  | _ => none

def assignment? (total : Nat) (document : Document) (text : List Char) :
    Option (Document × List Char) := do
  let (path, rest) ← keyPath? total depthLimit text
  let rest ← char? '=' rest
  let (item, rest) ← value? total (total + 1) 0 (skipGap rest)
  let document ← document.insert path item
  return (document, ← endLine? rest)

def lines? (total : Nat) : Nat → Document → List Char → Option Table
  | 0, _, _ => none
  | fuel + 1, document, text => do
    let rest ← skipComment (skipGap text)
    match rest with
    | [] => document.finish
    | '[' :: _ =>
      let (document, rest) ← header? total document rest
      lines? total fuel document rest
    | _ =>
      if startsNewline rest then lines? total fuel document (dropNewline rest)
      else do
        let (document, rest) ← assignment? total document rest
        lines? total fuel document rest

def read? (text : List Char) : Option Entries :=
  let body := if text.head? = some '\uFEFF' then text.drop 1 else text
  (lines? text.length (2 * text.length + 2) {} body).map Table.entries

end PythonDocs.Toml
