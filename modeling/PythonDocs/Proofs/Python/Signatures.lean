import PythonDocs.Proofs.Page.Entries
import PythonDocs.Proofs.Python.Functions
import PythonDocs.Proofs.Text.Identifiers
import PythonDocs.Proofs.Text.Pieces

namespace PythonDocs

namespace Text

def IsWord (text : List Char) : Prop := ∀ c ∈ text, isIdentifierPart c = true

theorem IsIdentifier.isWord {text : List Char} (identifier : IsIdentifier text) : IsWord text :=
  fun _ member => identifier.part member

theorem IsWord.count_eq_zero {text : List Char} (word : IsWord text) {c : Char}
    (other : isIdentifierPart c = false) : text.count c = 0 := by
  refine List.count_eq_zero.mpr fun member => ?_
  rw [word c member] at other
  cases other

end Text

namespace Python

open Text

theorem isWord_of_spelled {terminal : Terminal} {text : List Char} (name : terminal.isName = true)
    (spelled : terminal.Spells text) : IsWord text := by
  have words : ∀ entry ∈ keywordTexts, entry.1.all isIdentifierPart = true := by decide
  cases terminal with
  | identifier => exact IsIdentifier.isWord spelled
  | keyword => exact List.all_eq_true.mp (words _ spelled)
  | _ => cases name

def Token.Names (tokens : List Token) (name : String) : Prop :=
  ∃ token ∈ tokens, token.terminal.isName = true ∧ name = .ofList token.text

theorem Token.names_of_mem {tokens : List Token} {name : String} {terminal : Terminal}
    {start : Nat} {text : List Char} (member : ⟨terminal, start, text⟩ ∈ tokens)
    (bound : (if terminal.isName then some (String.ofList text) else none) = some name) :
    Names tokens name := by
  split at bound
  · rename_i isName
    exact ⟨_, member, isName, (Option.some.inj bound).symm⟩
  · cases bound

theorem Token.Names.isWord {tokens : List Token} {name : String} (names : Names tokens name)
    (spelled : AreSpelled tokens) : IsWord name.toList := by
  obtain ⟨token, member, isName, rfl⟩ := names
  rw [String.toList_ofList]
  exact isWord_of_spelled isName (spelled token member)

namespace Tree

theorem names_of_boundName? {tree : Tree} {name : String} (bound : boundName? tree = some name) :
    Token.Names tree.tokens name := by
  unfold boundName? at bound
  split at bound
  · exact Token.names_of_mem List.mem_cons_self bound
  · exact Token.names_of_mem List.mem_cons_self bound
  · exact Token.names_of_mem
      (List.mem_append_right _ (List.mem_append_left _ List.mem_cons_self)) bound
  · cases bound

theorem names_of_parameterName? {tree : Tree} {name : String}
    (bound : parameterName? tree = some name) : Token.Names tree.tokens name := by
  unfold parameterName? at bound
  split at bound
  · obtain ⟨token, member, given⟩ := names_of_boundName? bound
    exact ⟨token, List.mem_append_left _ member, given⟩
  · obtain ⟨token, member, given⟩ := names_of_boundName? bound
    exact ⟨token, List.mem_append_left _ member, given⟩
  · exact names_of_boundName? bound

theorem tokens_subset {tree : Tree} {trees : List Tree} (member : tree ∈ trees) :
    tree.tokens ⊆ tokensOf trees := by
  obtain ⟨before, behind, rfl⟩ := List.append_of_mem member
  rw [tokensOf_append, tokensOf]
  exact List.Subset.trans (List.subset_append_left _ _) (List.subset_append_right _ _)

theorem tokensOf_children (tree : Tree) : tokensOf tree.children ⊆ tree.tokens := by
  cases tree with
  | leaf => exact List.nil_subset _
  | node => exact List.Subset.refl _

theorem isWord_parameterNames {children : List Tree}
    (spelled : Token.AreSpelled (tokensOf children)) :
    ∀ name ∈ parameterNames children, IsWord name.toList := by
  intro name member
  unfold parameterNames at member
  split at member
  · rename_i list found
    obtain ⟨parameter, inside, bound⟩ := List.mem_filterMap.mp member
    obtain ⟨token, place, given⟩ := names_of_parameterName? bound
    have names : Token.Names (tokensOf children) name :=
      ⟨token, tokens_subset (List.mem_of_find?_eq_some found)
        (tokensOf_children list (tokens_subset inside place)), given⟩
    exact names.isWord spelled
  · cases member

theorem isWord_definedName {children : List Tree}
    (spelled : Token.AreSpelled (tokensOf children)) : IsWord (definedName children).toList := by
  unfold definedName
  cases found : children.findSome? identifierText? with
  | none => exact List.forall_mem_nil _
  | some name =>
    obtain ⟨child, inside, given⟩ := List.exists_of_findSome?_eq_some found
    unfold identifierText? at given
    split at given
    · cases given
      have names : Token.Names (tokensOf children) _ :=
        ⟨_, tokens_subset inside List.mem_cons_self, rfl, rfl⟩
      exact names.isWord spelled
    · cases given

end Tree

end Python

open Python Text

structure Symbol.IsWorded (symbol : Symbol) : Prop where
  name : IsWord symbol.name.toList
  args : ∀ arg ∈ symbol.args, IsWord arg.toList
  noReturns : symbol.isClass = true → symbol.returns = none

theorem Symbol.IsDefinedBy.isWorded {source : List Char} {tree : Tree} {symbol : Symbol}
    (defined : symbol.IsDefinedBy source tree)
    (spelled : Token.AreSpelled (Tree.tokensOf tree.children)) : symbol.IsWorded := by
  obtain ⟨-, kind, entry, noClass, -, rfl⟩ | ⟨-, entry, methods, -, rfl⟩ := defined
  · refine ⟨Tree.isWord_definedName spelled, Tree.isWord_parameterNames spelled, fun isClass => ?_⟩
    exact absurd (of_decide_eq_true isClass) noClass
  · exact ⟨Tree.isWord_definedName spelled, List.forall_mem_nil _, fun _ => rfl⟩

def breakingMarks : List Char := ['\n', '\r', '`']

theorem isIdentifierPart_of_mark {c : Char} (mark : c ∈ breakingMarks) :
    isIdentifierPart c = false := by
  have table : (breakingMarks.all fun c => !isIdentifierPart c) = true := by decide
  simpa using List.all_eq_true.mp table c mark

def signatureFrame : List String := ["class ", "async def ", "def ", "(", ")", " -> ", ", "]

theorem count_signatureFrame {c : Char} (mark : c ∈ breakingMarks) {text : String}
    (member : text ∈ signatureFrame) : text.toList.count c = 0 := by
  have table : (signatureFrame.all fun text =>
      breakingMarks.all fun c => text.toList.count c = 0) = true := by decide
  simpa using List.all_eq_true.mp (List.all_eq_true.mp table text member) c mark

variable {symbol : Symbol} {c : Char}

theorem count_join {separator : String} {pieces : List String} (between : c ∉ separator.toList)
    (absent : ∀ piece ∈ pieces, c ∉ piece.toList) : (join separator pieces).toList.count c = 0 := by
  refine List.count_eq_zero.mpr fun member => ?_
  rw [join, String.toList_ofList] at member
  rcases mem_joinWith member with inside | ⟨piece, inside, given⟩
  · exact between inside
  · obtain ⟨name, listed, rfl⟩ := List.mem_map.mp inside
    exact absent name listed given

theorem Symbol.count_signature (worded : symbol.IsWorded) (mark : c ∈ breakingMarks) :
    symbol.signature.toList.count c = (symbol.returns.getD "").toList.count c := by
  have other := isIdentifierPart_of_mark mark
  have absent (text : String) (member : text ∈ signatureFrame) : text.toList.count c = 0 :=
    count_signatureFrame mark member
  have name := worded.name.count_eq_zero other
  have args : (join ", " symbol.args).toList.count c = 0 :=
    count_join (List.count_eq_zero.mp (absent ", " (by simp [signatureFrame]))) fun arg member =>
      List.count_eq_zero.mp ((worded.args arg member).count_eq_zero other)
  have arrow : ((symbol.returns.map (" -> " ++ ·)).getD "").toList.count c =
      (symbol.returns.getD "").toList.count c := by
    cases symbol.returns with
    | none => rfl
    | some annotation =>
      simp only [Option.map_some, Option.getD_some, String.toList_append, List.count_append,
        absent " -> " (by simp [signatureFrame]), Nat.zero_add]
  unfold signature
  split
  · rename_i isClass
    rw [worded.noReturns isClass, String.toList_append, List.count_append, name,
      absent "class " (by simp [signatureFrame])]
    rfl
  · have prefixed : (if symbol.isAsync then "async def " else "def ").toList.count c = 0 := by
      split <;> exact absent _ (by simp [signatureFrame])
    simp only [String.toList_append, List.count_append, prefixed, name, args, arrow,
      absent "(" (by simp [signatureFrame]), absent ")" (by simp [signatureFrame])]
    omega

theorem Symbol.count_heading (worded : symbol.IsWorded) (mark : c ∈ breakingMarks) :
    symbol.heading.toList.count c =
      "\n\n### ``".toList.count c + (symbol.returns.getD "").toList.count c := by
  have frame : "\n\n### ``" = "\n\n### `" ++ "`" := rfl
  simp only [heading, frame, String.toList_append, List.count_append,
    count_signature worded mark]
  omega

theorem Symbol.count_methodHeading {method : Symbol} (owner : symbol.IsWorded)
    (worded : method.IsWorded) (mark : c ∈ breakingMarks) :
    (methodHeading symbol.name method).toList.count c =
      "\n\n#### `.`\n\n``".toList.count c + (method.returns.getD "").toList.count c := by
  have other := isIdentifierPart_of_mark mark
  have frame : "\n\n#### `.`\n\n``" = "\n\n#### `" ++ "." ++ "`\n\n`" ++ "`" := rfl
  simp only [methodHeading, frame, String.toList_append, List.count_append,
    count_signature worded mark, owner.name.count_eq_zero other,
    worded.name.count_eq_zero other]
  omega

/-- The line breaks and backticks of a signature are those of its annotation, and a page has those
of its template besides. -/
theorem Outline.signatures_of_read {source : String} {outline : Outline} (nested : NestedFunctions)
    (read : Outline.read source = .ok outline) :
    ∃ trees found, parse source.toList = .ok trees ∧ outline.symbols nested = .ok found ∧
      (∀ symbol ∈ Symbol.withMethods found.symbols,
        ∃ tree ∈ Tree.subtreesOf trees, symbol.IsDefinedBy source.toList tree) ∧
      (∀ c ∈ breakingMarks, ∀ symbol ∈ Symbol.withMethods found.symbols,
        symbol.signature.toList.count c = (symbol.returns.getD "").toList.count c) ∧
      (∀ c ∈ breakingMarks, ∀ symbol ∈ found.symbols,
        symbol.heading.toList.count c =
            "\n\n### ``".toList.count c + (symbol.returns.getD "").toList.count c ∧
          ∀ method ∈ symbol.methods,
            (Symbol.methodHeading symbol.name method).toList.count c =
              "\n\n#### `.`\n\n``".toList.count c + (method.returns.getD "").toList.count c) ∧
      ∀ {σ : Type} (write : Symbol → σ → Option String × σ) (state : σ) (page : Page),
        page.entries = (Entry.buildAll write found.symbols state).1 →
          page.render = page.readme ++ "\n" ++ Page.diagramSection page.diagram ++
            Symbol.reference found.symbols
              ((Entry.withMethods page.entries).map Entry.docstring) ++
            Page.footer page.path := by
  obtain ⟨trees, found, parsed, walked, made, defined, -⟩ := definitions_of_read nested read
  obtain ⟨-, -, final, tile⟩ := trees_of_parse parsed
  have worded : ∀ symbol ∈ Symbol.withMethods found.symbols, symbol.IsWorded := by
    intro symbol member
    obtain ⟨tree, inside, given⟩ := defined symbol member
    have spelled := Token.Tile.areSpelled (Tree.covers_of_subtree made tile inside)
    exact given.isWorded fun token place => spelled token (Tree.tokensOf_children tree place)
  refine ⟨trees, found, parsed, walked, defined, ?_, ?_, ?_⟩
  · exact fun c mark symbol member => Symbol.count_signature (worded symbol member) mark
  · intro c mark symbol member
    have own := worded symbol (List.mem_flatMap.mpr ⟨symbol, member, List.mem_cons_self⟩)
    refine ⟨Symbol.count_heading own mark, fun method inside => ?_⟩
    have inner : method ∈ Symbol.withMethods found.symbols :=
      List.mem_flatMap.mpr ⟨symbol, member, List.mem_cons_of_mem _ inside⟩
    exact Symbol.count_methodHeading own (worded method inner) mark
  · intro σ write state page entries
    have flat : Symbol.AreFlat found.symbols := fun symbol member method inside =>
      ((Outline.isListed_of_symbols walked symbol member).2 method inside).2
    have described := (Entry.buildAll_symbols write flat state).2.2
    exact Page.render_eq (entries ▸ described)

def annotatedClass : String := "class A:\n    async def f(self, *rest) -> str: pass\n"

theorem signatures_annotatedClass : ∃ outline, Outline.read annotatedClass = .ok outline ∧
    (outline.symbols .flatten).toOption.map (fun found =>
      (Symbol.withMethods found.symbols).map Symbol.signature) =
        some ["class A", "async def f(self, rest) -> str"] :=
  exists_of_toOption (by decide +kernel)

theorem Outline.signatures_of_annotatedClass :
    ∃ outline found, Outline.read annotatedClass = .ok outline ∧
      outline.symbols .flatten = .ok found ∧
      (Symbol.withMethods found.symbols).map Symbol.signature =
        ["class A", "async def f(self, rest) -> str"] ∧
      ∀ c ∈ breakingMarks, ∀ symbol ∈ Symbol.withMethods found.symbols,
        symbol.signature.toList.count c = (symbol.returns.getD "").toList.count c := by
  obtain ⟨outline, read, signatures⟩ := signatures_annotatedClass
  obtain ⟨-, found, -, walked, -, counts, -⟩ := Outline.signatures_of_read .flatten read
  rw [walked] at signatures
  exact ⟨outline, found, read, walked, Option.some.inj signatures, counts⟩

/-- An annotation on two lines gives a signature on two lines. -/
theorem Outline.signature_on_two_lines :
    ∃ outline found, Outline.read "def f() -> List[\n  int]: pass\n" = .ok outline ∧
      outline.symbols .flatten = .ok found ∧
      found.symbols.map Symbol.signature = ["def f() -> List[\n  int]"] := by
  obtain ⟨outline, read, signatures⟩ : ∃ outline,
      Outline.read "def f() -> List[\n  int]: pass\n" = .ok outline ∧
      (outline.symbols .flatten).toOption.map (fun found =>
        found.symbols.map Symbol.signature) = some ["def f() -> List[\n  int]"] :=
    exists_of_toOption (by decide +kernel)
  obtain ⟨found, walked, listed⟩ := exists_of_toOption signatures
  exact ⟨outline, found, read, walked, listed⟩

end PythonDocs
