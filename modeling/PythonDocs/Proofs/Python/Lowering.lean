import PythonDocs.Proofs.Extraction.Contents
import PythonDocs.Proofs.Python.Names
import PythonDocs.Proofs.Python.Reading
import PythonDocs.Proofs.Python.Statements

namespace PythonDocs.Python

theorem exists_of_toOption {ε α β : Type} {result : Except ε α} {f : α → β} {value : β}
    (given : result.toOption.map f = some value) :
    ∃ inner, result = .ok inner ∧ f inner = value := by
  cases result with
  | error => cases given
  | ok inner => exact ⟨inner, rfl, Option.some.inj given⟩

namespace Tree

def modules (source : List Char) (tree : Tree) : List String :=
  if tree.isNode .importFuture then ["__future__"] else tree.modulePaths.map (nodeText source)

def definitionSource (source : List Char) (tree : Tree) : String :=
  .ofList (definitionText source tree.start tree.stop)

end Tree

structure Lowers (source : List Char) (trees : List Tree) (outline : Outline) : Prop where
  texts : outline.texts = (Tree.definitionsOf trees).map (Tree.definitionSource source)
  modules : outline.modules = (Tree.importsOf trees).flatMap (Tree.modules source)
  named : outline.IsNamed

namespace Tree

variable {source : List Char}

theorem statementsOf_group {kind : Kind} {start stop : Nat} {children : List Tree}
    (plain : kind.isDefinition = false) (other : kind.isImport = false) :
    statementsOf source (.node kind start stop children) =
      if (statementsOfAll source children).isEmpty then []
      else [.group (statementsOfAll source children)] := by
  cases kind with
  | classDef | functionDef | decorated => cases plain
  | importNames | importFrom | importFuture => cases other
  | _ =>
    simp only [statementsOf]
    cases statementsOfAll source children <;> rfl

mutual

theorem statementsOf_inner : (tree : Tree) → tree.IsWellMade → tree.isInner = true →
    statementsOf source tree = []
  | .leaf .., _, _ => by simp [statementsOf]
  | .node kind start stop children, made, inner => by
    have simple : (kind.isInner || kind.isImport) = true := Bool.or_eq_true_iff.mpr (.inl inner)
    have below := statementsOfAll_inner children made.2.2.2 (isInner_of_child made simple)
    obtain ⟨plain, other⟩ := Kind.isDefinition_of_isInner inner
    rw [statementsOf_group plain other, below]
    rfl

theorem statementsOfAll_inner : (trees : List Tree) → AreWellMade trees →
    (∀ tree ∈ trees, tree.isInner = true) → statementsOfAll source trees = []
  | [], _, _ => by simp [statementsOfAll]
  | tree :: rest, made, inner => by
    rw [List.forall_mem_cons] at inner
    simp [statementsOfAll, statementsOf_inner tree made.1 inner.1,
      statementsOfAll_inner rest made.2 inner.2]

end

theorem statementsOfAll_append (first second : List Tree) :
    statementsOfAll source (first ++ second) =
      statementsOfAll source first ++ statementsOfAll source second := by
  induction first with
  | nil => simp [statementsOfAll]
  | cons tree rest ih => simp only [List.cons_append, statementsOfAll, ih, List.append_assoc]

theorem bodyOf_inner {tree : Tree} {rest : List Tree} (inner : tree.isInner = true) :
    bodyOf source (tree :: rest) = bodyOf source rest := by
  cases tree with
  | leaf => simp [bodyOf]
  | node kind =>
    cases kind with
    | block => exact absurd inner Bool.false_ne_true
    | _ => simp [bodyOf]

theorem statementsOf_definition (source : List Char) {kind : Kind} {start stop : Nat}
    {children : List Tree} (definition : kind = .classDef ∨ kind = .functionDef) :
    statementsOf source (.node kind start stop children) =
        [.classDef (definedName children) (definitionSource source (.node kind start stop children))
          (bodyOf source children)] ∨
      ∃ header : FunctionHeader, header.name = definedName children ∧
        header.source = definitionSource source (.node kind start stop children) ∧
        statementsOf source (.node kind start stop children) =
          [.functionDef header (bodyOf source children)] := by
  rcases definition with rfl | rfl
  · left
    simp only [statementsOf]
    rfl
  · right
    simp only [statementsOf]
    exact ⟨_, rfl, rfl, rfl⟩

end Tree

namespace Lowers

open PythonDocs.Python.Tree

variable {source : List Char} {first second trees : List Tree} {before behind outline : Outline}

theorem nil : Lowers source [] [] := ⟨rfl, rfl, nofun⟩

theorem append (left : Lowers source first before) (right : Lowers source second behind) :
    Lowers source (first ++ second) (before ++ behind) := by
  constructor
  · rw [Outline.texts_append, definitionsOf_append, List.map_append, left.texts, right.texts]
  · rw [Outline.modules_append, importsOf_append, List.flatMap_append, left.modules, right.modules]
  · exact (Outline.isNamed_append ..).mpr ⟨left.named, right.named⟩

theorem inner (made : AreWellMade trees) (inner : ∀ tree ∈ trees, tree.isInner = true) :
    Lowers source trees [] := by
  obtain ⟨none, also⟩ := nothing_inner made inner
  exact ⟨by rw [none]; rfl, by rw [also]; rfl, nofun⟩

variable {kind : Kind} {start stop : Nat} {children : List Tree}

theorem grouped (inside : Lowers source trees outline) :
    Lowers source trees (if outline.isEmpty then [] else [.group outline]) := by
  cases outline with
  | nil => exact inside
  | cons first rest =>
    exact ⟨(Outline.texts_group _).trans inside.texts,
      (Outline.modules_group _).trans inside.modules, (Outline.isNamed_group _).mpr inside.named⟩

theorem group (inside : Lowers source children outline)
    (plain : kind.isDefinition = false) (other : kind.isImport = false) :
    Lowers source [.node kind start stop children] outline :=
  ⟨by rw [definitionsOf_node plain, inside.texts], by rw [importsOf_node other, inside.modules],
    inside.named⟩

theorem definition {body : Outline} (inside : Lowers source children body)
    (definition : kind = .classDef ∨ kind = .functionDef)
    (texts : outline.texts =
      definitionSource source (.node kind start stop children) :: body.texts)
    (modules : outline.modules = body.modules) (named : outline.IsNamed) :
    Lowers source [.node kind start stop children] outline := by
  refine ⟨?_, ?_, named⟩
  · rw [texts, inside.texts]
    rcases definition with rfl | rfl <;> simp [definitionsOf, definitions]
  · rw [modules, inside.modules, importsOf_node]
    rcases definition with rfl | rfl <;> rfl

theorem decorated {text : String} {texts : List String}
    (inside : Lowers source children before) (first : before.texts = text :: texts)
    (same : outline.texts =
      definitionSource source (.node .decorated start stop children) :: texts)
    (modules : outline.modules = before.modules) (named : outline.IsNamed) :
    Lowers source [.node .decorated start stop children] outline := by
  refine ⟨?_, ?_, named⟩
  · have rest := congrArg List.tail inside.texts
    rw [first, List.tail_cons, ← List.map_tail] at rest
    simp [definitionsOf, definitions, same, rest]
  · rw [modules, inside.modules, importsOf_node rfl]

theorem importing (made : (node kind start stop children).IsWellMade)
    (isImport : kind.isImport = true) (texts : outline.texts = [])
    (modules : outline.modules = (node kind start stop children).modules source)
    (named : outline.IsNamed) : Lowers source [.node kind start stop children] outline := by
  have simple : (kind.isInner || kind.isImport) = true := Bool.or_eq_true_iff.mpr (.inr isImport)
  obtain ⟨none, also⟩ := nothing_inner made.2.2.2 (isInner_of_child made simple)
  have here : importsOf [.node kind start stop children] =
      .node kind start stop children :: importsOf children := by
    simp [importsOf, subtreesOf, subtrees, Tree.isImport, isImport]
  refine ⟨?_, ?_, named⟩
  · rw [definitionsOf_node (Kind.isDefinition_of_isImport isImport), none, texts]
    rfl
  · rw [here, also, modules]
    simp

end Lowers

namespace Tree

variable {source : List Char}

theorem importedModule_eq (children : List Tree) :
    importedModule source children = (fromPath? children).map (nodeText source) := by
  unfold importedModule fromPath?
  generalize (children.find? fun child => child.isNode .dottedName || child.isNode .relative) = found
  rcases found with _ | ⟨terminal, start, text⟩ | ⟨kind, start, stop, inner⟩
  · rfl
  · rfl
  · cases kind <;> rfl

theorem statementsOfAll_decorated (source : List Char) {children : List Tree}
    (made : AreWellMade children) (decorated : AreDecorated children) :
    ∃ kind start stop inner, (kind = .classDef ∨ kind = .functionDef) ∧
      statementsOfAll source children = statementsOf source (.node kind start stop inner) := by
  obtain ⟨before, kind, start, stop, inner, rfl, definition, barren⟩ := decorated
  rw [areWellMade_append] at made
  refine ⟨kind, start, stop, inner, definition, ?_⟩
  rw [statementsOfAll_append, statementsOfAll_inner before made.1 barren]
  simp [statementsOfAll]

theorem lowers_import {kind : Kind} {start stop : Nat} {children : List Tree}
    (made : (node kind start stop children).IsWellMade) (isImport : kind.isImport = true) :
    Lowers source [.node kind start stop children]
      (statementsOf source (.node kind start stop children)) := by
  cases kind with
  | importNames =>
    have same : (node .importNames start stop children).modules source =
        (children.filter (isNode .dottedName)).map (nodeText source) := rfl
    simp only [statementsOf]
    exact .importing made rfl rfl ((Outline.modules_imports _).trans same.symm)
      (Outline.isNamed_imports _)
  | importFrom =>
    have same : (node .importFrom start stop children).modules source =
        (fromPath? children).toList.map (nodeText source) := rfl
    simp only [statementsOf]
    refine .importing made rfl rfl ?_ (Outline.isNamed_importFrom _)
    rw [Outline.modules_importFrom, importedModule_eq, same]
    cases fromPath? children <;> rfl
  | importFuture =>
    simp only [statementsOf]
    exact .importing made rfl rfl rfl (Outline.isNamed_importFrom _)
  | _ => cases isImport

theorem lowers_definition {kind : Kind} {start stop : Nat} {children : List Tree}
    (made : (node kind start stop children).IsWellMade)
    (definition : kind = .classDef ∨ kind = .functionDef)
    (spelled : Token.AreSpelled (tokensOf children))
    (below : Lowers source children (bodyOf source children)) :
    Lowers source [.node kind start stop children]
      (statementsOf source (.node kind start stop children)) := by
  have named := definedName_ne_empty made definition spelled
  obtain given | ⟨header, name, text, given⟩ := statementsOf_definition source definition
  · rw [given]
    exact below.definition definition (Outline.texts_class ..) (Outline.modules_class ..)
      ((Outline.isNamed_class ..).mpr ⟨named, below.named⟩)
  · rw [given]
    have texts := Outline.texts_function (bodyOf source children) header
    rw [text] at texts
    exact below.definition definition texts (Outline.modules_function ..)
      ((Outline.isNamed_function ..).mpr ⟨name ▸ named, below.named⟩)

theorem lowers_decorated {start stop : Nat} {children : List Tree}
    (made : (node .decorated start stop children).IsWellMade)
    (below : Lowers source children (statementsOfAll source children)) :
    Lowers source [.node .decorated start stop children]
      (statementsOf source (.node .decorated start stop children)) := by
  -- nothing but the decorated definition gives a statement, and its text is the one to replace
  obtain ⟨kind, _, _, inner, definition, single⟩ :=
    statementsOfAll_decorated source made.2.2.2 (areDecorated_of_node made)
  simp only [statementsOf]
  obtain given | ⟨header, -, -, given⟩ := statementsOf_definition source definition
  · rw [single, given] at below ⊢
    have named := (Outline.isNamed_class ..).mp below.named
    exact below.decorated (Outline.texts_class ..) (Outline.texts_class ..) rfl
      ((Outline.isNamed_class ..).mpr named)
  · rw [single, given] at below ⊢
    have named := (Outline.isNamed_function ..).mp below.named
    exact below.decorated (Outline.texts_function ..) (Outline.texts_function ..) rfl
      ((Outline.isNamed_function ..).mpr named)

/-- A relation between trees and outlines that goes from parts to the whole, for each form in which
trees become statements. -/
structure Composes (source : List Char) (holds : List Tree → Outline → Prop) : Prop where
  inner {trees : List Tree} (made : AreWellMade trees) (inner : ∀ tree ∈ trees, tree.isInner = true) :
    holds trees []
  append {first second : List Tree} {before behind : Outline} (made : AreWellMade first)
    (also : AreWellMade second) (left : holds first before) (right : holds second behind) :
    holds (first ++ second) (before ++ behind)
  group {kind : Kind} {start stop : Nat} {children : List Tree} {outline : Outline}
    (plain : kind.isDefinition = false) (other : kind.isImport = false)
    (below : holds children outline) :
    holds [.node kind start stop children] (if outline.isEmpty then [] else [.group outline])
  block {start stop : Nat} {children : List Tree} {outline : Outline}
    (below : holds children outline) : holds [.node .block start stop children] outline
  importing {kind : Kind} {start stop : Nat} {children : List Tree}
    (made : (node kind start stop children).IsWellMade) (isImport : kind.isImport = true) :
    holds [.node kind start stop children] (statementsOf source (.node kind start stop children))
  definition {kind : Kind} {start stop : Nat} {children : List Tree}
    (made : (node kind start stop children).IsWellMade)
    (definition : kind = .classDef ∨ kind = .functionDef)
    (below : holds children (bodyOf source children)) :
    holds [.node kind start stop children] (statementsOf source (.node kind start stop children))
  decorated {start stop : Nat} {children : List Tree}
    (made : (node .decorated start stop children).IsWellMade)
    (below : holds children (statementsOfAll source children)) :
    holds [.node .decorated start stop children]
      (statementsOf source (.node .decorated start stop children))

namespace Composes

variable {holds : List Tree → Outline → Prop}

mutual

theorem tree (composes : Composes source holds) : (tree : Tree) → tree.IsWellMade →
    holds [tree] (statementsOf source tree)
  | .leaf terminal start text, made => by
    simp only [statementsOf]
    exact composes.inner ⟨made, trivial⟩ (by simp [isInner])
  | .node kind start stop children, made => by
    by_cases plain : kind.isDefinition = false ∧ kind.isImport = false
    · rw [statementsOf_group plain.1 plain.2]
      exact composes.group plain.1 plain.2 (composes.all children made.2.2.2)
    · cases kind with
      | importNames | importFrom | importFuture => exact composes.importing made rfl
      | classDef =>
        have bodied := areBodied_of_definition made (.inl rfl)
        exact composes.definition made (.inl rfl) (composes.body children made.2.2.2 bodied)
      | functionDef =>
        have bodied := areBodied_of_definition made (.inr rfl)
        exact composes.definition made (.inr rfl) (composes.body children made.2.2.2 bodied)
      | decorated => exact composes.decorated made (composes.all children made.2.2.2)
      | _ => exact absurd ⟨rfl, rfl⟩ plain

theorem all (composes : Composes source holds) : (trees : List Tree) → AreWellMade trees →
    holds trees (statementsOfAll source trees)
  | [], made => by
    simp only [statementsOfAll]
    exact composes.inner made nofun
  | tree :: rest, made => by
    simp only [statementsOfAll]
    have alone : AreWellMade [tree] := ⟨made.1, trivial⟩
    exact composes.append alone made.2 (composes.tree tree made.1) (composes.all rest made.2)

theorem body (composes : Composes source holds) : (trees : List Tree) → AreWellMade trees →
    AreBodied trees → holds trees (bodyOf source trees)
  | [], _, bodied => by
    obtain ⟨before, start, stop, children, same, -⟩ := bodied
    simp at same
  | .leaf terminal start text :: rest, made, bodied => by
    obtain ⟨inner, more⟩ | ⟨block, -⟩ := bodied.cases
    · rw [bodyOf_inner inner]
      have alone : AreWellMade [.leaf terminal start text] := ⟨made.1, trivial⟩
      exact composes.append alone made.2 (composes.inner alone (by simp [isInner]))
        (composes.body rest made.2 more)
    · cases block
  | .node kind start stop children :: rest, made, bodied => by
    obtain ⟨inner, more⟩ | ⟨block, rfl⟩ := bodied.cases
    · rw [bodyOf_inner inner]
      have alone : AreWellMade [.node kind start stop children] := ⟨made.1, trivial⟩
      exact composes.append alone made.2 (composes.inner alone (by simpa using inner))
        (composes.body rest made.2 more)
    · obtain rfl : kind = .block := of_decide_eq_true block
      simp only [bodyOf]
      exact composes.block (composes.all children made.1.2.2.2)

end

end Composes

theorem composes_lowers : Composes source fun trees outline =>
    Token.AreSpelled (tokensOf trees) → Lowers source trees outline where
  inner made inner _ := .inner made inner
  append _ _ left right spelled := by
    rw [tokensOf_append] at spelled
    obtain ⟨before, behind⟩ := List.forall_mem_append.mp spelled
    exact (left before).append (right behind)
  group plain other below spelled := by
    rw [tokensOf_single] at spelled
    exact (below spelled).grouped.group plain other
  block below spelled := by
    rw [tokensOf_single] at spelled
    exact (below spelled).group rfl rfl
  importing made isImport _ := lowers_import made isImport
  definition made definition below spelled := by
    rw [tokensOf_single] at spelled
    exact lowers_definition made definition spelled (below spelled)
  decorated made below spelled := by
    rw [tokensOf_single] at spelled
    exact lowers_decorated made (below spelled)

end Tree

theorem trees_of_read {source : String} {outline : Outline}
    (read : Outline.read source = .ok outline) :
    ∃ trees, parse source.toList = .ok trees ∧ statementsOfAll source.toList trees = outline := by
  unfold Outline.read at read
  simp only at read
  split at read
  · rename_i trees parsed
    exact ⟨trees, parsed, Except.ok.inj read⟩
  · cases read

theorem lowers_of_read {source : String} {outline : Outline}
    (read : Outline.read source = .ok outline) :
    ∃ trees, parse source.toList = .ok trees ∧ Lowers source.toList trees outline := by
  obtain ⟨trees, parsed, rfl⟩ := trees_of_read read
  obtain ⟨-, made, final, tile⟩ := trees_of_parse parsed
  exact ⟨trees, parsed, Tree.composes_lowers.all trees made tile.areSpelled⟩

end PythonDocs.Python
