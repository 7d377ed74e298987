import PythonDocs.Proofs.Extraction.Records
import PythonDocs.Proofs.Python.Correspondence

namespace PythonDocs

open Python

theorem exists_of_forall₂ {α β : Type} {related : α → β → Prop} {first : List α} {second : List β}
    (all : List.Forall₂ related first second) : ∀ a ∈ first, ∃ b ∈ second, related a b := by
  induction all with
  | nil => exact List.forall_mem_nil _
  | cons head _ ih =>
    refine List.forall_mem_cons.mpr ⟨⟨_, List.mem_cons_self, head⟩, fun a member => ?_⟩
    obtain ⟨b, behind, given⟩ := ih a member
    exact ⟨b, List.mem_cons_of_mem _ behind, given⟩

namespace Python.Tree

mutual

theorem child_of_subtree : (tree : Tree) → ∀ inner ∈ tree.subtrees, ∀ child ∈ inner.children,
    child ∈ tree.subtrees
  | .leaf .., inner, member, child, inside => by
    rw [List.mem_singleton.mp member] at inside
    cases inside
  | .node _ _ _ children, inner, member, child, inside => by
    rcases List.mem_cons.mp member with rfl | member
    · exact List.mem_cons_of_mem _ (self_mem_subtreesOf inside)
    · exact List.mem_cons_of_mem _ (child_of_subtreeOf children inner member child inside)

theorem child_of_subtreeOf : (trees : List Tree) → ∀ inner ∈ subtreesOf trees,
    ∀ child ∈ inner.children, child ∈ subtreesOf trees
  | [], _, member, _, _ => by cases member
  | tree :: rest, inner, member, child, inside => by
    rcases List.mem_append.mp member with member | member
    · exact List.mem_append_left _ (child_of_subtree tree inner member child inside)
    · exact List.mem_append_right _ (child_of_subtreeOf rest inner member child inside)

end

theorem IsDefinedBy.mem {tree entry : Tree} {trees : List Tree} (defines : tree.IsDefinedBy entry)
    (member : entry ∈ subtreesOf trees) : tree ∈ subtreesOf trees := by
  rcases defines with rfl | ⟨-, child⟩
  · exact member
  · exact child_of_subtreeOf trees entry member tree child

def isBare (tree : Tree) : Bool := tree.isNode .classDef || tree.isNode .functionDef

theorem isBare_of_isInner {tree : Tree} (inner : tree.isInner = true) : tree.isBare = false := by
  rcases tree with _ | ⟨kind, _, _, _⟩
  · rfl
  · cases kind <;> first | rfl | cases inner

theorem kind_of_isNode {tree : Tree} {first second : Kind} (left : tree.isNode first = true)
    (right : tree.isNode second = true) : first = second := by
  rcases tree with _ | ⟨kind, _, _, _⟩
  · cases left
  · exact (of_decide_eq_true left).symm.trans (of_decide_eq_true right)

theorem kind_of_isBare {tree : Tree} {kind : Kind} (bare : tree.isBare = true)
    (own : tree.isNode kind = true) : kind = .classDef ∨ kind = .functionDef :=
  (Bool.or_eq_true_iff.mp bare).imp (kind_of_isNode own) (kind_of_isNode own)

/-- An entry is of one class or function only. -/
theorem IsDefinedBy.unique {first second entry : Tree} (made : entry.IsWellMade)
    (left : first.IsDefinedBy entry) (right : second.IsDefinedBy entry)
    (firstBare : first.isBare = true) (secondBare : second.isBare = true) : first = second := by
  have never {tree : Tree} (bare : tree.isBare = true) (decorated : tree.isNode .decorated = true) :
      False := by
    rcases kind_of_isBare bare decorated with same | same <;> cases same
  rcases left with rfl | ⟨decorated, left⟩
  · rcases right with same | ⟨decorated, -⟩
    · exact same
    · exact (never firstBare decorated).elim
  · rcases right with rfl | ⟨-, right⟩
    · exact (never secondBare decorated).elim
    · rcases entry with _ | ⟨kind, start, stop, children⟩
      · cases left
      · obtain rfl : kind = .decorated := of_decide_eq_true decorated
        obtain ⟨before, kind, start, stop, inner, rfl, -, barren⟩ := areDecorated_of_node made
        have last {tree : Tree} (bare : tree.isBare = true)
            (child : tree ∈ before ++ [.node kind start stop inner]) :
            tree = .node kind start stop inner := by
          rcases List.mem_append.mp child with child | child
          · rw [isBare_of_isInner (barren tree child)] at bare
            cases bare
          · exact List.mem_singleton.mp child
        exact (last firstBare left).trans (last secondBare right).symm

end Python.Tree

/-- A symbol is what a function of the source is listed as. -/
def Symbol.IsOf (source : List Char) (function : Tree) (symbol : Symbol) : Prop :=
  ∃ kind entry, kind ≠ .class ∧ function.IsDefinedBy entry ∧
    symbol = .ofFunction kind (function.header source entry)

/-- A symbol is what a class of the source is listed as. -/
def Symbol.IsOfClass (source : List Char) (tree : Tree) (symbol : Symbol) : Prop :=
  ∃ entry methods, tree.IsDefinedBy entry ∧
    symbol = { Symbol.ofClass (definedName tree.children) (entry.definitionSource source) with
      methods }

/-- A symbol is what a class or function of the source is listed as. -/
def Symbol.IsDefinedBy (source : List Char) (tree : Tree) (symbol : Symbol) : Prop :=
  tree.isNode .functionDef = true ∧ symbol.IsOf source tree ∨
    tree.isNode .classDef = true ∧ symbol.IsOfClass source tree

theorem Symbol.IsDefinedBy.function {source : List Char} {tree : Tree} {symbol : Symbol}
    (defined : symbol.IsDefinedBy source tree) (other : symbol.isClass = false) :
    tree.isNode .functionDef = true ∧ symbol.IsOf source tree := by
  obtain function | ⟨-, _, _, -, rfl⟩ := defined
  · exact function
  · cases other

theorem Statement.Records.isGroup {statement : Statement} {symbol : Symbol}
    (records : statement.Records symbol) : statement.isGroup = false := by
  cases records <;> rfl

theorem Statement.Records.isDefinedBy {source : List Char} {entry : Tree} {statement : Statement}
    {symbol : Symbol} (records : statement.Records symbol)
    (described : Describes source entry statement) :
    ∃ tree, tree.IsDefinedBy entry ∧ symbol.IsDefinedBy source tree := by
  cases records with
  | classDef =>
    cases described with
    | classDef kind defines => exact ⟨_, defines, .inr ⟨kind, entry, _, defines, rfl⟩⟩
  | functionDef noClass =>
    cases described with
    | functionDef kind defines => exact ⟨_, defines, .inl ⟨kind, _, entry, noClass, defines, rfl⟩⟩

theorem Python.Describes.eq_of_function {source : List Char} {entry function : Tree}
    {statement : Statement} (described : Describes source entry statement)
    (made : entry.IsWellMade) (kind : function.isNode .functionDef = true)
    (defines : function.IsDefinedBy entry) :
    ∃ body, statement = .functionDef (function.header source entry) body := by
  have bare : function.isBare = true := Bool.or_eq_true_iff.mpr (.inr kind)
  have other {entryKind : Kind} (own : entry.isNode entryKind = true) :
      entryKind = .functionDef ∨ entryKind = .decorated := by
    rcases defines with rfl | ⟨decorated, -⟩
    · exact .inl (Tree.kind_of_isNode own kind)
    · exact .inr (Tree.kind_of_isNode own decorated)
  cases described with
  | importNames own | importFrom own | importFuture own => rcases other own with same | same <;> cases same
  | classDef own also =>
    obtain rfl := also.unique made defines (Bool.or_eq_true_iff.mpr (.inl own)) bare
    cases Tree.kind_of_isNode own kind
  | functionDef own also body =>
    obtain rfl := also.unique made defines (Bool.or_eq_true_iff.mpr (.inr own)) bare
    exact ⟨body, rfl⟩

theorem definitions_of_read {source : String} {outline : Outline} (nested : NestedFunctions)
    (read : Outline.read source = .ok outline) :
    ∃ trees found, parse source.toList = .ok trees ∧ outline.symbols nested = .ok found ∧
      Tree.AreWellMade trees ∧
      (∀ symbol ∈ Symbol.withMethods found.symbols,
        ∃ tree ∈ Tree.subtreesOf trees, symbol.IsDefinedBy source.toList tree) ∧
      (nested = .flatten → ∀ function ∈ Tree.subtreesOf trees,
        function.isNode .functionDef = true →
          ∃ symbol ∈ Symbol.withMethods found.symbols, symbol.IsOf source.toList function) := by
  obtain ⟨trees, parsed, made, -, agree⟩ := gives_of_read read
  obtain ⟨_, _, lowers⟩ := lowers_of_read read
  obtain ⟨found, walked, -⟩ := Outline.symbols_walked nested lowers.named
  refine ⟨trees, found, parsed, walked, made, fun symbol member => ?_, ?_⟩
  · obtain ⟨site, place, records⟩ := Outline.records_of_symbols walked symbol member
    have inside : site ∈ outline.entries :=
      List.mem_filter.mpr ⟨place, by simp [records.isGroup]⟩
    obtain ⟨entry, stands, described⟩ := exists_of_forall₂ agree.described.flip site inside
    obtain ⟨tree, defines, given⟩ := records.isDefinedBy described
    exact ⟨tree, defines.mem (Tree.mem_entriesOf trees entry stands).1, given⟩
  · rintro rfl function member kind
    have declares : function.declares = true := by simp [Tree.declares, kind]
    obtain ⟨entry, stands, defines⟩ := exists_of_forall₂ (Tree.entriesOf_of_declares trees made)
      function (List.mem_filter.mpr ⟨member, declares⟩)
    obtain ⟨site, inside, described⟩ := exists_of_forall₂ agree.described entry stands
    have entryMade :=
      Tree.isWellMade_of_subtreeOf trees made entry (Tree.mem_entriesOf trees entry stands).1
    obtain ⟨body, statement⟩ := described.eq_of_function entryMade kind defines
    obtain ⟨listed, noClass, symbol⟩ :=
      Outline.exists_symbol walked (List.mem_filter.mp inside).1 statement
    exact ⟨_, symbol, listed, entry, noClass, defines, rfl⟩

end PythonDocs
