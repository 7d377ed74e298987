import PythonDocs.Proofs.Python.Subtrees

namespace PythonDocs.Python

def Kind.isInner : Kind → Bool
  | .module | .clause | .block | .importNames | .importFrom | .importFuture | .classDef
  | .functionDef | .decorated => false
  | _ => true

def Kind.isImport : Kind → Bool
  | .importNames | .importFrom | .importFuture => true
  | _ => false

def Kind.isDefinition : Kind → Bool
  | .classDef | .functionDef | .decorated => true
  | _ => false

theorem Kind.isDefinition_of_isInner {kind : Kind} (inner : kind.isInner = true) :
    kind.isDefinition = false ∧ kind.isImport = false := by
  cases kind <;> first | exact ⟨rfl, rfl⟩ | cases inner

theorem Kind.isDefinition_of_isImport {kind : Kind} (isImport : kind.isImport = true) :
    kind.isDefinition = false := by
  cases kind <;> first | rfl | cases isImport

def Category.isInner : Category → Bool
  | .statement | .simpleStatement | .simpleLine | .suite | .elseClause | .exceptClause
  | .exceptGroup | .caseClause | .classDef | .functionDef => false
  | _ => true

namespace Tree

def isInner : Tree → Bool
  | .leaf .. => true
  | .node kind .. => kind.isInner

def isImport : Tree → Bool
  | .leaf .. => false
  | .node kind .. => kind.isImport

def isDefinition : Tree → Bool
  | .leaf .. => false
  | .node kind .. => kind.isDefinition

theorem isDefinition_of_isInner {tree : Tree} (inner : tree.isInner = true) :
    tree.isDefinition = false ∧ tree.isImport = false := by
  cases tree with
  | leaf => exact ⟨rfl, rfl⟩
  | node => exact Kind.isDefinition_of_isInner inner

end Tree

namespace Rule

def isInner : Rule → Bool
  | .tree kind _ => kind.isInner
  | .part category => category.isInner
  | .both first second | .either first second => first.isInner && second.isInner
  | .many rule => rule.isInner
  | .empty | .token _ | .require _ => true

/-- Whether a rule is another one behind rules that make only inner nodes. -/
def endsWith : Rule → Rule → Bool
  | .both first second, last => first.isInner && second.endsWith last
  | rule, last => rule = last

namespace Derives

variable {rule last : Rule} {trees : List Tree}

theorem inner (derives : rule.Derives trees) (isInner : rule.isInner = true) :
    ∀ tree ∈ trees, tree.isInner = true := by
  have table : ∀ category ∈ Category.all, category.isInner = true →
      (Grammar.rule category).isInner = true := by decide
  induction derives with
  | empty | done | require => simp
  | token => simp [Tree.isInner]
  | @part category trees _ ih => exact ih (table category category.mem_all isInner)
  | both _ _ left right =>
    rw [Rule.isInner, Bool.and_eq_true] at isInner
    exact List.forall_mem_append.mpr ⟨left isInner.1, right isInner.2⟩
  | left _ ih => exact ih (Bool.and_eq_true_iff.mp isInner).1
  | right _ ih => exact ih (Bool.and_eq_true_iff.mp isInner).2
  | more _ _ once again => exact List.forall_mem_append.mpr ⟨once isInner, again isInner⟩
  | tree => exact List.forall_mem_singleton.mpr isInner

theorem ends (derives : rule.Derives trees) (endsWith : rule.endsWith last = true) :
    ∃ front back, trees = front ++ back ∧ (∀ tree ∈ front, tree.isInner = true) ∧
      last.Derives back := by
  induction rule generalizing trees with
  | both first second _ ih =>
    rw [Rule.endsWith, Bool.and_eq_true] at endsWith
    obtain ⟨before, behind, rfl, left, right⟩ := both_iff.mp derives
    obtain ⟨front, back, rfl, inner, ending⟩ := ih right endsWith.2
    exact ⟨before ++ front, back, by simp,
      List.forall_mem_append.mpr ⟨left.inner endsWith.1, inner⟩, ending⟩
  | _ => exact ⟨[], trees, rfl, by simp, of_decide_eq_true endsWith ▸ derives⟩

end Derives

end Rule

namespace Tree

theorem isInner_of_parts {trees : List Tree}
    (parts : ∀ tree ∈ partsOf trees, tree.isInner = true) :
    ∀ tree ∈ trees, tree.isInner = true := by
  intro tree member
  cases tree with
  | leaf => rfl
  | node => exact parts _ (List.mem_filter.mpr ⟨member, rfl⟩)

theorem isInner_of_child {kind : Kind} {start stop : Nat} {children : List Tree}
    (made : (Tree.node kind start stop children).IsWellMade)
    (simple : (kind.isInner || kind.isImport) = true) :
    ∀ child ∈ children, child.isInner = true := by
  have table : ∀ node ∈ Grammar.nodes, (node.1.isInner || node.1.isImport) = true →
      node.2.isInner = true := by decide
  obtain ⟨⟨rule, node, derives⟩, -⟩ := made
  exact isInner_of_parts (derives.inner (table _ node simple))

mutual

theorem isInner_of_subtree : (tree : Tree) → tree.IsWellMade → tree.isInner = true →
    ∀ inner ∈ tree.subtrees, inner.isInner = true
  | .leaf .., _, isInner, inner, member => List.mem_singleton.mp member ▸ isInner
  | .node kind _ _ children, made, isInner, inner, member => by
    rcases List.mem_cons.mp member with rfl | member
    · exact isInner
    · have simple : (kind.isInner || kind.isImport) = true := Bool.or_eq_true_iff.mpr (.inl isInner)
      exact isInner_of_subtreeOf children made.2.2.2 (isInner_of_child made simple) inner member

theorem isInner_of_subtreeOf : (trees : List Tree) → AreWellMade trees →
    (∀ tree ∈ trees, tree.isInner = true) → ∀ inner ∈ subtreesOf trees, inner.isInner = true
  | [], _, _, _, member => by cases member
  | tree :: rest, made, isInner, inner, member => by
    rw [List.forall_mem_cons] at isInner
    rcases List.mem_append.mp member with member | member
    · exact isInner_of_subtree tree made.1 isInner.1 inner member
    · exact isInner_of_subtreeOf rest made.2 isInner.2 inner member

end

theorem last_of_parts {children front : List Tree} {last : Tree} (edged : AreEdged children)
    (parts : partsOf children = front ++ [last]) :
    ∃ before, children = before ++ [last] ∧ partsOf before = front := by
  rcases List.eq_nil_or_concat children with rfl | ⟨before, child, rfl⟩
  · cases edged.1
  · have solid : child.isTrivia = false := by simpa [AreEdged] using edged.2
    simp only [List.concat_eq_append, partsOf, List.filter_append, List.filter_singleton, solid,
      Bool.not_false, cond_true] at parts ⊢
    obtain ⟨same, one⟩ := List.append_inj' parts rfl
    exact ⟨before, by rw [List.singleton_inj.mp one], same⟩

/-- Inner trees and the block behind them. -/
def AreBodied (trees : List Tree) : Prop :=
  ∃ before start stop children, trees = before ++ [.node .block start stop children] ∧
    ∀ tree ∈ before, tree.isInner = true

/-- Inner trees and the class or function behind them. -/
def AreDecorated (trees : List Tree) : Prop :=
  ∃ before kind start stop children, trees = before ++ [.node kind start stop children] ∧
    (kind = .classDef ∨ kind = .functionDef) ∧ ∀ tree ∈ before, tree.isInner = true

theorem AreBodied.cases {tree : Tree} {rest : List Tree} (bodied : AreBodied (tree :: rest)) :
    tree.isInner = true ∧ AreBodied rest ∨ tree.isNode .block = true ∧ rest = [] := by
  obtain ⟨before, start, stop, children, same, inner⟩ := bodied
  cases before with
  | nil =>
    cases same
    exact .inr ⟨rfl, rfl⟩
  | cons first more =>
    cases same
    rw [List.forall_mem_cons] at inner
    exact .inl ⟨inner.1, more, start, stop, children, rfl, inner.2⟩

variable {kind : Kind} {start stop : Nat} {children : List Tree}

theorem areBodied_of_definition (made : (Tree.node kind start stop children).IsWellMade)
    (definition : kind = .classDef ∨ kind = .functionDef) : AreBodied children := by
  have table : ∀ node ∈ Grammar.nodes, node.1 = .classDef ∨ node.1 = .functionDef →
      node.2.endsWith (.part .suite) = true := by decide
  obtain ⟨⟨rule, node, derives⟩, edged, -⟩ := made
  obtain ⟨front, back, parts, inner, suite⟩ := derives.ends (table _ node definition)
  have block : ∃ front' start stop children, back = front' ++ [.node .block start stop children] ∧
      ∀ tree ∈ front', tree.isInner = true := by
    simp only [Rule.Derives.part_iff, Grammar.rule, Rule.any, Rule.all, Rule.Derives.either_iff,
      Rule.Derives.tree_iff, Rule.Derives.both_iff, Rule.Derives.token_iff] at suite
    rcases suite with ⟨inside, rfl, -⟩ | ⟨-, -, rfl, ⟨place, text, rfl⟩, inside, rfl, -⟩ |
      ⟨inside, rfl, -⟩
    · exact ⟨[], _, _, inside, rfl, by simp⟩
    · exact ⟨[_], _, _, inside, rfl, by simp [isInner]⟩
    · exact ⟨[], _, _, inside, rfl, by simp⟩
  obtain ⟨more, start', stop', inside, rfl, also⟩ := block
  rw [← List.append_assoc] at parts
  obtain ⟨before, rfl, same⟩ := last_of_parts edged parts
  refine ⟨before, start', stop', inside, rfl, isInner_of_parts ?_⟩
  rw [same]
  exact List.forall_mem_append.mpr ⟨inner, also⟩

theorem areDecorated_of_node (made : (Tree.node .decorated start stop children).IsWellMade) :
    AreDecorated children := by
  have table : ∀ node ∈ Grammar.nodes, node.1 = .decorated →
      node.2.endsWith (.either (.part .functionDef) (.part .classDef)) = true := by decide
  obtain ⟨⟨rule, node, derives⟩, edged, -⟩ := made
  obtain ⟨front, back, parts, inner, definition⟩ := derives.ends (table _ node rfl)
  have single : ∃ kind start stop children, back = [.node kind start stop children] ∧
      (kind = .classDef ∨ kind = .functionDef) := by
    simp only [Rule.Derives.part_iff, Grammar.rule, Rule.Derives.either_iff,
      Rule.Derives.tree_iff] at definition
    rcases definition with ⟨inside, rfl, -⟩ | ⟨inside, rfl, -⟩
    · exact ⟨_, _, _, inside, rfl, .inr rfl⟩
    · exact ⟨_, _, _, inside, rfl, .inl rfl⟩
  obtain ⟨kind, start', stop', inside, rfl, either⟩ := single
  obtain ⟨before, rfl, same⟩ := last_of_parts edged parts
  exact ⟨before, kind, start', stop', inside, rfl, either, isInner_of_parts (same ▸ inner)⟩

end Tree

end PythonDocs.Python
