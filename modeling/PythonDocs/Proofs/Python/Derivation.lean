import Mathlib.Data.List.Basic
import PythonDocs.Python.Grammar

namespace PythonDocs.Python

def partsOf (trees : List Tree) : List Tree := trees.filter fun tree => !tree.isTrivia

def AreEdged (trees : List Tree) : Prop :=
  trees.head?.map Tree.isTrivia = some false ∧ trees.getLast?.map Tree.isTrivia = some false

theorem AreEdged.head {trees rest : List Tree} {tree : Tree} (edged : AreEdged trees)
    (parts : partsOf trees = tree :: rest) :
    ∃ behind, trees = tree :: behind ∧ partsOf behind = rest := by
  cases trees with
  | nil => cases parts
  | cons first behind =>
    have solid : first.isTrivia = false := by simpa [AreEdged] using edged.1
    rw [partsOf, List.filter_cons_of_pos (by simp [solid]), List.cons.injEq] at parts
    obtain ⟨rfl, rest⟩ := parts
    exact ⟨behind, rfl, rest⟩

theorem AreEdged.eq_single {trees : List Tree} {tree : Tree} (edged : AreEdged trees)
    (parts : partsOf trees = [tree]) : trees = [tree] := by
  obtain ⟨behind, rfl, none⟩ := edged.head parts
  cases behind with
  | nil => rfl
  | cons next more =>
    have last := edged.2
    rw [List.getLast?_cons_cons, List.getLast?_eq_getLast_of_ne_nil (List.cons_ne_nil _ _)] at last
    have trivia := List.filter_eq_nil_iff.mp none _ (List.getLast_mem (List.cons_ne_nil next more))
    simp_all

namespace Rule

/-- The trees that a rule allows, in their order and without the trivia between them. -/
inductive Derives : Rule → List Tree → Prop
  | empty : Derives .empty []
  | token (terminal : Terminal) (start : Nat) (text : List Char) :
    Derives (.token terminal) [.leaf terminal start text]
  | part {category : Category} {trees : List Tree}
      (inner : Derives (Grammar.rule category) trees) : Derives (.part category) trees
  | both {first second : Rule} {before behind : List Tree} (left : Derives first before)
      (right : Derives second behind) : Derives (.both first second) (before ++ behind)
  | left {first second : Rule} {trees : List Tree} (inner : Derives first trees) :
    Derives (.either first second) trees
  | right {first second : Rule} {trees : List Tree} (inner : Derives second trees) :
    Derives (.either first second) trees
  | done (rule : Rule) : Derives (.many rule) []
  | more {rule : Rule} {first rest : List Tree} (once : Derives rule first)
      (again : Derives (.many rule) rest) : Derives (.many rule) (first ++ rest)
  | tree {kind : Kind} {rule : Rule} {children : List Tree} (edged : AreEdged children)
      (inner : Derives rule (partsOf children)) :
    Derives (.tree kind rule) [.ofChildren kind 0 children]
  | require (shape : Shape) : Derives (.require shape) []

def DeriveAll : List Rule → List Tree → Prop
  | [], trees => trees = []
  | rule :: rest, trees =>
    ∃ before behind, trees = before ++ behind ∧ rule.Derives before ∧ DeriveAll rest behind

def nodes : Rule → List (Kind × Rule)
  | .tree kind rule => (kind, rule) :: rule.nodes
  | .both first second | .either first second => first.nodes ++ second.nodes
  | .many rule => rule.nodes
  | _ => []

end Rule

def Category.all : List Category :=
  [.statement, .simpleStatement, .simpleLine, .suite, .elseClause, .dottedName, .importList,
    .expressions, .targets, .expression, .operand, .tail, .arithmetic, .primary, .atom, .trailer,
    .yield, .element, .moreElements, .entry, .moreEntries, .argument, .moreArguments,
    .subscripts, .slice, .assignment, .value, .comprehension, .filterExpression, .filterOperand,
    .filterTail, .source, .string, .interpolation, .lambdaParameter, .parameter, .tupleTarget,
    .starredName, .starredNames, .typeArguments, .type, .typeAtom, .exceptClause, .exceptGroup,
    .caseClause, .casePattern, .simplePattern, .patternAtom, .patternList, .starPattern,
    .decorator, .classDef, .functionDef]

theorem Category.mem_all (category : Category) : category ∈ all := by
  cases category <;> decide

def Grammar.nodes : List (Kind × Rule) := Category.all.flatMap fun category => (rule category).nodes

theorem Grammar.nodes_moduleRule : moduleRule.nodes ⊆ nodes := List.nil_subset _

namespace Rule

def isSolid (solid : Category → Bool) : Rule → Bool
  | .token _ | .tree .. => true
  | .part category => solid category
  | .both first second => first.isSolid solid || second.isSolid solid
  | .either first second => first.isSolid solid && second.isSolid solid
  | .empty | .many _ | .require _ => false

end Rule

def Category.isSolid : Nat → Category → Bool
  | 0, _ => false
  | steps + 1, category => (Grammar.rule category).isSolid (isSolid steps)

namespace Rule.Derives

variable {rule first second : Rule} {trees : List Tree}

@[simp] theorem empty_iff : Derives .empty trees ↔ trees = [] := by
  constructor
  · rintro ⟨⟩
    rfl
  · rintro rfl
    exact .empty

@[simp] theorem token_iff {terminal : Terminal} :
    Derives (.token terminal) trees ↔ ∃ start text, trees = [.leaf terminal start text] := by
  constructor
  · rintro ⟨⟩
    exact ⟨_, _, rfl⟩
  · rintro ⟨start, text, rfl⟩
    exact .token terminal start text

@[simp] theorem part_iff {category : Category} :
    Derives (.part category) trees ↔ Derives (Grammar.rule category) trees := by
  constructor
  · rintro ⟨⟩
    assumption
  · exact .part

@[simp] theorem both_iff : Derives (.both first second) trees ↔
    ∃ before behind, trees = before ++ behind ∧ Derives first before ∧ Derives second behind := by
  constructor
  · rintro ⟨⟩
    exact ⟨_, _, rfl, ‹_›, ‹_›⟩
  · rintro ⟨before, behind, rfl, left, right⟩
    exact .both left right

@[simp] theorem either_iff :
    Derives (.either first second) trees ↔ Derives first trees ∨ Derives second trees := by
  constructor
  · rintro ⟨⟩
    · exact .inl ‹_›
    · exact .inr ‹_›
  · rintro (inner | inner)
    · exact .left inner
    · exact .right inner

theorem many_iff : Derives (.many rule) trees ↔ trees = [] ∨
    ∃ once rest, trees = once ++ rest ∧ Derives rule once ∧ Derives (.many rule) rest := by
  constructor
  · rintro ⟨⟩
    · exact .inl rfl
    · exact .inr ⟨_, _, rfl, ‹_›, ‹_›⟩
  · rintro (rfl | ⟨once, rest, rfl, head, tail⟩)
    · exact .done rule
    · exact .more head tail

@[simp] theorem tree_iff {kind : Kind} : Derives (.tree kind rule) trees ↔
    ∃ children, trees = [.ofChildren kind 0 children] ∧ AreEdged children ∧
      Derives rule (partsOf children) := by
  constructor
  · rintro ⟨⟩
    exact ⟨_, rfl, ‹_›, ‹_›⟩
  · rintro ⟨children, rfl, edged, inner⟩
    exact .tree edged inner

theorem ne_nil_of_isSolid {solid : Category → Bool}
    (known : ∀ category, solid category = true →
      ∀ {trees}, Derives (Grammar.rule category) trees → trees ≠ [])
    (isSolid : rule.isSolid solid = true) (derives : Derives rule trees) : trees ≠ [] := by
  induction derives with
  | empty | done | require => cases isSolid
  | token | tree => exact List.cons_ne_nil _ _
  | part inner => exact known _ isSolid inner
  | both _ _ left right =>
    rw [Rule.isSolid, Bool.or_eq_true] at isSolid
    rw [ne_eq, List.append_eq_nil_iff]
    rintro ⟨empty, alsoEmpty⟩
    exact isSolid.elim (fun isSolid => left isSolid empty) fun isSolid => right isSolid alsoEmpty
  | left _ ih =>
    rw [Rule.isSolid, Bool.and_eq_true] at isSolid
    exact ih isSolid.1
  | right _ ih =>
    rw [Rule.isSolid, Bool.and_eq_true] at isSolid
    exact ih isSolid.2
  | more => cases isSolid

theorem ne_nil_of_category {steps : Nat} {category : Category}
    (isSolid : category.isSolid steps = true)
    (derives : Derives (Grammar.rule category) trees) : trees ≠ [] := by
  induction steps generalizing category trees with
  | zero => cases isSolid
  | succ steps ih => exact ne_nil_of_isSolid (fun _ solid _ inner => ih solid inner) isSolid derives

theorem ne_nil_of_node {kind : Kind} (node : (kind, rule) ∈ Grammar.nodes)
    (derives : Derives rule trees) : trees ≠ [] := by
  have table : ∀ node ∈ Grammar.nodes, node.2.isSolid (Category.isSolid 5) = true := by
    decide
  exact ne_nil_of_isSolid (fun _ isSolid _ inner => ne_nil_of_category isSolid inner)
    (table _ node) derives

end Rule.Derives

mutual

def Tree.IsWellMade : Tree → Prop
  | .leaf .. => True
  | .node kind start stop children =>
    (∃ rule, (kind, rule) ∈ Grammar.nodes ∧ rule.Derives (partsOf children)) ∧
      AreEdged children ∧ .node kind start stop children = Tree.ofChildren kind 0 children ∧
      Tree.AreWellMade children

def Tree.AreWellMade : List Tree → Prop
  | [] => True
  | tree :: rest => tree.IsWellMade ∧ AreWellMade rest

end

namespace Tree

theorem areWellMade_iff {trees : List Tree} :
    AreWellMade trees ↔ ∀ tree ∈ trees, tree.IsWellMade := by
  induction trees with
  | nil => simp [AreWellMade]
  | cons tree rest ih => simp [AreWellMade, ih]

theorem areWellMade_of_parts {trees : List Tree} (parts : AreWellMade (partsOf trees)) :
    AreWellMade trees := by
  rw [areWellMade_iff] at parts ⊢
  intro tree member
  cases tree with
  | leaf => trivial
  | node kind start stop children =>
    -- only leaves are left out of the parts
    exact parts _ (List.mem_filter.mpr ⟨member, rfl⟩)

theorem areWellMade_parts {trees : List Tree} (made : AreWellMade trees) :
    AreWellMade (partsOf trees) := by
  rw [areWellMade_iff] at made ⊢
  exact fun tree member => made tree (List.mem_filter.mp member).1

theorem areWellMade_append {first second : List Tree} :
    AreWellMade (first ++ second) ↔ AreWellMade first ∧ AreWellMade second := by
  simp only [areWellMade_iff, List.mem_append, or_imp, forall_and]

theorem areWellMade_of_derives {rule : Rule} {trees : List Tree} (derives : rule.Derives trees)
    (known : rule.nodes ⊆ Grammar.nodes) : AreWellMade trees := by
  induction derives with
  | empty | done | require => trivial
  | token => exact ⟨trivial, trivial⟩
  | @part category trees _ ih =>
    refine ih fun node member => ?_
    exact List.mem_flatMap.mpr ⟨category, Category.mem_all category, member⟩
  | both _ _ left right =>
    rw [Rule.nodes, List.append_subset] at known
    exact areWellMade_append.mpr ⟨left known.1, right known.2⟩
  | left _ ih =>
    rw [Rule.nodes, List.append_subset] at known
    exact ih known.1
  | right _ ih =>
    rw [Rule.nodes, List.append_subset] at known
    exact ih known.2
  | more _ _ once again => exact areWellMade_append.mpr ⟨once known, again known⟩
  | tree edged inner ih =>
    rw [Rule.nodes, List.cons_subset] at known
    exact ⟨⟨⟨_, known.1, inner⟩, edged, rfl, areWellMade_of_parts (ih known.2)⟩, trivial⟩

end Tree

end PythonDocs.Python
