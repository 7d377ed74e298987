import Mathlib.Data.List.Forall2
import PythonDocs.Proofs.Python.Names
import PythonDocs.Proofs.Python.Statements
import PythonDocs.Proofs.Text.Dedent

namespace PythonDocs.Python

def Kind.isEntry (kind : Kind) : Bool := kind.isImport || kind.isDefinition

namespace Rule

def opens (known : Rule → Bool) : Bool → Rule → Bool
  | skips, .both first second =>
    first.opens known false || (first.opens known true && second.opens known skips)
  | skips, .either first second => first.opens known skips && second.opens known skips
  | skips, .many rule => skips && rule.opens known false
  | skips, .empty | skips, .require _ => skips
  | _, rule => known rule

def AreOpened (form : Tree → Prop) (trees : List Tree) : Prop :=
  ∃ tree rest, trees = tree :: rest ∧ form tree

theorem AreOpened.append {form : Tree → Prop} {first : List Tree} (opened : AreOpened form first)
    (second : List Tree) : AreOpened form (first ++ second) := by
  obtain ⟨tree, rest, rfl, formed⟩ := opened
  exact ⟨tree, rest ++ second, rfl, formed⟩

theorem Derives.opened {form : Tree → Prop} {known : Rule → Bool} {rule : Rule} {trees : List Tree}
    {skips : Bool}
    (given : ∀ {rule trees}, known rule = true → rule.Derives trees → AreOpened form trees)
    (derives : rule.Derives trees) (opens : rule.opens known skips = true) :
    AreOpened form trees ∨ skips = true ∧ trees = [] := by
  induction rule generalizing trees skips with
  | empty => exact .inr ⟨opens, empty_iff.mp derives⟩
  | require =>
    cases derives
    exact .inr ⟨opens, rfl⟩
  | token | part | tree => exact .inl (given opens derives)
  | both first second left right =>
    obtain ⟨before, behind, rfl, head, tail⟩ := both_iff.mp derives
    rw [Rule.opens, Bool.or_eq_true, Bool.and_eq_true] at opens
    rcases opens with first | ⟨first, second⟩
    · obtain opened | ⟨never, -⟩ := left head first
      · exact .inl (opened.append _)
      · cases never
    · obtain opened | ⟨-, rfl⟩ := left head first
      · exact .inl (opened.append _)
      · exact right tail second
  | either first second left right =>
    have both := Bool.and_eq_true_iff.mp opens
    exact (either_iff.mp derives).elim (left · both.1) (right · both.2)
  | many rule ih =>
    have both := Bool.and_eq_true_iff.mp opens
    rcases many_iff.mp derives with rfl | ⟨once, rest, rfl, head, -⟩
    · exact .inr ⟨both.1, rfl⟩
    · obtain opened | ⟨never, -⟩ := ih head both.2
      · exact .inl (opened.append _)
      · cases never

theorem Derives.starts {form : Tree → Prop} {known : Rule → Bool} {rule : Rule} {trees : List Tree}
    (given : ∀ {rule trees}, known rule = true → rule.Derives trees → AreOpened form trees)
    (derives : rule.Derives trees) (opens : rule.opens known false = true) :
    AreOpened form trees := (derives.opened given opens).resolve_right nofun

def isToken (terminals : Terminal → Bool) : Rule → Bool
  | .token terminal => terminals terminal
  | _ => false

theorem Derives.opened_of_isToken {terminals : Terminal → Bool} {rule : Rule} {trees : List Tree}
    (token : rule.isToken terminals = true) (derives : rule.Derives trees) :
    AreOpened (fun tree => ∃ terminal start text,
      tree = .leaf terminal start text ∧ terminals terminal = true) trees := by
  cases derives with
  | token terminal start text => exact ⟨_, [], rfl, terminal, start, text, rfl, token⟩
  | _ => cases token

end Rule

def Terminal.isFixed : Terminal → Bool
  | .keyword _ | .symbol _ => true
  | _ => false

theorem Rule.Derives.opened_of_entry {kind : Kind} {rule : Rule} {trees : List Tree}
    (node : (kind, rule) ∈ Grammar.nodes) (entry : kind.isEntry = true)
    (derives : rule.Derives trees) :
    AreOpened (fun tree => ∃ terminal start text,
      tree = .leaf terminal start text ∧ terminal.isFixed = true) trees := by
  have table : ∀ node ∈ Grammar.nodes, node.1.isEntry = true →
      node.2.opens (fun rule => rule.isToken Terminal.isFixed || rule = .part .decorator) false =
        true := by decide
  have decorator : (Grammar.rule .decorator).opens (isToken Terminal.isFixed) false = true := by
    decide
  refine derives.starts (fun known inner => ?_) (table _ node entry)
  rcases Bool.or_eq_true_iff.mp known with token | same
  · exact opened_of_isToken token inner
  · obtain rfl := of_decide_eq_true same
    exact (part_iff.mp inner).starts opened_of_isToken decorator

namespace Tree

def declares (tree : Tree) : Bool :=
  tree.isImport || tree.isNode .classDef || tree.isNode .functionDef

mutual

/-- The imports, classes and functions of a tree in the order in which they start. A decorated
class or function is the node with its decorators. -/
def entries : Tree → List Tree
  | .leaf .. => []
  | .node kind start stop children =>
    match kind with
    | .importNames | .importFrom | .importFuture | .classDef | .functionDef =>
      .node kind start stop children :: entriesOf children
    | .decorated => .node kind start stop children :: (entriesOf children).tail
    | _ => entriesOf children

def entriesOf : List Tree → List Tree
  | [] => []
  | tree :: rest => tree.entries ++ entriesOf rest

end

def Encloses (outer inner : Tree) : Prop := outer.start < inner.start ∧ inner.stop ≤ outer.stop

theorem entriesOf_append (first second : List Tree) :
    entriesOf (first ++ second) = entriesOf first ++ entriesOf second := by
  induction first with
  | nil => rfl
  | cons tree rest ih => simp only [List.cons_append, entriesOf, ih, List.append_assoc]

variable {kind : Kind} {start stop : Nat} {children : List Tree}

theorem entriesOf_single (tree : Tree) : entriesOf [tree] = tree.entries := List.append_nil _

theorem entries_of_plain (plain : kind.isEntry = false) :
    (node kind start stop children).entries = entriesOf children := by
  cases kind with
  | importNames | importFrom | importFuture | classDef | functionDef | decorated => cases plain
  | _ => simp [entries]

theorem entries_of_declaring (declares : (node kind start stop children).declares = true) :
    (node kind start stop children).entries =
      .node kind start stop children :: entriesOf children := by
  cases kind with
  | importNames | importFrom | importFuture | classDef | functionDef => simp [entries]
  | _ => cases declares

mutual

theorem mem_entries : (tree : Tree) → ∀ inner ∈ tree.entries,
    inner ∈ tree.subtrees ∧ ∃ kind start stop children,
      inner = .node kind start stop children ∧ kind.isEntry = true
  | .leaf .., inner, member => by cases member
  | .node kind start stop children, inner, member => by
    have below (inside : inner ∈ entriesOf children) := mem_entriesOf children inner inside
    cases kind with
    | importNames | importFrom | importFuture | classDef | functionDef =>
      rcases List.mem_cons.mp member with rfl | member
      · exact ⟨List.mem_cons_self, _, _, _, _, rfl, rfl⟩
      · exact (below member).imp_left (List.mem_cons_of_mem _)
    | decorated =>
      rcases List.mem_cons.mp member with rfl | member
      · exact ⟨List.mem_cons_self, _, _, _, _, rfl, rfl⟩
      · exact (below (List.mem_of_mem_tail member)).imp_left (List.mem_cons_of_mem _)
    | _ => exact (below member).imp_left (List.mem_cons_of_mem _)

theorem mem_entriesOf : (trees : List Tree) → ∀ inner ∈ entriesOf trees,
    inner ∈ subtreesOf trees ∧ ∃ kind start stop children,
      inner = .node kind start stop children ∧ kind.isEntry = true
  | [], _, member => by cases member
  | tree :: rest, inner, member => by
    rcases List.mem_append.mp member with member | member
    · exact (mem_entries tree inner member).imp_left (List.mem_append_left _)
    · exact (mem_entriesOf rest inner member).imp_left (List.mem_append_right _)

end

theorem entriesOf_inner {trees : List Tree} (made : AreWellMade trees)
    (inner : ∀ tree ∈ trees, tree.isInner = true) : entriesOf trees = [] := by
  rw [List.eq_nil_iff_forall_not_mem]
  intro tree member
  obtain ⟨inside, kind, start, stop, children, rfl, entry⟩ := mem_entriesOf trees tree member
  obtain ⟨noDefinition, noImport⟩ :=
    Kind.isDefinition_of_isInner (isInner_of_subtreeOf trees made inner _ inside)
  rw [Kind.isEntry, noDefinition, noImport] at entry
  cases entry

theorem declaring_inner {trees : List Tree} (made : AreWellMade trees)
    (inner : ∀ tree ∈ trees, tree.isInner = true) : (subtreesOf trees).filter declares = [] := by
  rw [List.filter_eq_nil_iff]
  intro tree member
  have own := isInner_of_subtreeOf trees made inner tree member
  rcases tree with _ | ⟨kind, start, stop, children⟩
  · exact Bool.false_ne_true
  · cases kind <;> first | exact Bool.false_ne_true | cases own

theorem entriesOf_decorated {trees : List Tree} (made : AreWellMade trees)
    (decorated : AreDecorated trees) :
    ∃ tree ∈ trees, ∃ kind start stop children, tree = .node kind start stop children ∧
      (kind = .classDef ∨ kind = .functionDef) ∧ entriesOf trees = tree :: entriesOf children ∧
      (subtreesOf trees).filter declares = tree :: (subtreesOf children).filter declares := by
  obtain ⟨before, kind, start, stop, children, rfl, definition, barren⟩ := decorated
  rw [areWellMade_append] at made
  have declaring : (node kind start stop children).declares = true := by
    rcases definition with rfl | rfl <;> rfl
  refine ⟨.node kind start stop children, by simp, kind, start, stop, children, rfl, definition,
    ?_, ?_⟩
  · rw [entriesOf_append, entriesOf_inner made.1 barren, entriesOf_single,
      entries_of_declaring declaring, List.nil_append]
  · rw [subtreesOf_append, List.filter_append, declaring_inner made.1 barren]
    simp [subtreesOf, subtrees, declaring]

mutual

theorem entries_of_declares : (tree : Tree) → tree.IsWellMade →
    List.Forall₂ IsDefinedBy (tree.subtrees.filter declares) tree.entries
  | .leaf .., _ => .nil
  | .node kind start stop children, made => by
    have below := entriesOf_of_declares children made.2.2.2
    by_cases declaring : (node kind start stop children).declares = true
    · rw [entries_of_declaring declaring, subtrees, List.filter_cons_of_pos declaring]
      exact .cons (.inl rfl) below
    · rw [subtrees, List.filter_cons_of_neg declaring]
      cases kind with
      | importNames | importFrom | importFuture | classDef | functionDef =>
        exact absurd rfl declaring
      | decorated =>
        obtain ⟨tree, child, _, _, _, inner, -, -, entries, subtrees⟩ :=
          entriesOf_decorated made.2.2.2 (areDecorated_of_node made)
        rw [entries, subtrees] at below
        rw [subtrees, Tree.entries, entries]
        cases below with
        | cons _ rest => exact .cons (.inr ⟨rfl, child⟩) rest
      | _ => exact below

theorem entriesOf_of_declares : (trees : List Tree) → AreWellMade trees →
    List.Forall₂ IsDefinedBy ((subtreesOf trees).filter declares) (entriesOf trees)
  | [], _ => .nil
  | tree :: rest, made => by
    rw [subtreesOf, List.filter_append]
    exact List.rel_append (entries_of_declares tree made.1) (entriesOf_of_declares rest made.2)

end

variable {source : List Char}

theorem starts_solid {terminal : Terminal} {text : List Char} (spelled : terminal.Spells text)
    (fixed : terminal.isFixed = true) : ∃ c rest, text = c :: rest ∧ Text.isBlank c = false := by
  have words : ∀ entry ∈ keywordTexts, entry.1.head?.map Text.isBlank = some false := by
    decide +kernel
  have marks : ∀ entry ∈ symbolTexts, entry.1.head?.map Text.isBlank = some false := by
    decide +kernel
  have head : text.head?.map Text.isBlank = some false := by
    cases terminal with
    | keyword => exact words _ spelled
    | symbol => exact marks _ spelled
    | _ => cases fixed
  cases text with
  | nil => cases head
  | cons c rest => exact ⟨c, rest, rfl, Option.some.inj head⟩

theorem opened_of_entry (made : (node kind start stop children).IsWellMade)
    (entry : kind.isEntry = true) (covers : (node kind start stop children).Covers source) :
    ∃ first rest, children = first :: rest ∧ entriesOf [first] = [] ∧ start < first.stop ∧
      first.stop ≤ stop ∧ Token.Tile source first.stop (tokensOf rest) stop ∧
      Text.IsSolidAt source start := by
  obtain ⟨⟨rule, node, derives⟩, edged, same, -⟩ := made
  obtain ⟨_, others, parts, terminal, place, text, rfl, fixed⟩ := derives.opened_of_entry node entry
  obtain ⟨rest, rfl, -⟩ := edged.head parts
  obtain rfl : start = place := congrArg Tree.start same
  obtain ⟨follows, tile⟩ := covers
  obtain ⟨c, more, rfl, solid⟩ := starts_solid follows.spelled fixed
  refine ⟨_, rest, rfl, rfl, ?_, tile.le, tile, Text.isSolidAt_of_slice follows.text solid⟩
  simp [Tree.stop]

theorem encloses_of_entry (made : (node kind start stop children).IsWellMade)
    (entry : kind.isEntry = true) (covers : (node kind start stop children).Covers source) :
    start < stop ∧
      ∀ inner ∈ entriesOf children, (node kind start stop children).Encloses inner := by
  obtain ⟨first, rest, rfl, none, begins, ends, tile, -⟩ := opened_of_entry made entry covers
  refine ⟨begins.trans_le ends, fun inner member => ?_⟩
  have split : entriesOf (first :: rest) = entriesOf [first] ++ entriesOf rest :=
    entriesOf_append [first] rest
  rw [split, none, List.nil_append] at member
  obtain ⟨behind, inside, -⟩ :=
    stands_of_subtree made.2.2.2.2 tile (mem_entriesOf rest inner member).1
  exact ⟨begins.trans_le behind, inside⟩

end Tree

end PythonDocs.Python
