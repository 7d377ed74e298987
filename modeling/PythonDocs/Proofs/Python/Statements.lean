import PythonDocs.Proofs.Python.Nesting

namespace PythonDocs.Python

namespace Tree

mutual

/-- The classes and functions of a tree in the order in which they start. A decorated one is the
node with its decorators. -/
def definitions : Tree → List Tree
  | .leaf .. => []
  | .node kind start stop children =>
    match kind with
    | .classDef | .functionDef => .node kind start stop children :: definitionsOf children
    | .decorated => .node kind start stop children :: (definitionsOf children).tail
    | _ => definitionsOf children

def definitionsOf : List Tree → List Tree
  | [] => []
  | tree :: rest => tree.definitions ++ definitionsOf rest

end

def importsOf (trees : List Tree) : List Tree := (subtreesOf trees).filter isImport

def fromPath? (children : List Tree) : Option Tree :=
  match children.find? fun child => child.isNode .dottedName || child.isNode .relative with
  | some (.node .relative _ _ inner) => inner.find? (isNode .dottedName)
  | found => found

def modulePaths : Tree → List Tree
  | .node .importNames _ _ children => children.filter (isNode .dottedName)
  | .node .importFrom _ _ children => (fromPath? children).toList
  | _ => []

theorem definitionsOf_append (first second : List Tree) :
    definitionsOf (first ++ second) = definitionsOf first ++ definitionsOf second := by
  induction first with
  | nil => rfl
  | cons tree rest ih => simp only [List.cons_append, definitionsOf, ih, List.append_assoc]

theorem importsOf_append (first second : List Tree) :
    importsOf (first ++ second) = importsOf first ++ importsOf second := by
  rw [importsOf, subtreesOf_append, List.filter_append, importsOf, importsOf]

variable {kind : Kind} {start stop : Nat} {children : List Tree}

theorem importsOf_node (other : kind.isImport = false) :
    importsOf [.node kind start stop children] = importsOf children := by
  simp [importsOf, subtreesOf, subtrees, isImport, other]

theorem definitionsOf_node (plain : kind.isDefinition = false) :
    definitionsOf [.node kind start stop children] = definitionsOf children := by
  cases kind with
  | classDef | functionDef | decorated => cases plain
  | _ => simp [definitionsOf, definitions]

mutual

theorem mem_definitions : (tree : Tree) → ∀ inner ∈ tree.definitions,
    inner ∈ tree.subtrees ∧ inner.isDefinition = true
  | .leaf .., inner, member => by cases member
  | .node kind start stop children, inner, member => by
    have below (inside : inner ∈ definitionsOf children) :
        inner ∈ (node kind start stop children).subtrees ∧ inner.isDefinition = true :=
      (mem_definitionsOf children inner inside).imp_left (List.mem_cons_of_mem _)
    cases kind with
    | classDef | functionDef =>
      rcases List.mem_cons.mp member with rfl | member
      · exact ⟨List.mem_cons_self, rfl⟩
      · exact below member
    | decorated =>
      rcases List.mem_cons.mp member with rfl | member
      · exact ⟨List.mem_cons_self, rfl⟩
      · exact below (List.mem_of_mem_tail member)
    | _ => exact below member

theorem mem_definitionsOf : (trees : List Tree) → ∀ inner ∈ definitionsOf trees,
    inner ∈ subtreesOf trees ∧ inner.isDefinition = true
  | [], _, member => by cases member
  | tree :: rest, inner, member => by
    rcases List.mem_append.mp member with member | member
    · exact (mem_definitions tree inner member).imp_left (List.mem_append_left _)
    · exact (mem_definitionsOf rest inner member).imp_left (List.mem_append_right _)

end

theorem nothing_inner {trees : List Tree} (made : AreWellMade trees)
    (inner : ∀ tree ∈ trees, tree.isInner = true) : definitionsOf trees = [] ∧ importsOf trees = [] := by
  have below := isInner_of_subtreeOf trees made inner
  constructor
  · rw [List.eq_nil_iff_forall_not_mem]
    intro tree member
    obtain ⟨inside, definition⟩ := mem_definitionsOf trees tree member
    rw [(isDefinition_of_isInner (below tree inside)).1] at definition
    cases definition
  · rw [importsOf, List.filter_eq_nil_iff]
    intro tree member
    rw [(isDefinition_of_isInner (below tree member)).2]
    exact Bool.false_ne_true

def IsDefinedBy (tree definition : Tree) : Prop :=
  definition = tree ∨ definition.isNode .decorated = true ∧ tree ∈ definition.children

theorem definitionsOf_decorated {trees : List Tree} (made : AreWellMade trees)
    (decorated : AreDecorated trees) :
    ∃ tree ∈ trees, tree.isNode .decorated = false ∧
      definitionsOf trees = tree :: (definitionsOf trees).tail := by
  obtain ⟨before, kind, start, stop, children, rfl, definition, barren⟩ := decorated
  rw [areWellMade_append] at made
  have none := (nothing_inner made.1 barren).1
  refine ⟨.node kind start stop children, by simp, ?_, ?_⟩
  · rcases definition with rfl | rfl <;> rfl
  · rw [definitionsOf_append, none]
    rcases definition with rfl | rfl <;> simp [definitionsOf, definitions]

mutual

theorem definition_of_subtree : (tree : Tree) → tree.IsWellMade → ∀ inner ∈ tree.subtrees,
    inner.isNode .classDef = true ∨ inner.isNode .functionDef = true →
      ∃ definition ∈ tree.definitions, inner.IsDefinedBy definition
  | .leaf .., _, inner, member, defines => by
    rw [List.mem_singleton.mp member] at defines
    rcases defines with defines | defines <;> cases defines
  | .node kind start stop children, made, inner, member, defines => by
    rcases List.mem_cons.mp member with rfl | member
    · have own : kind = .classDef ∨ kind = .functionDef := by simpa [isNode] using defines
      rcases own with rfl | rfl
      · exact ⟨_, List.mem_cons_self, .inl rfl⟩
      · exact ⟨_, List.mem_cons_self, .inl rfl⟩
    · obtain ⟨definition, inside, defined⟩ :=
        definition_of_subtreeOf children made.2.2.2 inner member defines
      cases kind with
      | classDef | functionDef => exact ⟨definition, List.mem_cons_of_mem _ inside, defined⟩
      | decorated =>
        obtain ⟨first, child, plain, split⟩ :=
          definitionsOf_decorated made.2.2.2 (areDecorated_of_node made)
        rw [split] at inside
        -- the decorated one is no definition by itself, as the node around it is
        rcases List.mem_cons.mp inside with rfl | inside
        · rcases defined with rfl | ⟨decorated, -⟩
          · exact ⟨_, List.mem_cons_self, .inr ⟨rfl, child⟩⟩
          · rw [plain] at decorated
            cases decorated
        · exact ⟨definition, List.mem_cons_of_mem _ inside, defined⟩
      | _ => exact ⟨definition, inside, defined⟩

theorem definition_of_subtreeOf : (trees : List Tree) → AreWellMade trees →
    ∀ inner ∈ subtreesOf trees,
      inner.isNode .classDef = true ∨ inner.isNode .functionDef = true →
        ∃ definition ∈ definitionsOf trees, inner.IsDefinedBy definition
  | [], _, _, member, _ => by cases member
  | tree :: rest, made, inner, member, defines => by
    rcases List.mem_append.mp member with member | member
    · obtain ⟨definition, inside, defined⟩ :=
        definition_of_subtree tree made.1 inner member defines
      exact ⟨definition, List.mem_append_left _ inside, defined⟩
    · obtain ⟨definition, inside, defined⟩ :=
        definition_of_subtreeOf rest made.2 inner member defines
      exact ⟨definition, List.mem_append_right _ inside, defined⟩

end

end Tree

end PythonDocs.Python
