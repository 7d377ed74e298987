import PythonDocs.Proofs.Python.Tokens

namespace PythonDocs.Python

namespace Tree

mutual

def subtrees : Tree → List Tree
  | .leaf terminal start text => [.leaf terminal start text]
  | .node kind start stop children => .node kind start stop children :: subtreesOf children

def subtreesOf : List Tree → List Tree
  | [] => []
  | tree :: rest => tree.subtrees ++ subtreesOf rest

end

theorem subtreesOf_append (first second : List Tree) :
    subtreesOf (first ++ second) = subtreesOf first ++ subtreesOf second := by
  induction first with
  | nil => rfl
  | cons tree rest ih => simp only [List.cons_append, subtreesOf, ih, List.append_assoc]

theorem self_mem_subtrees (tree : Tree) : tree ∈ tree.subtrees := by
  cases tree <;> exact List.mem_cons_self

theorem self_mem_subtreesOf {tree : Tree} {trees : List Tree} (member : tree ∈ trees) :
    tree ∈ subtreesOf trees := by
  obtain ⟨before, behind, rfl⟩ := List.append_of_mem member
  rw [subtreesOf_append, subtreesOf]
  exact List.mem_append_right _ (List.mem_append_left _ tree.self_mem_subtrees)

mutual

theorem isWellMade_of_subtree : (tree : Tree) → tree.IsWellMade →
    ∀ inner ∈ tree.subtrees, inner.IsWellMade
  | .leaf .., made, inner, member => List.mem_singleton.mp member ▸ made
  | .node _ _ _ children, made, inner, member => by
    rcases List.mem_cons.mp member with rfl | member
    · exact made
    · exact isWellMade_of_subtreeOf children made.2.2.2 inner member

theorem isWellMade_of_subtreeOf : (trees : List Tree) → AreWellMade trees →
    ∀ inner ∈ subtreesOf trees, inner.IsWellMade
  | [], _, _, member => by cases member
  | tree :: rest, made, inner, member => by
    rcases List.mem_append.mp member with member | member
    · exact isWellMade_of_subtree tree made.1 inner member
    · exact isWellMade_of_subtreeOf rest made.2 inner member

end

variable {source : List Char}

mutual

theorem tile_of_subtree : (tree : Tree) → {place final : Nat} →
    Token.Tile source place tree.tokens final → ∀ inner ∈ tree.subtrees,
      ∃ first last, place ≤ first ∧ last ≤ final ∧ Token.Tile source first inner.tokens last
  | .leaf .., place, final, tile, inner, member => by
    rw [List.mem_singleton.mp member]
    exact ⟨place, final, Nat.le_refl _, Nat.le_refl _, tile⟩
  | .node _ _ _ children, place, final, tile, inner, member => by
    rcases List.mem_cons.mp member with rfl | member
    · exact ⟨place, final, Nat.le_refl _, Nat.le_refl _, tile⟩
    · exact tile_of_subtreeOf children tile inner member

theorem tile_of_subtreeOf : (trees : List Tree) → {place final : Nat} →
    Token.Tile source place (tokensOf trees) final → ∀ inner ∈ subtreesOf trees,
      ∃ first last, place ≤ first ∧ last ≤ final ∧ Token.Tile source first inner.tokens last
  | [], _, _, _, _, member => by cases member
  | tree :: rest, place, final, tile, inner, member => by
    obtain ⟨middle, left, right⟩ := Token.tile_append.mp tile
    rcases List.mem_append.mp member with member | member
    · obtain ⟨first, last, after, before, own⟩ := tile_of_subtree tree left inner member
      exact ⟨first, last, after, before.trans right.le, own⟩
    · obtain ⟨first, last, after, before, own⟩ := tile_of_subtreeOf rest right inner member
      exact ⟨first, last, left.le.trans after, before, own⟩

end

def Covers (source : List Char) (tree : Tree) : Prop :=
  Token.Tile source tree.start tree.tokens tree.stop

theorem stands_of_subtree {trees : List Tree} {place final : Nat} (made : AreWellMade trees)
    (tile : Token.Tile source place (tokensOf trees) final) {tree : Tree}
    (member : tree ∈ subtreesOf trees) :
    place ≤ tree.start ∧ tree.stop ≤ final ∧ tree.Covers source := by
  have own := isWellMade_of_subtreeOf trees made tree member
  obtain ⟨first, last, after, before, inner⟩ := tile_of_subtreeOf trees tile tree member
  have starts := head?_tokens tree own
  have ends := getLast?_tokens tree own
  unfold Covers
  cases tokens : tree.tokens with
  | nil => rw [tokens] at starts; cases starts
  | cons token rest =>
    rw [tokens] at inner starts ends
    have begins := inner.1.behind
    obtain rfl := inner.stop_last ends
    rw [← Option.some.inj starts]
    exact ⟨after.trans begins, before, inner.from_first⟩

theorem covers_of_subtree {trees : List Tree} {place final : Nat} (made : AreWellMade trees)
    (tile : Token.Tile source place (tokensOf trees) final) {tree : Tree}
    (member : tree ∈ subtreesOf trees) : tree.Covers source :=
  (stands_of_subtree made tile member).2.2

theorem covers_of_single {tree : Tree} {place final : Nat} (made : tree.IsWellMade)
    (tile : Token.Tile source place (tokensOf [tree]) final) : tree.Covers source := by
  have alone : AreWellMade [tree] := ⟨made, trivial⟩
  exact covers_of_subtree alone tile (self_mem_subtreesOf List.mem_cons_self)

end Tree

end PythonDocs.Python
