import PythonDocs.Proofs.Python.Subtrees
import PythonDocs.Python.Outline

namespace PythonDocs.Python

def Token.AreSpelled (tokens : List Token) : Prop :=
  ∀ token ∈ tokens, token.terminal.Spells token.text

theorem Token.Tile.areSpelled {source : List Char} {place final : Nat} {tokens : List Token}
    (tile : Tile source place tokens final) : AreSpelled tokens := by
  induction tokens generalizing place with
  | nil => exact nofun
  | cons token rest ih => exact List.forall_mem_cons.mpr ⟨tile.1.spelled, ih tile.2⟩

namespace Rule

/-- Whether all that a rule allows has what another one allows, outside of the nodes it makes. -/
def isDemandedBy (wanted : Rule) : Rule → Bool
  | .both first second => wanted.isDemandedBy first || wanted.isDemandedBy second
  | .either first second => wanted.isDemandedBy first && wanted.isDemandedBy second
  | own => own = wanted

theorem Derives.infix_of_demanded {rule wanted : Rule} {trees : List Tree}
    (derives : rule.Derives trees) (demanded : wanted.isDemandedBy rule = true) :
    ∃ inner, inner <:+: trees ∧ wanted.Derives inner := by
  induction rule generalizing trees with
  | both first second left right =>
    obtain ⟨before, behind, rfl, head, tail⟩ := both_iff.mp derives
    rcases Bool.or_eq_true_iff.mp demanded with first | second
    · obtain ⟨inner, inside, given⟩ := left head first
      exact ⟨inner, inside.trans (List.prefix_append before behind).isInfix, given⟩
    · obtain ⟨inner, inside, given⟩ := right tail second
      exact ⟨inner, inside.trans (List.suffix_append before behind).isInfix, given⟩
  | either first second left right =>
    have both := Bool.and_eq_true_iff.mp demanded
    exact (either_iff.mp derives).elim (left · both.1) (right · both.2)
  | _ => exact ⟨trees, List.infix_rfl, of_decide_eq_true demanded ▸ derives⟩

end Rule

namespace Tree

variable {kind : Kind} {start stop : Nat} {children : List Tree}

theorem identifier_of_definition (made : (node kind start stop children).IsWellMade)
    (definition : kind = .classDef ∨ kind = .functionDef) :
    ∃ start text, .leaf .identifier start text ∈ children := by
  have table : ∀ node ∈ Grammar.nodes, node.1 = .classDef ∨ node.1 = .functionDef →
      (Rule.token .identifier).isDemandedBy node.2 = true := by decide
  obtain ⟨⟨rule, node, derives⟩, -⟩ := made
  obtain ⟨_, inside, inner⟩ := derives.infix_of_demanded (table _ node definition)
  obtain ⟨start, text, rfl⟩ := Rule.Derives.token_iff.mp inner
  exact ⟨start, text, (List.mem_filter.mp (inside.subset (List.mem_singleton_self _))).1⟩

theorem mem_tokensOf_of_leaf {trees : List Tree} {terminal : Terminal} {text : List Char}
    (member : .leaf terminal start text ∈ trees) : ⟨terminal, start, text⟩ ∈ tokensOf trees := by
  obtain ⟨before, behind, rfl⟩ := List.append_of_mem member
  rw [tokensOf_append]
  exact List.mem_append_right _ List.mem_cons_self

theorem definedName_ne_empty (made : (node kind start stop children).IsWellMade)
    (definition : kind = .classDef ∨ kind = .functionDef)
    (spelled : Token.AreSpelled (tokensOf children)) : definedName children ≠ "" := by
  obtain ⟨place, word, member⟩ := identifier_of_definition made definition
  unfold definedName
  cases found : children.findSome? identifierText? with
  | none =>
    have unnamed := List.findSome?_eq_none_iff.mp found _ member
    cases unnamed
  | some name =>
    obtain ⟨child, inside, given⟩ := List.exists_of_findSome?_eq_some found
    unfold identifierText? at given
    split at given
    · rename_i text
      cases given
      have identifier : Text.IsIdentifier text := spelled _ (mem_tokensOf_of_leaf inside)
      simpa using identifier.ne_nil
    · cases given

end Tree

end PythonDocs.Python
