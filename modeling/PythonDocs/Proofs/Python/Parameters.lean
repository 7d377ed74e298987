import PythonDocs.Proofs.Python.Functions

namespace PythonDocs

namespace Python

def Terminal.isStar (terminal : Terminal) : Bool :=
  terminal = .symbol .star || terminal = .symbol .power

def Terminal.endsName (terminal : Terminal) : Bool :=
  terminal = .symbol .colon || terminal = .symbol .assign

namespace Token

def solid (tokens : List Token) : List Token :=
  tokens.filter fun token => !token.terminal.isTrivia

def named? : List Token → Option String
  | [] => none
  | token :: rest =>
    if token.terminal.isName && rest.head?.all (·.terminal.endsName) then
      some (.ofList token.text)
    else none

def declared? (tokens : List Token) : Option String :=
  match solid tokens with
  | [] => none
  | token :: rest => if token.terminal.isStar then named? rest else named? (token :: rest)

/-- A comment or a continued line stands directly behind the star. -/
def hides : List Token → Bool
  | star :: next :: _ => star.terminal.isStar && next.terminal.isTrivia
  | _ => false

theorem solid_append (first second : List Token) :
    solid (first ++ second) = solid first ++ solid second := List.filter_append ..

theorem declared?_cons {token : Token} (plain : token.terminal.isTrivia = false)
    (rest : List Token) : declared? (token :: rest) =
      if token.terminal.isStar then named? (solid rest) else named? (token :: solid rest) := by
  simp [declared?, solid, plain]

theorem hides_of_other {token : Token} (other : token.terminal.isStar = false)
    (rest : List Token) : hides (token :: rest) = false := by
  cases rest <;> simp [hides, other]

def listed? (tokens : List Token) : Option String :=
  if hides tokens then none else declared? tokens

theorem listed?_of_other {token : Token} (plain : token.terminal.isTrivia = false)
    (other : token.terminal.isStar = false) (rest : List Token) :
    listed? (token :: rest) = named? (token :: solid rest) := by
  simp [listed?, hides_of_other other, declared?_cons plain, other]

theorem named?_of_other {token : Token} {rest : List Token} (other : token.terminal.isName = false) :
    named? (token :: rest) = none := by
  simp [named?, other]

end Token

namespace Tree

open Token (solid named? declared? hides listed?)

def declaredName? (parameter : Tree) : Option String := declared? parameter.tokens

def isHidden (parameter : Tree) : Bool := hides parameter.tokens

theorem solid_tokensOf (trees : List Tree) :
    solid (tokensOf (partsOf trees)) = solid (tokensOf trees) := by
  induction trees with
  | nil => rfl
  | cons tree rest ih =>
    cases trivia : tree.isTrivia with
    | false =>
      rw [partsOf, List.filter_cons_of_pos (by simp [trivia])]
      simp only [tokensOf, Token.solid_append]
      rw [← ih, partsOf]
    | true =>
      rw [partsOf, List.filter_cons_of_neg (by simp [trivia])]
      rcases tree with ⟨terminal, start, text⟩ | _
      · have none : solid (leaf terminal start text).tokens = [] :=
          List.filter_eq_nil_iff.mpr (by simpa [tokens, Tree.isTrivia] using trivia)
        rw [tokensOf, Token.solid_append, none, ← ih, partsOf, List.nil_append]
      · cases trivia

def isOpening (terminal : Terminal) : Bool :=
  match terminal with
  | .symbol mark => [Symbol.leftParen, .leftBracket, .dot, .star, .power].contains mark
  | _ => false

theorem isOpening_solid {terminal : Terminal} (opening : isOpening terminal = true) :
    terminal.isTrivia = false ∧ terminal.isName = false ∧ terminal.endsName = false := by
  cases terminal with
  | symbol mark => cases mark <;> first | exact ⟨rfl, rfl, rfl⟩ | cases opening
  | _ => cases opening

def opensMarked (kind : Kind) : Bool := [Kind.group, .starred, .member, .call].contains kind

theorem tokens_of_opensMarked {kind : Kind} {start stop : Nat} {children : List Tree}
    (made : (node kind start stop children).IsWellMade) (marked : opensMarked kind = true) :
    ∃ token rest, (node kind start stop children).tokens = token :: rest ∧
      isOpening token.terminal = true := by
  have table : ∀ node ∈ Grammar.nodes, opensMarked node.1 = true →
      node.2.opens (Rule.isToken isOpening) false = true := by decide
  obtain ⟨⟨rule, node, derives⟩, edged, -⟩ := made
  obtain ⟨_, others, parts, terminal, place, text, rfl, opening⟩ :=
    derives.starts Rule.Derives.opened_of_isToken (table _ node marked)
  obtain ⟨behind, rfl, -⟩ := edged.head parts
  exact ⟨⟨terminal, place, text⟩, tokensOf behind, rfl, opening⟩

end Tree

def Tree.IsMarked (tree : Tree) : Prop :=
  ∃ kind start stop children, tree = .node kind start stop children ∧ opensMarked kind = true

/-- A tree that starts with no name. -/
def Tree.IsUnnamed (tree : Tree) : Prop :=
  (∃ terminal start text, tree = .leaf terminal start text ∧ (!terminal.isName) = true) ∨
    tree.IsMarked

namespace Rule

def isLeaf : Rule → Bool
  | .token terminal => !terminal.isTrivia
  | .either first second => first.isLeaf && second.isLeaf
  | _ => false

def isMarked : Rule → Bool
  | .tree kind _ => Tree.opensMarked kind
  | _ => false

def isUnnamed (rule : Rule) : Bool :=
  rule.isToken (fun terminal => !terminal.isName) || rule.isMarked || rule = .part .string ||
    rule = .part .starredName

namespace Derives

variable {rule : Rule} {trees : List Tree}

theorem leaf (derives : rule.Derives trees) (isLeaf : rule.isLeaf = true) :
    ∃ terminal start text, trees = [.leaf terminal start text] ∧ terminal.isTrivia = false := by
  induction derives with
  | token terminal start text => exact ⟨terminal, start, text, rfl, by simpa [Rule.isLeaf] using isLeaf⟩
  | left _ ih => exact ih (Bool.and_eq_true_iff.mp isLeaf).1
  | right _ ih => exact ih (Bool.and_eq_true_iff.mp isLeaf).2
  | _ => cases isLeaf

theorem opened_of_isMarked (marked : rule.isMarked = true) (derives : rule.Derives trees) :
    AreOpened Tree.IsMarked trees := by
  cases derives with
  | tree => exact ⟨_, [], rfl, _, _, _, _, rfl, marked⟩
  | _ => cases marked

theorem opened_of_isUnnamed (unnamed : rule.isUnnamed = true) (derives : rule.Derives trees) :
    AreOpened Tree.IsUnnamed trees := by
  have string : (Grammar.rule .string).opens (isToken fun terminal => !terminal.isName) false =
      true := by decide
  have starred : (Grammar.rule .starredName).opens isMarked false = true := by decide
  simp only [isUnnamed, Bool.or_eq_true] at unnamed
  rcases unnamed with ((token | marked) | same) | same
  · exact (opened_of_isToken token derives).imp fun _ => .imp fun _ => .imp_right .inl
  · exact (opened_of_isMarked marked derives).imp fun _ => .imp fun _ => .imp_right .inr
  · obtain rfl := of_decide_eq_true same
    have opened := (part_iff.mp derives).starts opened_of_isToken string
    exact opened.imp fun _ => .imp fun _ => .imp_right .inl
  · obtain rfl := of_decide_eq_true same
    have opened := (part_iff.mp derives).starts opened_of_isMarked starred
    exact opened.imp fun _ => .imp fun _ => .imp_right .inr

theorem atom_cases (derives : (Grammar.rule .atom).Derives trees) :
    (∃ terminal start text, trees = [.leaf terminal start text] ∧ terminal.isTrivia = false) ∨
      AreOpened Tree.IsUnnamed trees := by
  rcases either_iff.mp derives with name | derives
  · exact .inl (name.leaf (by decide))
  rcases either_iff.mp derives with word | derives
  · exact .inl (word.leaf (by decide))
  rcases either_iff.mp derives with number | derives
  · exact .inl (number.leaf (by decide))
  rcases either_iff.mp derives with ellipsis | derives
  · exact .inl (ellipsis.leaf (by decide))
  exact .inr (derives.starts opened_of_isUnnamed (by decide))

theorem opened_of_trailer (known : (rule.isMarked || rule = .part .trailer) = true)
    (derives : rule.Derives trees) : AreOpened Tree.IsMarked trees := by
  have trailer : (Grammar.rule .trailer).opens isMarked false = true := by decide
  rcases Bool.or_eq_true_iff.mp known with marked | same
  · exact opened_of_isMarked marked derives
  · obtain rfl := of_decide_eq_true same
    exact (part_iff.mp derives).starts opened_of_isMarked trailer

end Derives

end Rule

namespace Tree

open Token (solid named? declared? hides listed?)

theorem exists_head : (tree : Tree) → tree.IsWellMade → tree.isTrivia = false →
    ∃ token rest, tree.tokens = token :: rest ∧ token.terminal.isTrivia = false
  | .leaf terminal start text, _, plain => ⟨⟨terminal, start, text⟩, [], rfl, plain⟩
  | .node _ _ _ [], ⟨_, edged, _⟩, _ => by cases edged.1
  | .node _ _ _ (first :: rest), ⟨_, edged, _, made⟩, _ => by
    obtain ⟨token, more, tokens, plain⟩ :=
      exists_head first made.1 (by simpa [AreEdged] using edged.1)
    exact ⟨token, more ++ tokensOf rest, by simp [Tree.tokens, tokensOf, tokens], plain⟩

theorem boundName?_starred (star : Tree) (more : List Tree) (start stop first last : Nat)
    (inner : List Tree) :
    boundName? (node .starred start stop (star :: .node .primary first last inner :: more)) =
      boundName? (node .primary first last inner) := by
  match inner with
  | [] | [.leaf ..] | [.node ..] | .leaf .. :: _ :: _ | .node .. :: _ :: _ => rfl

theorem IsMarked.tokens {tree : Tree} (marked : tree.IsMarked) (made : tree.IsWellMade) :
    ∃ token rest, tree.tokens = token :: rest ∧ isOpening token.terminal = true := by
  obtain ⟨kind, start, stop, children, rfl, opens⟩ := marked
  exact tokens_of_opensMarked made opens

theorem IsUnnamed.solid {tree : Tree} (unnamed : tree.IsUnnamed) (made : tree.IsWellMade)
    (plain : tree.isTrivia = false) :
    ∃ token rest, solid tree.tokens = token :: rest ∧ token.terminal.isName = false := by
  rcases unnamed with ⟨terminal, start, text, rfl, other⟩ | marked
  · have noTrivia : terminal.isTrivia = false := plain
    exact ⟨⟨terminal, start, text⟩, [], by simp [Token.solid, Tree.tokens, noTrivia],
      by simpa using other⟩
  · obtain ⟨token, rest, tokens, opening⟩ := marked.tokens made
    obtain ⟨noTrivia, noName, -⟩ := isOpening_solid opening
    exact ⟨token, Token.solid rest, by simp [Token.solid, tokens, noTrivia], noName⟩

theorem parts_of_primary {start stop : Nat} {children : List Tree}
    (made : (node .primary start stop children).IsWellMade) :
    ∃ first others, partsOf children = first ++ others ∧
      ((∃ terminal start text, first = [.leaf terminal start text] ∧ terminal.isTrivia = false) ∨
        Rule.AreOpened IsUnnamed first) ∧
      (others = [] ∨ Rule.AreOpened IsMarked others) := by
  have table : ∀ node ∈ Grammar.nodes, node.1 = .primary →
      .tree .primary node.2 = Grammar.rule .primary := by decide
  obtain ⟨⟨rule, node, derives⟩, -⟩ := made
  obtain ⟨-, rfl⟩ := Rule.tree.inj (table _ node rfl)
  have others {rule : Rule} {trees : List Tree} (derives : rule.Derives trees)
      (opens : rule.opens (fun rule => rule.isMarked || rule = .part .trailer) true = true) :
      trees = [] ∨ Rule.AreOpened IsMarked trees :=
    (derives.opened Rule.Derives.opened_of_trailer opens).symm.imp_left And.right
  rcases Rule.Derives.either_iff.mp derives with atom | await
  · obtain ⟨first, behind, parts, head, tail⟩ := Rule.Derives.both_iff.mp atom
    exact ⟨first, behind, parts, (Rule.Derives.part_iff.mp head).atom_cases,
      others tail (by decide)⟩
  · obtain ⟨first, behind, parts, head, tail⟩ := Rule.Derives.both_iff.mp await
    exact ⟨first, behind, parts, .inl (head.leaf (by decide)), others tail (by decide)⟩

/-- The tokens of a primary, and the ends of a name perhaps behind it, are a name where it is
nothing but that. -/
theorem named?_of_primary {start stop : Nat} {children : List Tree}
    (made : (node .primary start stop children).IsWellMade) {rest : List Token}
    (ends : rest.head?.all (·.terminal.endsName) = true) :
    named? (solid (tokensOf children) ++ rest) = boundName? (node .primary start stop children) := by
  obtain ⟨first, others, parts, head, tail⟩ := parts_of_primary made
  obtain ⟨-, edged, -, below⟩ := made
  have areSolid : ∀ tree ∈ first ++ others, tree.isTrivia = false ∧ tree.IsWellMade := by
    intro tree member
    obtain ⟨inside, plain⟩ := List.mem_filter.mp (parts ▸ member : tree ∈ partsOf children)
    exact ⟨by simpa using plain, areWellMade_iff.mp below tree inside⟩
  rw [← solid_tokensOf, parts]
  rcases head with ⟨terminal, place, text, rfl, solidLeaf⟩ | ⟨tree, more, rfl, unnamed⟩
  · rcases tail with rfl | ⟨tail, more, rfl, marked⟩
    · rw [edged.eq_single parts]
      simp [solid, tokensOf, tokens, solidLeaf, named?, ends, boundName?]
    · -- a name with a member or a call behind it is no name
      obtain ⟨behind, rfl, rest⟩ := edged.head parts
      obtain ⟨token, others, tokens, opening⟩ := marked.tokens (areSolid tail (by simp)).2
      obtain ⟨noTrivia, -, noEnd⟩ := isOpening_solid opening
      cases behind with
      | nil => cases rest
      | cons next final =>
        simp [solid, tokensOf, Tree.tokens, tokens, solidLeaf, noTrivia, named?, noEnd, boundName?]
  · obtain ⟨plain, made⟩ := areSolid tree List.mem_cons_self
    obtain ⟨token, rest, tokens, noName⟩ := unnamed.solid made plain
    obtain ⟨behind, rfl, -⟩ := edged.head parts
    rw [List.cons_append, tokensOf, Token.solid_append, tokens]
    rw [List.cons_append, List.cons_append, Token.named?_of_other noName]
    rcases unnamed with ⟨terminal, start, text, rfl, other⟩ | ⟨_, _, _, _, rfl, -⟩
    · cases behind <;> simp_all [boundName?]
    · cases behind <;> rfl

/-- The tokens of a tree, and the ends of a name behind it, declare the name that is read off the
tree. -/
def Binds (tree : Tree) : Prop :=
  ∀ rest, (solid rest).head?.all (·.terminal.endsName) = true →
    listed? (tree.tokens ++ rest) = boundName? tree

theorem binds_leaf {terminal : Terminal} {start : Nat} {text : List Char}
    (plain : terminal.isTrivia = false) (noStar : terminal.isStar = false) :
    (leaf terminal start text).Binds := by
  intro rest ends
  rw [tokens, List.singleton_append, Token.listed?_of_other plain noStar]
  simp [named?, ends, boundName?]

theorem binds_starred {mark : Symbol} {start stop : Nat} {children inner : List Tree}
    (star : (Terminal.symbol mark).isStar = true)
    (made : (node .starred start stop children).IsWellMade) {place first last : Nat}
    {text : List Char}
    (parts : partsOf children = [.leaf (.symbol mark) place text, .node .primary first last inner]) :
    (node .starred start stop children).Binds := by
  intro rest ends
  obtain ⟨-, edged, -, below⟩ := made
  obtain ⟨behind, rfl, primary⟩ := edged.head parts
  cases behind with
  | nil => cases primary
  | cons next more =>
    rw [tokens, tokensOf, tokens, List.singleton_append, List.cons_append, tokensOf]
    cases trivia : next.isTrivia with
    | true =>
      rcases next with ⟨terminal, start, word⟩ | _
      · have hidden : terminal.isTrivia = true := trivia
        simp [tokens, listed?, hides, star, hidden, boundName?]
      · cases trivia
    | false =>
      rw [partsOf, List.filter_cons_of_pos (by simp [trivia]), List.cons.injEq] at primary
      obtain ⟨rfl, nothing⟩ := primary
      have made := below.2.1
      obtain ⟨token, others, head, plain⟩ := exists_head _ made rfl
      have shown : hides (⟨.symbol mark, place, text⟩ ::
          ((node .primary first last inner).tokens ++ tokensOf more ++ rest)) = false := by
        simp [head, hides, plain]
      have none : solid (tokensOf more) = [] := by
        rw [← solid_tokensOf, partsOf, nothing]
        rfl
      rw [listed?, shown, Token.declared?_cons rfl, boundName?_starred, ← named?_of_primary made ends]
      simp [star, Token.solid_append, none, tokens]

theorem binds_group {start stop : Nat} {children rest : List Tree} {place : Nat} {text : List Char}
    (edged : AreEdged children)
    (parts : partsOf children = .leaf (.symbol .leftParen) place text :: rest) :
    (node .group start stop children).Binds := by
  intro behind _
  obtain ⟨more, rfl, -⟩ := edged.head parts
  rw [tokens, tokensOf, tokens, List.singleton_append, List.cons_append,
    Token.listed?_of_other rfl rfl, Token.named?_of_other rfl]
  rfl

structure IsHead (tree : Tree) : Prop where
  binds : tree.Binds
  alone : parameterName? tree = boundName? tree

def IsListed (tree : Tree) : Prop := parameterName? tree = listed? tree.tokens

theorem IsHead.isListed {tree : Tree} (head : tree.IsHead) : tree.IsListed := by
  have whole := head.binds [] rfl
  rw [List.append_nil] at whole
  exact head.alone.trans whole.symm

theorem isListed_leaf {terminal : Terminal} (start : Nat) (text : List Char)
    (plain : terminal.isTrivia = false) : (leaf terminal start text).IsListed := by
  cases star : terminal.isStar with
  | false => exact IsHead.isListed ⟨binds_leaf plain star, rfl⟩
  | true =>
    have noName : terminal.isName = false := by
      rcases Bool.or_eq_true_iff.mp star with same | same <;>
        rw [of_decide_eq_true same] <;> rfl
    have nothing : listed? [⟨terminal, start, text⟩] = none := by
      simp [listed?, hides, declared?, solid, plain, star, named?]
    rw [IsListed, tokens, nothing]
    simp [parameterName?, boundName?, noName]

end Tree

namespace Rule

def isHead : Rule → Bool
  | .token terminal => terminal = .identifier
  | .part category => [Category.starredName, .starredNames, .tupleTarget].contains category
  | .either first second => first.isHead && second.isHead
  | _ => false

namespace Derives

variable {rule : Rule} {trees : List Tree}

theorem starred {mark : Symbol} (star : (Terminal.symbol mark).isStar = true)
    (derives : (Rule.tree .starred (all [Rule.mark mark, .part .primary, .require .place])).Derives
      trees) (made : Tree.AreWellMade trees) : ∃ tree, trees = [tree] ∧ tree.IsHead := by
  simp only [tree_iff, Rule.all, Rule.mark, both_iff, token_iff, part_iff, Grammar.rule] at derives
  obtain ⟨children, rfl, -, _, _, parts, ⟨start, text, rfl⟩, _, _, rfl, ⟨inner, rfl, -⟩, none⟩ :=
    derives
  cases none
  exact ⟨_, rfl, Tree.binds_starred star made.1 parts, rfl⟩

theorem tuple (derives : (Grammar.rule .tupleTarget).Derives trees) :
    ∃ tree, trees = [tree] ∧ tree.IsHead := by
  simp only [Grammar.rule, Rule.all, Rule.between, Rule.mark, both_iff, token_iff, tree_iff]
    at derives
  obtain ⟨_, _, rfl, ⟨children, rfl, edged, _, _, parts, ⟨start, text, rfl⟩, -⟩, none⟩ := derives
  cases none
  exact ⟨_, rfl, Tree.binds_group edged parts, rfl⟩

theorem head (derives : rule.Derives trees) (head : rule.isHead = true)
    (made : Tree.AreWellMade trees) : ∃ tree, trees = [tree] ∧ tree.IsHead := by
  induction derives with
  | token terminal start text =>
    obtain rfl : terminal = .identifier := of_decide_eq_true head
    exact ⟨_, rfl, Tree.binds_leaf rfl rfl, rfl⟩
  | @part category trees inner _ =>
    cases category with
    | starredName => exact starred rfl inner made
    | starredNames => exact starred rfl inner made
    | tupleTarget => exact tuple inner
    | _ => cases head
  | left _ ih => exact ih (Bool.and_eq_true_iff.mp head).1 made
  | right _ ih => exact ih (Bool.and_eq_true_iff.mp head).2 made
  | _ => cases head

theorem headed {kind : Kind} (headed : kind = .typed ∨ kind = .defaulted) {name tail : Rule}
    (derives : (Rule.tree kind (.both name tail)).Derives trees) (made : Tree.AreWellMade trees)
    (head : name.isHead = true) (ends : tail.opens (isToken Terminal.endsName) false = true) :
    ∃ tree, trees = [tree] ∧ tree.IsListed := by
  simp only [tree_iff, both_iff] at derives
  obtain ⟨children, rfl, edged, before, behind, parts, first, last⟩ := derives
  have below := Tree.areWellMade_parts made.1.2.2.2
  rw [parts, Tree.areWellMade_append] at below
  obtain ⟨tree, rfl, isHead⟩ := first.head head below.1
  obtain ⟨_, others, rfl, terminal, start, text, rfl, isEnd⟩ := last.starts opened_of_isToken ends
  obtain ⟨more, rfl, rest⟩ := edged.head parts
  have plain : terminal.isTrivia = false := by
    rcases Bool.or_eq_true_iff.mp isEnd with same | same <;> rw [of_decide_eq_true same] <;> rfl
  have bound := isHead.binds (Tree.tokensOf more) (by
    rw [← Tree.solid_tokensOf, rest]
    simp [Tree.tokensOf, Tree.tokens, Token.solid, plain, isEnd])
  refine ⟨_, rfl, ?_⟩
  rcases headed with rfl | rfl
  · exact bound.symm
  · exact bound.symm

theorem parameter (derives : (Grammar.rule .parameter).Derives trees)
    (made : Tree.AreWellMade trees) : ∃ tree, trees = [tree] ∧ tree.IsListed := by
  have alone {rule : Rule} (derives : rule.Derives trees) (head : rule.isHead = true) :
      ∃ tree, trees = [tree] ∧ tree.IsListed :=
    (derives.head head made).imp fun _ => .imp_right Tree.IsHead.isListed
  rcases either_iff.mp derives with plain | derives
  · rcases either_iff.mp (part_iff.mp plain) with name | derives
    · exact alone name (by decide)
    rcases either_iff.mp derives with defaulted | derives
    · exact headed (.inr rfl) defaulted made (by decide) (by decide)
    rcases either_iff.mp derives with starred | derives
    · exact alone starred (by decide)
    rcases either_iff.mp derives with starred | derives
    · exact alone starred (by decide)
    rcases either_iff.mp derives with tuple | mark
    · exact alone tuple (by decide)
    · obtain ⟨terminal, start, text, rfl, noTrivia⟩ := mark.leaf (by decide)
      exact ⟨_, rfl, Tree.isListed_leaf start text noTrivia⟩
  rcases either_iff.mp derives with typed | defaulted
  · exact headed (.inl rfl) typed made (by decide) (by decide)
  · exact headed (.inr rfl) defaulted made (by decide) (by decide)

end Derives

def consists (known : Rule → Bool) : Rule → Bool
  | .both first second | .either first second => first.consists known && second.consists known
  | .many rule => rule.consists known
  | .empty | .require _ => true
  | rule => known rule

theorem Derives.consists_of {holds : Tree → Prop} {known : Rule → Bool} {rule : Rule}
    {trees : List Tree} (given : ∀ {rule trees}, known rule = true → rule.Derives trees →
      Tree.AreWellMade trees → ∀ tree ∈ trees, holds tree)
    (derives : rule.Derives trees) (consists : rule.consists known = true)
    (made : Tree.AreWellMade trees) : ∀ tree ∈ trees, holds tree := by
  induction derives with
  | empty | require | done => exact List.forall_mem_nil _
  | token terminal start text => exact given consists (.token terminal start text) made
  | part inner _ => exact given consists (.part inner) made
  | tree edged inner _ => exact given consists (.tree edged inner) made
  | left _ ih => exact ih (Bool.and_eq_true_iff.mp consists).1 made
  | right _ ih => exact ih (Bool.and_eq_true_iff.mp consists).2 made
  | both _ _ left right =>
    have both := Bool.and_eq_true_iff.mp consists
    have parts := Tree.areWellMade_append.mp made
    exact List.forall_mem_append.mpr ⟨left both.1 parts.1, right both.2 parts.2⟩
  | more _ _ once again =>
    have parts := Tree.areWellMade_append.mp made
    exact List.forall_mem_append.mpr ⟨once consists parts.1, again consists parts.2⟩

theorem Derives.isListed {rule : Rule} {trees : List Tree}
    (known : (rule.isLeaf || rule = .part .parameter) = true) (derives : rule.Derives trees)
    (made : Tree.AreWellMade trees) : ∀ tree ∈ trees, tree.IsListed := by
  rcases Bool.or_eq_true_iff.mp known with isLeaf | same
  · obtain ⟨terminal, start, text, rfl, plain⟩ := derives.leaf isLeaf
    exact List.forall_mem_singleton.mpr (Tree.isListed_leaf start text plain)
  · obtain rfl := of_decide_eq_true same
    obtain ⟨tree, rfl, listed⟩ := (part_iff.mp derives).parameter made
    exact List.forall_mem_singleton.mpr listed

end Rule

namespace Tree

theorem isListed_of_parameters {list : Tree} (kind : list.isNode .parameters = true)
    (made : list.IsWellMade) : ∀ parameter ∈ list.parts, parameter.IsListed := by
  have table : ∀ node ∈ Grammar.nodes, node.1 = .parameters →
      node.2.consists (fun rule => rule.isLeaf || rule = .part .parameter) = true := by decide
  rcases list with _ | ⟨own, start, stop, children⟩
  · cases kind
  · obtain ⟨⟨rule, node, derives⟩, -, -, below⟩ := made
    exact derives.consists_of Rule.Derives.isListed (table _ node (of_decide_eq_true kind))
      (areWellMade_parts below)

theorem parameterName?_of_isTrivia {tree : Tree} (trivia : tree.isTrivia = true) :
    parameterName? tree = none := by
  rcases tree with ⟨terminal, _, _⟩ | _
  · cases terminal <;> first | rfl | cases trivia
  · cases trivia

def shownNames (parameters : List Tree) : List String :=
  (parameters.filter fun parameter => !parameter.isHidden).filterMap declaredName?

theorem filterMap_parameterName? {list : Tree} (kind : list.isNode .parameters = true)
    (made : list.IsWellMade) : list.children.filterMap parameterName? = shownNames list.parts := by
  have solid : list.children.filterMap parameterName? = list.parts.filterMap parameterName? := by
    rw [parts, List.filterMap_filter]
    refine List.filterMap_congr fun tree _ => ?_
    cases trivia : tree.isTrivia with
    | true => simp [parameterName?_of_isTrivia trivia]
    | false => simp
  rw [solid, shownNames, List.filterMap_filter]
  refine List.filterMap_congr fun parameter member => ?_
  rw [isListed_of_parameters kind made parameter member]
  cases hidden : Token.hides parameter.tokens <;>
    simp [Token.listed?, isHidden, declaredName?, hidden]

theorem shownNames_of_shown {parameters : List Tree}
    (shown : ∀ parameter ∈ parameters, parameter.isHidden = false) :
    shownNames parameters = parameters.filterMap declaredName? := by
  rw [shownNames, List.filter_eq_self.mpr fun parameter member => by simp [shown parameter member]]

theorem parameterNames_of_function {function : Tree} (kind : function.isNode .functionDef = true)
    (made : function.IsWellMade) :
    ∃ list ∈ function.children, list.isNode .parameters = true ∧
      parameterNames function.children = shownNames list.parts := by
  have table : ∀ node ∈ Grammar.nodes, node.1 = .functionDef →
      Grammar.parameters.isDemandedBy node.2 = true := by decide
  rcases function with _ | ⟨own, start, stop, children⟩
  · cases kind
  · obtain ⟨⟨rule, node, derives⟩, -, -, below⟩ := made
    obtain ⟨_, inside, inner⟩ :=
      derives.infix_of_demanded (table _ node (of_decide_eq_true kind))
    obtain ⟨own, rfl, -⟩ := Rule.Derives.tree_iff.mp inner
    have member := (List.mem_filter.mp (inside.subset (List.mem_singleton_self _))).1
    have found : (children.find? (isNode .parameters)).isSome = true :=
      List.find?_isSome.mpr ⟨_, member, rfl⟩
    obtain ⟨list, given⟩ := Option.isSome_iff_exists.mp found
    have place := List.mem_of_find?_eq_some given
    have listKind := List.find?_some given
    refine ⟨list, place, listKind, ?_⟩
    simp only [parameterNames, Tree.children, given]
    exact filterMap_parameterName? listKind (areWellMade_iff.mp below list place)

end Tree

end Python

open Python

/-- A function or method has the names of the parameters of its function as arguments, in their
order, but for those behind a star with a comment or a continued line between. Every function has
its symbol where nested ones are kept. -/
theorem Outline.args_of_read {source : String} {outline : Outline} (nested : NestedFunctions)
    (read : Outline.read source = .ok outline) :
    ∃ trees found, parse source.toList = .ok trees ∧ outline.symbols nested = .ok found ∧
      (∀ symbol ∈ Symbol.withMethods found.symbols, symbol.isClass = false →
        ∃ function ∈ Tree.subtreesOf trees, function.isNode .functionDef = true ∧
          symbol.IsOf source.toList function) ∧
      (nested = .flatten → ∀ function ∈ Tree.subtreesOf trees,
        function.isNode .functionDef = true →
          ∃ symbol ∈ Symbol.withMethods found.symbols, symbol.IsOf source.toList function) ∧
      ∀ function ∈ Tree.subtreesOf trees, function.isNode .functionDef = true →
        ∃ list ∈ function.children, list.isNode .parameters = true ∧
          (∀ symbol : Symbol, symbol.IsOf source.toList function →
            symbol.args =
              (list.parts.filter fun parameter => !parameter.isHidden).filterMap
                Tree.declaredName?) ∧
          ((∀ parameter ∈ list.parts, parameter.isHidden = false) →
            ∀ symbol : Symbol, symbol.IsOf source.toList function →
              symbol.args = list.parts.filterMap Tree.declaredName?) := by
  obtain ⟨trees, found, parsed, walked, made, sound, complete⟩ := definitions_of_read nested read
  refine ⟨trees, found, parsed, walked, fun symbol member other => ?_, complete,
    fun function member kind => ?_⟩
  · obtain ⟨tree, inside, defined⟩ := sound symbol member
    exact ⟨tree, inside, defined.function other⟩
  obtain ⟨list, place, listKind, names⟩ :=
    Tree.parameterNames_of_function kind (Tree.isWellMade_of_subtreeOf trees made function member)
  have args {symbol : Symbol} (given : symbol.IsOf source.toList function) :
      symbol.args = Tree.shownNames list.parts := by
    obtain ⟨_, _, -, -, rfl⟩ := given
    exact names
  refine ⟨list, place, listKind, fun symbol given => args given, fun shown symbol given => ?_⟩
  rw [args given, Tree.shownNames_of_shown shown]

def starredFunction : String := "def f(a, (b, c), *, d: int = 1, **rest): pass\n"

theorem args_starredFunction : ∃ outline, Outline.read starredFunction = .ok outline ∧
    (outline.symbols .flatten).toOption.map (fun found => found.symbols.map (·.args)) =
      some [["a", "d", "rest"]] := exists_of_toOption (by decide +kernel)

theorem Outline.args_of_starredFunction :
    ∃ outline trees found, Outline.read starredFunction = .ok outline ∧
      parse starredFunction.toList = .ok trees ∧ outline.symbols .flatten = .ok found ∧
      found.symbols.map (·.args) = [["a", "d", "rest"]] ∧
      ∀ function ∈ Tree.subtreesOf trees, function.isNode .functionDef = true →
        ∃ symbol ∈ Symbol.withMethods found.symbols,
          symbol.IsOf starredFunction.toList function := by
  obtain ⟨outline, read, args⟩ := args_starredFunction
  obtain ⟨trees, found, parsed, walked, -, complete, -⟩ := Outline.args_of_read .flatten read
  rw [walked] at args
  exact ⟨outline, trees, found, read, parsed, walked, Option.some.inj args, complete rfl⟩

/-- A comment behind the star takes the name away. -/
theorem Outline.args_hidden_by_comment :
    ∃ trees outline found, parse "def f(* # c\n args, **kw): pass\n".toList = .ok trees ∧
      Outline.read "def f(* # c\n args, **kw): pass\n" = .ok outline ∧
      outline.symbols .flatten = .ok found ∧ found.symbols.map (·.args) = [["kw"]] ∧
      ((Tree.subtreesOf trees).filter (Tree.isNode .parameters)).map
        (fun list => list.parts.filterMap Tree.declaredName?) = [["args", "kw"]] := by
  obtain ⟨trees, parsed, declared⟩ : ∃ trees,
      parse "def f(* # c\n args, **kw): pass\n".toList = .ok trees ∧
      ((Tree.subtreesOf trees).filter (Tree.isNode .parameters)).map
        (fun list => list.parts.filterMap Tree.declaredName?) = [["args", "kw"]] :=
    exists_of_toOption (by decide +kernel)
  obtain ⟨outline, read, args⟩ : ∃ outline,
      Outline.read "def f(* # c\n args, **kw): pass\n" = .ok outline ∧
      (outline.symbols .flatten).toOption.map (fun found => found.symbols.map (·.args)) =
        some [["kw"]] := exists_of_toOption (by decide +kernel)
  obtain ⟨found, walked, listed⟩ := exists_of_toOption args
  exact ⟨trees, outline, found, parsed, read, walked, listed, declared⟩

end PythonDocs
