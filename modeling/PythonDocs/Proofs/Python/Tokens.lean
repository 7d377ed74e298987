import PythonDocs.Proofs.Python.Derivation
import PythonDocs.Proofs.Python.Lexemes
import PythonDocs.Text.Lines

namespace PythonDocs.Python

open Text (slice)

structure Token where
  terminal : Terminal
  start : Nat
  text : List Char

namespace Token

def stop (token : Token) : Nat := token.start + token.text.length

/-- A token stands in the source behind a place, with only blanks between. -/
structure Follows (source : List Char) (place : Nat) (token : Token) : Prop where
  behind : place ≤ token.start
  blank : token.terminal ≠ .stringStart →
    ∀ c ∈ slice source place token.start, isGapChar c = true
  text : slice source token.start token.stop = token.text
  spelled : token.terminal.Spells token.text

def Tile (source : List Char) : Nat → List Token → Nat → Prop
  | place, [], final => place = final
  | place, token :: rest, final => token.Follows source place ∧ Tile source token.stop rest final

variable {source : List Char} {place final : Nat} {first second tokens : List Token}

theorem tile_append : Tile source place (first ++ second) final ↔
    ∃ middle, Tile source place first middle ∧ Tile source middle second final := by
  induction first generalizing place with
  | nil => simp [Tile]
  | cons token rest ih => simp [Tile, ih, and_assoc]

theorem Tile.le (tile : Tile source place tokens final) : place ≤ final := by
  induction tokens generalizing place with
  | nil => exact Nat.le_of_eq tile
  | cons token rest ih =>
    have behind := tile.1.behind
    have inner := ih tile.2
    rw [Token.stop] at inner
    omega

theorem Tile.from_first {token : Token} {rest : List Token}
    (tile : Tile source place (token :: rest) final) :
    Tile source token.start (token :: rest) final := by
  refine ⟨⟨Nat.le_refl _, fun _ c member => ?_, tile.1.text, tile.1.spelled⟩, tile.2⟩
  simp [slice] at member

theorem Tile.stop_last {last : Nat} (tile : Tile source place tokens final)
    (stops : tokens.getLast?.map Token.stop = some last) : last = final := by
  induction tokens generalizing place with
  | nil => cases stops
  | cons token rest ih =>
    cases rest with
    | nil => exact (Option.some.inj stops).symm.trans tile.2
    | cons next more => exact ih tile.2 (by rwa [List.getLast?_cons_cons] at stops)

end Token

namespace Tree

mutual

def tokens : Tree → List Token
  | .leaf terminal start text => [⟨terminal, start, text⟩]
  | .node _ _ _ children => tokensOf children

def tokensOf : List Tree → List Token
  | [] => []
  | tree :: rest => tree.tokens ++ tokensOf rest

end

theorem tokensOf_append (first second : List Tree) :
    tokensOf (first ++ second) = tokensOf first ++ tokensOf second := by
  induction first with
  | nil => rfl
  | cons tree rest ih => simp only [List.cons_append, tokensOf, ih, List.append_assoc]

theorem tokensOf_single (tree : Tree) : tokensOf [tree] = tree.tokens := List.append_nil _

mutual

theorem head?_tokens : (tree : Tree) → tree.IsWellMade →
    tree.tokens.head?.map Token.start = some tree.start
  | .leaf .., _ => rfl
  | .node kind start stop children, made => by
    obtain ⟨-, edged, same, inner⟩ := made
    rw [tokens, head?_tokensOf children inner, same]
    cases children with
    | nil => cases edged.1
    | cons first rest => rfl

theorem head?_tokensOf : (trees : List Tree) → AreWellMade trees →
    (tokensOf trees).head?.map Token.start = trees.head?.map Tree.start
  | [], _ => rfl
  | tree :: rest, made => by
    have first := head?_tokens tree made.1
    rw [tokensOf, List.head?_append]
    cases given : tree.tokens.head? with
    | none => rw [given] at first; cases first
    | some token =>
      rw [given] at first
      exact first

end

mutual

theorem getLast?_tokens : (tree : Tree) → tree.IsWellMade →
    tree.tokens.getLast?.map Token.stop = some tree.stop
  | .leaf .., _ => rfl
  | .node kind start stop children, made => by
    obtain ⟨-, edged, same, inner⟩ := made
    have some := edged.2
    rw [tokens, getLast?_tokensOf children inner, same]
    cases last : children.getLast? with
    | none => rw [last] at some; cases some
    | some tree => simp [ofChildren, Tree.stop, last]

theorem getLast?_tokensOf : (trees : List Tree) → AreWellMade trees →
    (tokensOf trees).getLast?.map Token.stop = trees.getLast?.map Tree.stop
  | [], _ => rfl
  | tree :: rest, made => by
    have first := getLast?_tokens tree made.1
    have others := getLast?_tokensOf rest made.2
    rw [tokensOf, List.getLast?_append, List.getLast?_cons]
    cases last : rest.getLast? with
    | none =>
      rw [List.getLast?_eq_none_iff.mp last]
      simpa [tokensOf] using first
    | some final =>
      rw [last] at others
      cases given : (tokensOf rest).getLast? with
      | none => rw [given] at others; cases others
      | some token =>
        rw [given] at others
        simpa using others

end

end Tree

end PythonDocs.Python
