import PythonDocs.Proofs.Python.Lowering
import PythonDocs.Proofs.Text.Pieces

namespace PythonDocs.Python

open Text (slice IsIdentifier)

variable {source : List Char}

namespace Token

/-- The first character behind a place belongs to the next token, or is a blank before it. -/
theorem Tile.head {place final : Nat} {token : Token} {rest : List Token}
    (tile : Tile source place (token :: rest) final) (some : token.text ≠ [])
    (other : token.terminal ≠ .stringStart) :
    ∃ c behind, slice source place final = c :: behind ∧
      if token.start = place then token.text.head? = .some c else isGapChar c = true := by
  obtain ⟨follows, more⟩ := tile
  have after : token.start ≤ token.stop := Nat.le_add_right _ _
  have parts : slice source place final =
      slice source place token.start ++ (token.text ++ slice source token.stop final) := by
    rw [← follows.text, Text.slice_append_slice after more.le,
      Text.slice_append_slice follows.behind (after.trans more.le)]
  rw [parts]
  split
  · rename_i same
    rw [same, show slice source place place = [] by simp [slice]]
    cases text : token.text with
    | nil => exact absurd text some
    | cons c behind => exact ⟨c, _, rfl, rfl⟩
  · rename_i apart
    cases gap : slice source place token.start with
    | cons c behind =>
      exact ⟨c, _, rfl, follows.blank other c (gap ▸ List.mem_cons_self)⟩
    | nil =>
      -- the token has a text, so that the source reaches up to it
      have inside := follows.text
      have behind := follows.behind
      rw [slice, List.take_eq_nil_iff, List.drop_eq_nil_iff] at gap
      rw [slice, List.drop_eq_nil_of_le (by omega), List.take_nil] at inside
      exact absurd inside.symm some

end Token

theorem dot_text {text : List Char} (spelled : (Terminal.symbol .dot).Spells text) :
    text = ['.'] := by
  have table : ∀ entry ∈ symbolTexts, entry.2 = .dot → entry.1 = ['.'] := by decide
  exact table _ spelled rfl

theorem trivia_text {terminal : Terminal} {text : List Char} (trivia : terminal.isTrivia = true)
    (spelled : terminal.Spells text) :
    terminal ≠ .stringStart ∧ (text.head? = some '#' ∨ text.head? = some '\\') := by
  cases terminal with
  | comment => exact ⟨nofun, .inl spelled⟩
  | continuation => exact ⟨nofun, .inr spelled⟩
  | _ => cases trivia

namespace Tree

def firstName (path : Tree) : List Char :=
  match path.parts with
  | .leaf _ _ text :: _ => text
  | _ => []

def isTight (path : Tree) : Bool :=
  match path.parts with
  | first :: second :: _ => first.stop = second.start
  | _ => true

theorem children_of_path {start stop : Nat} {children : List Tree}
    (made : (node .dottedName start stop children).IsWellMade) :
    ∃ place word tail, children = .leaf .identifier place word :: tail ∧
      (tail = [] ∨ ∃ trivia dot text more, tail = trivia ++ .leaf (.symbol .dot) dot text :: more ∧
        ∀ tree ∈ trivia, tree.isTrivia = true) := by
  have table : ∀ node ∈ Grammar.nodes, node.1 = .dottedName →
      node.2 = Rule.separated Grammar.name .dot := by decide
  obtain ⟨⟨rule, node, derives⟩, edged, -⟩ := made
  obtain rfl : rule = Rule.separated Grammar.name .dot := table _ node rfl
  simp only [Rule.separated, Rule.separatedBy, Grammar.name, Rule.mark, Rule.Derives.both_iff,
    Rule.Derives.token_iff] at derives
  obtain ⟨-, others, parts, ⟨place, word, rfl⟩, more⟩ := derives
  obtain ⟨tail, rfl, behind⟩ := edged.head parts
  refine ⟨place, word, tail, rfl, ?_⟩
  rcases Rule.Derives.many_iff.mp more with rfl | ⟨once, rest, rfl, derives, -⟩
  · exact .inl (List.cons.inj (edged.eq_single parts)).2
  · simp only [Rule.Derives.both_iff, Rule.Derives.token_iff] at derives
    obtain ⟨-, name, rfl, ⟨dot, text, rfl⟩, -⟩ := derives
    obtain ⟨trivia, more, split, all, -⟩ := List.filter_eq_cons_iff.mp behind
    exact .inr ⟨trivia, dot, text, more, split, fun tree member => by simpa using all tree member⟩

theorem head_before_dot {trivia more : List Tree} {place dot final : Nat} {text : List Char}
    (tile : Token.Tile source place
      (tokensOf (trivia ++ .leaf (.symbol .dot) dot text :: more)) final)
    (all : ∀ tree ∈ trivia, tree.isTrivia = true) :
    ∃ c behind, slice source place final = c :: behind ∧ (c = '.' ↔ place = dot) := by
  have gap {c : Char} (blank : isGapChar c = true) : c ≠ '.' := by
    rintro rfl
    cases blank
  cases trivia with
  | nil =>
    have spelled : text = ['.'] := dot_text tile.1.spelled
    obtain ⟨c, behind, same, first⟩ := Token.Tile.head tile (by rw [spelled]; simp) nofun
    refine ⟨c, behind, same, ?_⟩
    split at first
    · rename_i here
      rw [spelled] at first
      exact ⟨fun _ => here.symm, fun _ => (Option.some.inj first).symm⟩
    · rename_i apart
      exact ⟨fun is => absurd is (gap first), fun here => absurd here.symm apart⟩
  | cons tree rest =>
    rw [List.forall_mem_cons] at all
    cases tree with
    | node => cases all.1
    | leaf terminal start comment =>
      obtain ⟨other, mark⟩ := trivia_text all.1 tile.1.spelled
      have some : comment ≠ [] := by
        rintro rfl
        simp at mark
      obtain ⟨c, behind, same, first⟩ := Token.Tile.head tile some other
      have before : place < dot := by
        have inner : Token.Tile source (start + comment.length)
            (tokensOf (rest ++ .leaf (.symbol .dot) dot text :: more)) final := tile.2
        rw [tokensOf_append] at inner
        obtain ⟨middle, left, right⟩ := Token.tile_append.mp inner
        have up := left.le
        have on := right.1.behind
        have down := tile.1.behind
        have long := List.length_pos_iff.mpr some
        dsimp only at up on down
        omega
      refine ⟨c, behind, same, fun is => ?_, fun here => absurd here before.ne⟩
      split at first
      · subst is
        rcases mark with mark | mark
        · cases mark.symm.trans first
        · cases mark.symm.trans first
      · exact absurd is (gap first)

/-- The text of a path is its first name and what is behind it: nothing or a dot where the path is
tight, and some other character elsewhere. -/
theorem text_of_path {path : Tree} (dotted : path.isNode .dottedName = true)
    (made : path.IsWellMade) (covers : path.Covers source) :
    IsIdentifier path.firstName ∧ ∃ behind,
      slice source path.start path.stop = path.firstName ++ behind ∧
        (path.isTight = true ↔ ∀ c, behind.head? = some c → c = '.') := by
  cases path with
  | leaf => cases dotted
  | node kind start stop children =>
    obtain rfl : kind = .dottedName := of_decide_eq_true dotted
    obtain ⟨place, word, tail, rfl, shape⟩ := children_of_path made
    obtain ⟨follows, tile⟩ := covers
    obtain rfl : start = place := congrArg Tree.start made.2.2.1
    have tile : Token.Tile source (start + word.length) (tokensOf tail) stop := tile
    refine ⟨follows.spelled, slice source (start + word.length) stop, ?_, ?_⟩
    · have whole : slice source start (start + word.length) ++
          slice source (start + word.length) stop = slice source start stop :=
        Text.slice_append_slice (Nat.le_add_right start word.length) tile.le
      exact whole.symm.trans (congrArg (· ++ _) follows.text)
    · rcases shape with rfl | ⟨trivia, dot, text, more, rfl, all⟩
      · obtain rfl : start + word.length = stop := tile
        refine ⟨fun _ c head => ?_, fun _ => rfl⟩
        simp [slice] at head
      · have parts : (node .dottedName start stop (.leaf .identifier start word ::
            (trivia ++ .leaf (.symbol .dot) dot text :: more))).parts =
            .leaf .identifier start word :: .leaf (.symbol .dot) dot text :: partsOf more := by
          have none : partsOf trivia = [] := by simpa [partsOf] using all
          change partsOf ([.leaf .identifier start word] ++
            (trivia ++ .leaf (.symbol .dot) dot text :: more)) = _
          rw [partsOf_append, partsOf_append, none]
          rfl
        obtain ⟨c, behind, same, first⟩ := head_before_dot tile all
        rw [isTight, parts, same]
        simp only [List.head?_cons, Option.some.injEq, forall_eq', first]
        exact decide_eq_true_iff

theorem covers_of_child {kind : Kind} {start stop : Nat} {children : List Tree} {child : Tree}
    (made : (node kind start stop children).IsWellMade)
    (covers : (node kind start stop children).Covers source) (member : child ∈ children) :
    child.IsWellMade ∧ child.Covers source := by
  have inside : child ∈ subtreesOf children := self_mem_subtreesOf member
  exact ⟨isWellMade_of_subtreeOf children made.2.2.2 child inside,
    covers_of_subtree made.2.2.2 covers inside⟩

theorem covers_of_modulePath {statement path : Tree} (made : statement.IsWellMade)
    (covers : statement.Covers source) (member : path ∈ statement.modulePaths) :
    path.isNode .dottedName = true ∧ path.IsWellMade ∧ path.Covers source := by
  unfold modulePaths at member
  split at member
  · obtain ⟨inside, dotted⟩ := List.mem_filter.mp member
    exact ⟨dotted, covers_of_child made covers inside⟩
  · rename_i start stop children
    have found : fromPath? children = some path := by simpa using member
    unfold fromPath? at found
    split at found
    · rename_i relative
      obtain ⟨own, whole⟩ := covers_of_child made covers (List.mem_of_find?_eq_some relative)
      exact ⟨List.find?_some found, covers_of_child own whole (List.mem_of_find?_eq_some found)⟩
    · rename_i other
      have kinds := List.find?_some found
      refine ⟨?_, covers_of_child made covers (List.mem_of_find?_eq_some found)⟩
      rcases path with _ | ⟨kind, start, stop, inner⟩
      · cases kinds
      · by_cases dotted : kind = .dottedName
        · exact decide_eq_true dotted
        · have relative : kind = .relative := by simpa [isNode, dotted] using kinds
          subst relative
          exact absurd found (other start stop inner)
  · cases member

end Tree

end PythonDocs.Python
