import Mathlib.Data.List.TakeWhile
import PythonDocs.Proofs.Text.Identifiers
import PythonDocs.Python.Lexeme

namespace PythonDocs.Python

def Terminal.Spells : Terminal → List Char → Prop
  | .identifier, text => Text.IsIdentifier text
  | .keyword word, text => (text, word) ∈ keywordTexts
  | .symbol mark, text => (text, mark) ∈ symbolTexts
  | .comment, text => text.head? = some '#'
  | .continuation, text => text.head? = some '\\'
  | _, _ => True

structure Lexeme.Cuts (lexeme : Lexeme) (text : List Char) : Prop where
  split : text.take lexeme.skipped ++ (lexeme.text ++ lexeme.rest) = text
  blank : lexeme.terminal ≠ .stringStart → ∀ c ∈ text.take lexeme.skipped, isGapChar c = true
  spelled : lexeme.terminal.Spells lexeme.text

theorem Gap.skip_suffix {marks comment : Bool} {first last : Gap} {text rest : List Char}
    (skipped : Gap.skip marks first comment text = some (last, rest)) : rest <:+ text := by
  fun_induction Gap.skip marks first comment text <;> grind [List.suffix_cons_iff]

theorem Quote.letters_suffix (quote : Quote) (text : List Char) :
    (Quote.letters quote text).2 <:+ text := by
  fun_induction Quote.letters quote text <;> grind [List.suffix_cons_iff]

theorem Quote.opening?_suffix {text rest : List Char} {quote : Quote}
    (opened : Quote.opening? text = some (quote, rest)) : rest <:+ text := by
  unfold opening? at opened
  split at opened
  · rename_i letters c after given
    have behind : c :: after <:+ text := by
      have := letters_suffix { mark := ' ' } text
      rwa [given] at this
    have inside : after <:+ text := (List.suffix_cons c after).trans behind
    split at opened
    · cases opened
    · split at opened
      · cases opened
        exact (List.drop_suffix 2 after).trans inside
      · cases opened
        exact inside
  · cases opened

variable {layout after : Layout} {possible : Terminal → Bool} {text : List Char} {lexeme : Lexeme}

theorem Layout.string?_cuts
    (found : layout.string? possible text = some (some (lexeme, after))) : lexeme.Cuts text := by
  have piece (terminal : Terminal) (length : Nat) (free : ∀ text, terminal.Spells text) :
      Lexeme.Cuts ⟨0, terminal, text.take length, text.drop length⟩ text :=
    ⟨List.take_append_drop length text, by simp, free _⟩
  unfold string? at found
  split at found
  · cases found
  · rename_i quote outer
    simp only at found
    split at found
    · split at found
      · split at found
        · cases found
          exact piece .doubledBrace 2 fun _ => trivial
        · cases found
      · cases found
    · split at found
      · split at found
        · cases found
          exact piece .stringContent _ fun _ => trivial
        · cases found
          exact piece .stringEnd _ fun _ => trivial
        · cases found
      · cases found

theorem Layout.mark?_terminal {gap : Gap} {rest : List Char} {terminal : Terminal}
    (found : layout.mark? possible gap rest = some (terminal, after)) :
    terminal = .indent ∨ terminal = .dedent ∨ terminal = .newline := by
  unfold mark? at found
  simp only at found
  split at found
  · cases found
  · split at found
    · cases found
      exact .inl rfl
    · split at found
      · cases found
        exact .inr (.inl rfl)
      · split at found
        · cases found
          exact .inr (.inr rfl)
        · cases found

theorem Layout.next?_cuts (found : layout.next? possible text = some (lexeme, after)) :
    lexeme.Cuts text := by
  unfold next? at found
  split at found
  · rename_i string
    subst found
    exact string?_cuts string
  · simp only at found
    split at found
    · cases found
    · rename_i gap rest skipped
      split at found
      · rename_i terminal next marked
        cases found
        refine ⟨rfl, by simp, ?_⟩
        rcases mark?_terminal marked with rfl | rfl | rfl <;> trivial
      · split at found
        · cases opened : Quote.opening? rest with
          | none => simp [opened] at found
          | some pair =>
            obtain ⟨quote, behind⟩ := pair
            simp only [opened, Option.map_some, Option.some.injEq, Prod.mk.injEq] at found
            obtain ⟨rfl, -⟩ := found
            have outer := List.suffix_iff_eq_append.mp (Gap.skip_suffix skipped)
            have inner := List.suffix_iff_eq_append.mp (Quote.opening?_suffix opened)
            exact ⟨by simp only [inner, outer], fun other => absurd rfl other, trivial⟩
        · cases found

theorem mem_of_longest {found : List (Nat × Terminal)} {best : Nat × Terminal}
    (longest : longest found = some best) : best ∈ found := by
  induction found generalizing best with
  | nil => cases longest
  | cons first rest ih => grind [Python.longest]

theorem isIdentifier_take {length : Nat} (same : wordLength text = length) (some : length ≠ 0) :
    Text.IsIdentifier (text.take length) := by
  subst same
  cases text with
  | nil => exact absurd rfl some
  | cons c rest =>
    simp only [wordLength] at some ⊢
    split at some
    · rename_i start
      rw [if_pos start, Nat.add_comm, List.take_succ_cons]
      refine ⟨start, ?_⟩
      intro d member
      rw [← List.prefix_iff_eq_take.mp (List.takeWhile_prefix _)] at member
      exact List.mem_takeWhile_imp member
    · exact absurd rfl some

theorem mem_keywordTexts {word : Keyword} (found : Keyword.ofText? text = some word) :
    (text, word) ∈ keywordTexts := by
  obtain ⟨before, behind, split, -⟩ := List.lookup_eq_some_iff.mp found
  rw [split]
  exact List.mem_append_right _ List.mem_cons_self

theorem wordAt_spells {found : Nat × Terminal} (member : found ∈ wordAt possible text) :
    found.2.Spells (text.take found.1) := by
  unfold wordAt at member
  simp only at member
  split at member
  · rename_i chosen
    rw [Bool.and_eq_true, decide_eq_true_iff] at chosen
    rw [List.mem_singleton.mp member]
    cases keyword : ((Keyword.ofText? (text.take (wordLength text))).map Terminal.keyword).filter
        possible with
    | none => exact isIdentifier_take rfl chosen.1
    | some terminal =>
      obtain ⟨word, known, rfl⟩ := Option.map_eq_some_iff.mp (Option.filter_eq_some_iff.mp keyword).1
      exact mem_keywordTexts known
  · cases member

theorem symbolsAt_spells {found : Nat × Terminal} (member : found ∈ symbolsAt possible text) :
    found.2.Spells (text.take found.1) := by
  obtain ⟨⟨spelling, mark⟩, listed, given⟩ := List.mem_filterMap.mp member
  simp only at given
  split at given
  · rename_i fits
    cases given
    rw [Bool.and_eq_true] at fits
    have same := List.prefix_iff_eq_take.mp (List.isPrefixOf_iff_prefix.mp fits.1)
    exact same ▸ listed
  · cases given

theorem numbersAt_spells {found : Nat × Terminal} (member : found ∈ numbersAt possible text) :
    found.2.Spells (text.take found.1) := by
  have listed := (List.mem_filter.mp member).1
  simp only [List.mem_cons, List.not_mem_nil, or_false] at listed
  rcases listed with rfl | rfl <;> trivial

theorem conversionAt_spells {found : Nat × Terminal}
    (member : found ∈ conversionAt possible text) : found.2.Spells (text.take found.1) := by
  unfold conversionAt at member
  split at member
  · split at member
    · rw [List.mem_singleton.mp member]
      trivial
    · cases member
  · cases member

theorem triviaAt_spells {found : Nat × Terminal} (trivia : triviaAt text = some found) :
    found.2.Spells (text.take found.1) := by
  unfold triviaAt at trivia
  split at trivia
  · cases trivia
    rw [Nat.add_comm]
    rfl
  all_goals
    cases trivia
    try rfl
  trivial

theorem immediateAt_spells {found : Nat × Terminal}
    (immediate : immediateAt possible text = some found) :
    found.2.Spells (text.take found.1) := by
  unfold immediateAt at immediate
  simp only at immediate
  split at immediate
  · cases immediate
    trivial
  · split at immediate
    · cases immediate
      trivial
    · split at immediate
      · cases immediate
        trivial
      · cases immediate

theorem Lexeme.plain?_cuts (found : Lexeme.plain? possible text = some lexeme) :
    lexeme.Cuts text := by
  unfold plain? at found
  split at found
  · rename_i piece immediate
    cases found
    exact ⟨List.take_append_drop _ _, by simp [cut], immediateAt_spells immediate⟩
  · simp only at found
    obtain ⟨piece, chosen, rfl⟩ := Option.map_eq_some_iff.mp found
    have gap := List.suffix_iff_eq_append.mp (List.dropWhile_suffix (l := text) isGapChar)
    have skipped : text.take (text.length - (text.dropWhile isGapChar).length) =
        text.takeWhile isGapChar := by
      have whole := List.takeWhile_append_dropWhile (p := isGapChar) (l := text)
      exact List.append_cancel_right (gap.trans whole.symm)
    refine ⟨?_, ?_, ?_⟩
    · simp only [cut, List.take_append_drop]
      exact gap
    · intro _ c member
      simp only [cut, skipped] at member
      exact List.mem_takeWhile_imp member
    · split at chosen
      · rename_i trivia
        cases chosen
        exact triviaAt_spells trivia
      · have member := mem_of_longest chosen
        simp only [List.mem_append] at member
        rcases member with ((word | number) | conversion) | symbol
        · exact wordAt_spells word
        · exact numbersAt_spells number
        · exact conversionAt_spells conversion
        · exact symbolsAt_spells symbol

theorem Lexeme.next?_cuts (found : Lexeme.next? layout possible text = some (lexeme, after)) :
    lexeme.Cuts text := by
  unfold next? at found
  split at found
  · rename_i laid
    cases found
    exact Layout.next?_cuts laid
  · obtain ⟨plain, given, same⟩ := Option.map_eq_some_iff.mp found
    cases same
    exact plain?_cuts given

end PythonDocs.Python
