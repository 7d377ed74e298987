import Mathlib.Data.List.Infix
import PythonDocs.Proofs.Python.Lowering
import PythonDocs.Proofs.Text.Dedent

namespace PythonDocs

open Python Text

/-- A text is the source of a definition without the white space at its end, and later lines lose
indentation. Where only blanks and tabs stand before the definition on its line, they lose at most
so many characters. -/
structure HasText (source : List Char) (definition : Tree) (text : String) : Prop where
  covers : definition.Covers source
  dedented : ∃ margin indentation, StandsBehind source definition.start margin indentation ∧
    IsDedented (byteLength margin + indentation.length)
      (trimEnd (slice source definition.start definition.stop)) text.toList ∧
    (margin = [] → IsDedented indentation.length
      (trimEnd (slice source definition.start definition.stop)) text.toList) ∧
    (margin = [] → indentation = [] →
      text.toList = trimEnd (slice source definition.start definition.stop))

theorem isDedented_definitionText (source : List Char) (start stop : Nat) :
    IsDedented (columnAt source start) (trimEnd (slice source start stop))
      (definitionText source start stop) := by
  unfold definitionText
  cases column : columnAt source start with
  | zero => exact isDedented_zero _
  | succ => exact isDedented_dedent _ _

theorem hasText_of_covers {source : List Char} {definition : Tree}
    (covers : definition.Covers source) :
    HasText source definition (definition.definitionSource source) := by
  obtain ⟨margin, indentation, stands⟩ := exists_standsBehind source definition.start
  have dedented := isDedented_definitionText source definition.start definition.stop
  have text : (definition.definitionSource source).toList =
      definitionText source definition.start definition.stop := String.toList_ofList
  rw [stands.columnAt_eq, ← text] at dedented
  refine ⟨covers, margin, indentation, stands, dedented, ?_, ?_⟩
  · rintro rfl
    rwa [byteLength_nil, Nat.zero_add] at dedented
  · rintro rfl rfl
    exact dedented.eq_of_zero

/-- Every class and every function of a source is recorded with its text, in the order of the
source, and symbols have no other texts. -/
theorem Outline.texts_of_read {source : String} {outline : Outline} (nested : NestedFunctions)
    (read : Outline.read source = .ok outline) :
    ∃ trees found, parse source.toList = .ok trees ∧ outline.symbols nested = .ok found ∧
      (∀ tree ∈ Tree.subtreesOf trees,
        tree.isNode .classDef = true ∨ tree.isNode .functionDef = true →
          ∃ definition ∈ Tree.definitionsOf trees, tree.IsDefinedBy definition) ∧
      List.Forall₂ (HasText source.toList) (Tree.definitionsOf trees) outline.texts ∧
      ∀ symbol ∈ Symbol.withMethods found.symbols, symbol.source ∈ outline.texts := by
  obtain ⟨trees, parsed, lowers⟩ := lowers_of_read read
  obtain ⟨-, made, final, tile⟩ := trees_of_parse parsed
  obtain ⟨found, walked, -⟩ := symbols_walked nested lowers.named
  refine ⟨trees, found, parsed, walked, Tree.definition_of_subtreeOf trees made, ?_,
    source_mem_texts walked⟩
  rw [lowers.texts, List.forall₂_map_right_iff, List.forall₂_same]
  intro definition member
  have inside := (Tree.mem_definitionsOf trees definition member).1
  exact hasText_of_covers (Tree.covers_of_subtree made tile inside)

def formFeedFunction : String := "\x0cdef f():\n    return 1\n"

theorem texts_formFeedFunction : ∃ outline, Outline.read formFeedFunction = .ok outline ∧
    outline.texts = ["def f():\n   return 1"] := exists_of_toOption (by decide +kernel)

theorem Outline.texts_of_formFeedFunction :
    ∃ outline trees, Outline.read formFeedFunction = .ok outline ∧
      parse formFeedFunction.toList = .ok trees ∧
      ∃ definition ∈ Tree.definitionsOf trees,
        HasText formFeedFunction.toList definition "def f():\n   return 1" := by
  obtain ⟨outline, read, texts⟩ := texts_formFeedFunction
  obtain ⟨trees, found, parsed, -, -, recorded, -⟩ := Outline.texts_of_read .flatten read
  rw [texts] at recorded
  cases definitions : Tree.definitionsOf trees with
  | nil => rw [definitions] at recorded; cases recorded
  | cons definition rest =>
    rw [definitions] at recorded
    cases recorded with
    | cons first => exact ⟨outline, trees, read, parsed, definition, by simp [definitions], first⟩

/-- A definition at the start of a line, but for a form feed, is not recorded as it is written. -/
theorem Outline.texts_lose_indentation :
    ∃ outline, Outline.read "\x0cdef f():\n    return 1\n" = .ok outline ∧
      outline.texts = ["def f():\n   return 1"] ∧
      ¬ "def f():\n   return 1".toList <:+: "\x0cdef f():\n    return 1\n".toList := by
  obtain ⟨outline, read, texts⟩ := texts_formFeedFunction
  exact ⟨outline, read, texts, by decide⟩

end PythonDocs
