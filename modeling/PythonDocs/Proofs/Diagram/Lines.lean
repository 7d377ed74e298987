import Mathlib.Data.List.Forall2
import PythonDocs.Proofs.Diagram.Nodes
import PythonDocs.Proofs.Text.Pieces

namespace PythonDocs.Diagram

open Text (splitOn)

structure EndsWithBlock (text : String) (lines : List String) : Prop where
  split : ∃ before, splitOn '\n' text.toList =
    before ++ ("```mermaid" :: lines ++ ["```", ""]).map String.toList
  whole : ∀ line ∈ lines, '`' ∉ line.toList

theorem not_mem_edge {c : Char} (special : c = '\n' ∨ c = '`') (module name : String) :
    c ∉ (edge module name).toList := by
  have inNode (other : String) : c ∉ (node other).toList := by
    intro member
    rcases special with rfl | rfl <;> exact absurd (mem_node member) (by decide)
  have fixed : c ∉ "    ".toList ∧ c ∉ " --> ".toList ∧ c ∉ ";".toList := by
    rcases special with rfl | rfl <;> decide
  simp only [edge, String.toList_append, List.mem_append, not_or]
  exact ⟨⟨⟨⟨fixed.1, inNode module⟩, fixed.2.1⟩, inNode name⟩, fixed.2.2⟩

theorem endsWithBlock_text {dependencies : Dependencies} (some : dependencies.isEmpty = false)
    (module : String) :
    EndsWithBlock (text dependencies module) ("graph TD;" :: edges dependencies module) := by
  have clean {c : Char} (special : c = '\n' ∨ c = '`') :
      ∀ line ∈ "graph TD;" :: edges dependencies module, c ∉ line.toList := by
    intro line member
    rcases List.mem_cons.mp member with rfl | inside
    · rcases special with rfl | rfl <;> decide
    · obtain ⟨name, -, rfl⟩ := List.mem_map.mp inside
      exact not_mem_edge special module name
  generalize lines : "graph TD;" :: edges dependencies module = all at clean
  refine ⟨?_, clean (.inr rfl)⟩
  have start : ∃ before, (text dependencies module).toList =
      before ++ '\n' :: ("```mermaid".toList ++
        '\n' :: (Text.joinWith ['\n'] (all.map String.toList) ++ '\n' :: "```\n".toList)) := by
    refine ⟨("## Architecture Diagram\nThis diagram shows the top-level dependencies of the `"
      ++ module ++ "` module.\n").toList, ?_⟩
    simp [text, some, lines, Text.join]
  obtain ⟨before, parts⟩ := start
  refine ⟨splitOn '\n' before, ?_⟩
  have inner : splitOn '\n' (Text.joinWith ['\n'] (all.map String.toList)) =
      all.map String.toList := by
    apply Text.splitOn_joinWith
    · simp [← lines]
    · intro piece member
      obtain ⟨line, inside, rfl⟩ := List.mem_map.mp member
      exact clean (.inl rfl) line inside
  have first : splitOn '\n' "```mermaid".toList = ["```mermaid".toList] := by decide
  have last : splitOn '\n' "```\n".toList = ["```".toList, "".toList] := by decide
  rw [parts, Text.splitOn_append, Text.splitOn_append, Text.splitOn_append, inner, first, last]
  simp

/-- The diagram of a module ends with one block, whatever the names are made of. Behind its first
line it has a line for each dependency whose identifier is not that of the module, in their order,
and every line has the node of the module and that of the dependency. -/
theorem lines_of_text {dependencies : Dependencies} (some : dependencies.isEmpty = false)
    (module : String) :
    ∃ lines source, EndsWithBlock (text dependencies module) ("graph TD;" :: lines) ∧
      IsNode module source ∧
      List.Forall₂
        (fun name line => ∃ target, IsNode name target ∧
          line = "    " ++ source ++ " --> " ++ target ++ ";")
        (dependencies.names.filter fun name => identifier name ≠ identifier module) lines := by
  refine ⟨edges dependencies module, node module, endsWithBlock_text some module,
    isNode_node module, ?_⟩
  rw [edges, List.forall₂_map_right_iff, List.forall₂_same]
  exact fun name _ => ⟨node name, isNode_node name, rfl⟩

def hostileNames : Dependencies :=
  .ofList ["a[\"b\"] --> c", "x\n```\ny", "clic\u212A", "End", "m_```mermaid_a"]

theorem lines_of_hostileNames :
    hostileNames.isEmpty = false ∧
      ∃ lines source,
        EndsWithBlock (text hostileNames "m\n```mermaid\na") ("graph TD;" :: lines) ∧
        IsNode "m\n```mermaid\na" source ∧ lines.length = 4 := by
  have some : hostileNames.isEmpty = false := by decide +kernel
  obtain ⟨lines, source, block, own, each⟩ := lines_of_text some "m\n```mermaid\na"
  exact ⟨some, lines, source, block, own, each.length_eq.symm.trans (by decide +kernel)⟩

/-- The identifiers at both ends of an edge, read off its line. -/
def ends? (line : String) : Option (String × String) :=
  match line.toList with
  | ' ' :: ' ' :: ' ' :: ' ' :: text =>
    match readNode text with
    | (first, ' ' :: '-' :: '-' :: '>' :: ' ' :: text) =>
      match readNode text with
      | (second, [';']) => some (.ofList first, .ofList second)
      | _ => none
    | _ => none
  | _ => none

theorem ends?_edge (module name : String) :
    ends? (edge module name) = some (written module, written name) := by
  have parts : (edge module name).toList = ' ' :: ' ' :: ' ' :: ' ' :: ((node module).toList ++
      ' ' :: '-' :: '-' :: '>' :: ' ' :: ((node name).toList ++ [';'])) := by
    simp [edge]
  have clear {mark : Char} (rest : List Char) (special : mark = ' ' ∨ mark = ';') :
      ∀ c, (mark :: rest).head? = some c → isIdentifierChar c = false ∧ c ≠ '[' := by
    intro c starts
    cases starts
    rcases special with rfl | rfl <;> decide
  have first := readNode_node module _
    (clear ('-' :: '-' :: '>' :: ' ' :: ((node name).toList ++ [';'])) (.inl rfl))
  have second := readNode_node name _ (clear [] (.inr rfl))
  simp only [ends?, parts, first, second, String.ofList_toList]

/-- Two names are written with one identifier where they have one, and where a reserved name takes
that of the other with its prefix. Only then does an edge lead from a node to itself. -/
theorem nodeId_eq_iff_covers (dependencies : Dependencies) (module : String) :
    (∀ first second, nodeId (node first) = nodeId (node second) ↔
      identifier first = identifier second ∨ Covers first second ∨ Covers second first) ∧
    (∀ line ∈ edges dependencies module, ∃ name ∈ dependencies.names,
      ends? line = some (nodeId (node module), nodeId (node name))) ∧
    ((∃ line ∈ edges dependencies module, ∃ id, ends? line = some (id, id)) ↔
      ∃ name ∈ dependencies.names, Covers module name ∨ Covers name module) := by
  simp only [nodeId_node]
  refine ⟨written_eq_iff, fun line member => ?_, ?_, ?_⟩
  · obtain ⟨name, inside, rfl⟩ := List.mem_map.mp member
    exact ⟨name, (List.mem_filter.mp inside).1, ends?_edge module name⟩
  · intro given
    obtain ⟨line, member, id, loop⟩ := given
    obtain ⟨name, inside, rfl⟩ := List.mem_map.mp member
    obtain ⟨listed, apart⟩ := List.mem_filter.mp inside
    rw [ends?_edge, Option.some.injEq, Prod.mk.injEq] at loop
    have same := (written_eq_iff module name).mp (loop.1.trans loop.2.symm)
    exact ⟨name, listed, same.resolve_left fun equal => of_decide_eq_true apart equal.symm⟩
  · intro given
    obtain ⟨name, listed, covers⟩ := given
    have apart : identifier name ≠ identifier module := by
      rcases covers with covers | covers
      · exact fun equal => covers.free (equal ▸ covers.1)
      · exact fun equal => covers.free (equal ▸ covers.1)
    refine ⟨edge module name, List.mem_map_of_mem ?_, written module, ?_⟩
    · exact List.mem_filter.mpr ⟨listed, decide_eq_true apart⟩
    · rw [ends?_edge, (written_eq_iff module name).mpr (.inr covers)]

/-- A package whose name is a reserved word with the prefix is the node of that word. -/
theorem loop_of_prefixed :
    identifier "n_end" ≠ identifier "end" ∧
      nodeId (node "n_end") = nodeId (node "end") ∧
      edges (.ofList ["n_end"]) "end" = ["    n_end[\"end\"] --> n_end;"] ∧
      ends? "    n_end[\"end\"] --> n_end;" = some ("n_end", "n_end") := by
  decide +kernel

end PythonDocs.Diagram
