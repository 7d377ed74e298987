import PythonDocs.Proofs.Python.ImportPaths

namespace PythonDocs

namespace Python

open Text (slice IsIdentifier)

variable {source : List Char}

/-- The dependency of a path: the start of its text, up to the first dot. This is the first name
alone exactly where no blank, comment or continued line stands behind that. -/
structure IsRootOf (source : List Char) (path : Tree) (name : String) : Prop where
  identifier : IsIdentifier path.firstName
  text : ∃ spacing behind, name.toList = path.firstName ++ spacing ∧
    slice source path.start path.stop = name.toList ++ behind ∧
    '.' ∉ name.toList ∧ (∀ c, behind.head? = some c → c = '.') ∧
    (spacing = [] ↔ path.isTight = true)

theorem isIdentifier_future : IsIdentifier "__future__".toList := by
  have letters : "__future__".toList = ['_', '_', 'f', 'u', 't', 'u', 'r', 'e', '_', '_'] := by decide
  have parts : ['_', 'f', 'u', 't', 'u', 'r', 'e', '_', '_'].all Text.isIdentifierPart = true := by
    decide
  rw [letters]
  exact ⟨by decide, List.all_eq_true.mp parts⟩

theorem isRootOf_of_path {path : Tree} (dotted : path.isNode .dottedName = true)
    (made : path.IsWellMade) (covers : path.Covers source) :
    IsRootOf source path (Dependencies.root (nodeText source path)) := by
  obtain ⟨identifier, behind, text, tight⟩ := Tree.text_of_path dotted made covers
  have dot : '.' ∉ path.firstName := identifier.not_mem (by decide)
  have noDot : ∀ c ∈ path.firstName, decide (c ≠ '.') = true := fun c member =>
    decide_eq_true fun same => dot (same ▸ member)
  have root : (Dependencies.root (nodeText source path)).toList =
      path.firstName ++ behind.takeWhile (· ≠ '.') := by
    rw [Dependencies.root, nodeText, text, String.toList_ofList, String.toList_ofList,
      List.takeWhile_append_of_pos noDot]
  refine ⟨identifier, behind.takeWhile (· ≠ '.'), behind.dropWhile (· ≠ '.'), root, ?_, ?_, ?_, ?_⟩
  · rw [root, text, List.append_assoc, List.takeWhile_append_dropWhile]
  · rw [root, List.mem_append]
    rintro (member | member)
    · exact dot member
    · simpa using List.mem_takeWhile_imp member
  · intro c head
    have first := List.head?_dropWhile_not (fun c => decide (c ≠ '.')) behind
    rw [head] at first
    simpa using first
  · rw [tight]
    cases behind with
    | nil => simp
    | cons c rest => simp [List.takeWhile_cons]

namespace IsRootOf

variable {path other : Tree} {name : String}

theorem ne_empty (root : IsRootOf source path name) : name ≠ "" := by
  obtain ⟨identifier, spacing, behind, split, -⟩ := root
  rintro rfl
  exact identifier.ne_nil (List.append_eq_nil_iff.mp split.symm).1

theorem eq_firstName (root : IsRootOf source path name) (tight : path.isTight = true) :
    name = .ofList path.firstName := by
  obtain ⟨identifier, spacing, behind, split, -, -, -, alone⟩ := root
  rw [alone.mpr tight, List.append_nil] at split
  rw [← split, String.ofList_toList]

end IsRootOf

namespace Tree

variable {statement path : Tree} {name : String}

theorem root_of_mem_modules (member : name ∈ statement.modules source) :
    Dependencies.root name = "__future__" ∨
      ∃ path ∈ statement.modulePaths, Dependencies.root name = Dependencies.root (nodeText source path) := by
  unfold modules at member
  split at member
  · rw [List.mem_singleton.mp member]
    exact .inl (by decide)
  · obtain ⟨path, inside, rfl⟩ := List.mem_map.mp member
    exact .inr ⟨path, inside, rfl⟩

theorem mem_modules_of_path (member : path ∈ statement.modulePaths) :
    nodeText source path ∈ statement.modules source := by
  unfold modules
  split
  · rename_i future
    rcases statement with _ | ⟨kind, start, stop, children⟩
    · cases future
    · obtain rfl : kind = .importFuture := of_decide_eq_true future
      cases member
  · exact List.mem_map_of_mem member

end Tree

end Python

open Python

/-- A dependency is the first name of an imported module path, together with what stands between
that name and the first dot. Where nothing does, it is the identifier alone, and paths that start
with the same one have the same dependency. -/
theorem Outline.dependencies_of_read {source : String} {outline : Outline}
    (nested : NestedFunctions) (read : Outline.read source = .ok outline) :
    ∃ trees found, parse source.toList = .ok trees ∧ outline.symbols nested = .ok found ∧
      (∀ name ∈ found.dependencies.names, name = "__future__" ∨
        ∃ statement ∈ Tree.importsOf trees, ∃ path ∈ statement.modulePaths,
          IsRootOf source.toList path name) ∧
      (∀ statement ∈ Tree.importsOf trees, ∀ path ∈ statement.modulePaths,
        ∃ name ∈ found.dependencies.names, IsRootOf source.toList path name) ∧
      ((∀ statement ∈ Tree.importsOf trees, ∀ path ∈ statement.modulePaths, path.isTight = true) →
        ∀ name ∈ found.dependencies.names, (name = "__future__" ∨
          ∃ statement ∈ Tree.importsOf trees, ∃ path ∈ statement.modulePaths,
            name = .ofList path.firstName) ∧
          name ≠ "" ∧ ∀ c ∈ name.toList, Text.isBlank c = false ∧ c ≠ '\\' ∧ c ≠ '.') := by
  obtain ⟨trees, parsed, lowers⟩ := lowers_of_read read
  obtain ⟨-, made, final, tile⟩ := trees_of_parse parsed
  obtain ⟨found, walked, -⟩ := symbols_walked nested lowers.named
  have roots : ∀ statement ∈ Tree.importsOf trees, ∀ path ∈ statement.modulePaths,
      IsRootOf source.toList path (Dependencies.root (nodeText source.toList path)) := by
    intro statement member path named
    have inside := (List.mem_filter.mp member).1
    have own := Tree.isWellMade_of_subtreeOf trees made statement inside
    obtain ⟨dotted, whole, covers⟩ :=
      Tree.covers_of_modulePath own (Tree.covers_of_subtree made tile inside) named
    exact isRootOf_of_path dotted whole covers
  have origin : ∀ name ∈ found.dependencies.names, name = "__future__" ∨
      ∃ statement ∈ Tree.importsOf trees, ∃ path ∈ statement.modulePaths,
        name = Dependencies.root (nodeText source.toList path) := by
    intro name member
    obtain ⟨-, module, listed, rfl⟩ := (mem_dependencies walked).mp member
    rw [lowers.modules] at listed
    obtain ⟨statement, inside, given⟩ := List.mem_flatMap.mp listed
    exact (Tree.root_of_mem_modules given).imp_right fun ⟨path, named, same⟩ =>
      ⟨statement, inside, path, named, same⟩
  refine ⟨trees, found, parsed, walked, fun name member => ?_, ?_, fun tight name member => ?_⟩
  · refine (origin name member).imp_right ?_
    rintro ⟨statement, inside, path, named, rfl⟩
    exact ⟨statement, inside, path, named, roots statement inside path named⟩
  · intro statement inside path named
    have root := roots statement inside path named
    refine ⟨_, (mem_dependencies walked).mpr ⟨root.ne_empty, _, ?_, rfl⟩, root⟩
    rw [lowers.modules]
    exact List.mem_flatMap.mpr ⟨statement, inside, Tree.mem_modules_of_path named⟩
  · rcases origin name member with rfl | ⟨statement, inside, path, named, same⟩
    · exact ⟨.inl rfl, by decide, fun c => isIdentifier_future.clean⟩
    · have root := roots statement inside path named
      rw [← same] at root
      have alone := root.eq_firstName (tight statement inside path named)
      refine ⟨.inr ⟨statement, inside, path, named, alone⟩, root.ne_empty, fun c character => ?_⟩
      rw [alone, String.toList_ofList] at character
      exact root.identifier.clean character

def spacedImports : String := "import os . path\nimport os\n"

theorem read_spacedImports : ∃ outline found, Outline.read spacedImports = .ok outline ∧
    outline.symbols .flatten = .ok found ∧ found.dependencies.names = ["os ", "os"] := by
  have evaluated : (Outline.read spacedImports).toOption.map Outline.modules =
      some ["os . path", "os"] := by decide +kernel
  obtain ⟨outline, read, modules⟩ := exists_of_toOption evaluated
  obtain ⟨trees, -, lowers⟩ := lowers_of_read read
  obtain ⟨found, walked, -⟩ := Outline.symbols_walked .flatten lowers.named
  refine ⟨outline, found, read, walked, ?_⟩
  have dependencies : found.dependencies = Dependencies.empty.addAll outline.modules :=
    visitAll_dependencies outline walked
  rw [dependencies, modules]
  decide

theorem Outline.dependencies_of_spacedImports :
    ∃ outline trees found, Outline.read spacedImports = .ok outline ∧
      parse spacedImports.toList = .ok trees ∧ outline.symbols .flatten = .ok found ∧
      ∃ statement ∈ Tree.importsOf trees, ∃ path ∈ statement.modulePaths,
        IsRootOf spacedImports.toList path "os " ∧ "os " ∈ found.dependencies.names := by
  obtain ⟨outline, found, read, walked, names⟩ := read_spacedImports
  obtain ⟨trees, other, parsed, same, origin, -⟩ := Outline.dependencies_of_read .flatten read
  obtain rfl : found = other := Except.ok.inj (walked.symm.trans same)
  have member : "os " ∈ found.dependencies.names := by simp [names]
  obtain other | ⟨statement, inside, path, named, root⟩ := origin "os " member
  · exact absurd other (by decide)
  · exact ⟨outline, trees, found, read, parsed, walked, statement, inside, path, named, root, member⟩

/-- A dependency can end with a blank, and one package can be two dependencies. -/
theorem Outline.dependencies_hold_blank :
    ∃ outline found, Outline.read "import os . path\nimport os\n" = .ok outline ∧
      outline.symbols .flatten = .ok found ∧ found.dependencies.names = ["os ", "os"] ∧
      ∃ c ∈ "os ".toList, Text.isBlank c = true := by
  obtain ⟨outline, found, read, walked, names⟩ := read_spacedImports
  exact ⟨outline, found, read, walked, names, ' ', by decide, by decide⟩

end PythonDocs
