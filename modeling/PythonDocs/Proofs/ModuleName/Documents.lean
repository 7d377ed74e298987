import Mathlib.Data.List.TakeWhile
import PythonDocs.ModuleName
import PythonDocs.Proofs.FilePath.Below

namespace PythonDocs

namespace FilePath

theorem dropCommon?_append (base rest : List Component) :
    dropCommon? base (base ++ rest) = some rest := by
  induction base with
  | nil => cases rest <;> rfl
  | cons component base ih => rw [List.cons_append, dropCommon?, if_pos rfl, ih]

theorem relativeTo_below (root : FilePath) {names : List String} (some : names ≠ [])
    (valid : ∀ name ∈ names, IsFileName name) :
    relativeTo root (below root names) = names.map .name := by
  rw [relativeTo, seenFrom, components_below root some valid, dropCommon?_append]
  rfl

theorem mem_of_mem_stem {name : String} {c : Char} (member : c ∈ (splitName name).1.toList) :
    c ∈ name.toList := by
  unfold splitName at member
  dsimp only at member
  split at member
  · exact member
  · exact member
  · rename_i dot before given
    rw [String.toList_ofList, List.mem_reverse] at member
    have inside : c ∈ name.toList.reverse.dropWhile (· ≠ '.') := by
      rw [given]
      exact List.mem_cons_of_mem _ member
    exact List.mem_reverse.mp ((List.dropWhile_sublist _).subset inside)

theorem splitName_append {stem extension : String} (some : stem ≠ "")
    (noDot : '.' ∉ extension.toList) :
    splitName (stem ++ "." ++ extension) = (stem, .some extension) := by
  have plain : ∀ c ∈ extension.toList.reverse, decide (c ≠ '.') = true := by
    intro c member
    rw [decide_eq_true_iff]
    rintro rfl
    exact noDot (List.mem_reverse.mp member)
  have reversed : (stem ++ "." ++ extension).toList.reverse =
      extension.toList.reverse ++ '.' :: stem.toList.reverse := by
    simp
  unfold splitName
  simp only [reversed, List.takeWhile_append_of_pos plain, List.dropWhile_append_of_pos plain]
  cases before : stem.toList.reverse with
  | nil => exact absurd before (by simpa using some)
  | cons c rest =>
    have same : stem = .ofList (c :: rest).reverse := by
      rw [← before]
      simp
    simp [same]

theorem exists_of_extension {name extension : String}
    (given : (splitName name).2 = some extension) :
    '.' ∉ extension.toList ∧ ∃ stem, stem ≠ "" ∧ name = stem ++ "." ++ extension := by
  have whole := List.takeWhile_append_dropWhile (p := fun c => decide (c ≠ '.'))
    (l := name.toList.reverse)
  have head := List.head?_dropWhile_not (fun c => decide (c ≠ '.')) name.toList.reverse
  unfold splitName at given
  dsimp only at given
  split at given
  · cases given
  · cases given
  · rename_i c before single rest
    rw [rest] at whole head
    obtain rfl : c = '.' := by simpa using head
    cases given
    refine ⟨?_, .ofList before.reverse, ?_, ?_⟩
    · intro member
      rw [String.toList_ofList, List.mem_reverse] at member
      simpa using List.mem_takeWhile_imp member
    · intro empty
      exact single rfl (by simpa using congrArg String.toList empty)
    · rw [← String.toList_inj, ← List.reverse_inj]
      exact whole.symm.trans (by simp)

theorem extension_document (module : String) : (splitName (module ++ ".md")).2 ≠ some "py" := by
  have reversed : (module ++ ".md").toList.reverse =
      'd' :: 'm' :: '.' :: module.toList.reverse := by
    simp
  unfold splitName
  simp only [reversed]
  cases module.toList.reverse <;> simp

theorem isFileName_document {module : String} (noSlash : '/' ∉ module.toList) :
    IsFileName (module ++ ".md") := by
  have long : 3 ≤ (module ++ ".md").toList.length := by simp
  refine ⟨?_, ?_, ?_, by simpa using noSlash⟩
  · intro same
    simp [same] at long
  · intro same
    simp [same] at long
  · intro same
    simp [same] at long

end FilePath

namespace ModuleName

theorem noSlash_join {names : List String} (noSlash : ∀ name ∈ names, '/' ∉ name.toList) :
    '/' ∉ (Text.join "." names).toList := by
  intro member
  rw [Text.join, String.toList_ofList] at member
  rcases Text.mem_joinWith member with dot | ⟨piece, inside, given⟩
  · simp at dot
  · obtain ⟨name, listed, rfl⟩ := List.mem_map.mp inside
    exact noSlash name listed given

theorem noSlash_ofComponents {names : List String} (noSlash : ∀ name ∈ names, '/' ∉ name.toList) :
    '/' ∉ (ofComponents (names.map .name)).toList := by
  have stem : '/' ∉ (((FilePath.nameOf? (names.map .name)).map fun name =>
      (FilePath.splitName name).1).getD "").toList := by
    rw [FilePath.nameOf?, List.getLast?_map]
    cases last : names.getLast? with
    | none => simp
    | some name =>
      exact fun member => noSlash name (List.mem_of_getLast? last) (FilePath.mem_of_mem_stem member)
  have outer : ∀ name ∈ (names.map Component.name).dropLast.map Component.text,
      '/' ∉ name.toList := by
    intro name member
    rw [← List.map_dropLast, List.map_map] at member
    obtain ⟨other, listed, rfl⟩ := List.mem_map.mp member
    exact noSlash other ((List.dropLast_sublist _).subset listed)
  unfold ofComponents
  generalize ((FilePath.nameOf? (names.map .name)).map fun name =>
    (FilePath.splitName name).1).getD "" = last at stem
  have joined (packages : List String) (whole : ∀ name ∈ packages, '/' ∉ name.toList) :
      '/' ∉ (Text.join "." (if last = packageFile ∧ packages ≠ [] then packages
        else packages ++ [last])).toList := by
    apply noSlash_join
    intro name member
    split at member
    · exact whole name member
    · rcases List.mem_append.mp member with inside | single
      · exact whole name inside
      · rw [List.mem_singleton.mp single]
        exact stem
  split
  · exact joined [] (by intro name given; cases given)
  · exact joined [] (by intro name given; cases given)
  · exact joined _ outer

theorem isFileName_below (root : FilePath) {names : List String} (some : names ≠ [])
    (valid : ∀ name ∈ names, IsFileName name) :
    IsFileName (below root (FilePath.below root names) ++ ".md") := by
  apply FilePath.isFileName_document
  have seen := FilePath.relativeTo_below root some valid
  rw [FilePath.relativeTo] at seen
  rw [below, seenFrom, seen]
  exact noSlash_ofComponents fun name member => (valid name member).noSlash

theorem ofComponents_single {components : List Component}
    (single : components.getLast? = some .root ∨ components.dropLast = []) :
    ofComponents components =
      ((FilePath.nameOf? components).map fun name => (FilePath.splitName name).1).getD "" := by
  have joined (last : String) : Text.join "." [last] = last := by simp [Text.join, Text.joinWith]
  unfold ofComponents
  rcases single with top | alone
  · simp [top, joined]
  · rw [alone]
    cases components.getLast? with
    | none => simp [joined]
    | some last => cases last <;> simp [joined]

theorem seenFrom_parent (path : FilePath) :
    let seen := FilePath.seenFrom ((FilePath.parent? path).getD []) path
    (seen.getLast? = some .root ∨ seen.dropLast = []) ∧
      seen.getLast? = (FilePath.components path).getLast? := by
  have whole : FilePath.seenFrom [] path = FilePath.components path := by
    unfold FilePath.seenFrom
    cases FilePath.components path <;> rfl
  unfold FilePath.parent?
  cases ends : (FilePath.components path).getLast? with
  | none =>
    have empty := List.getLast?_eq_none_iff.mp ends
    simp [whole, empty]
  | some last =>
    by_cases top : last = .root
    · subst top
      simp [whole, ends]
    · obtain ⟨front, same⟩ := List.getLast?_eq_some_iff.mp ends
      have seen : FilePath.seenFrom front path = [last] := by
        rw [FilePath.seenFrom, same, FilePath.dropCommon?_append]
        rfl
      cases last <;> simp_all

theorem isFileName_alone (path : FilePath) :
    IsFileName (seenFrom ((FilePath.parent? path).getD []) path ++ ".md") := by
  apply FilePath.isFileName_document
  obtain ⟨single, ends⟩ := seenFrom_parent path
  rw [seenFrom, ofComponents_single single, FilePath.nameOf?, ends]
  split
  · rename_i name last
    have noSlash := (FilePath.isFileName_of_mem_components (List.mem_of_getLast? last)).noSlash
    exact fun member => noSlash (FilePath.mem_of_mem_stem member)
  · simp

end ModuleName

end PythonDocs
