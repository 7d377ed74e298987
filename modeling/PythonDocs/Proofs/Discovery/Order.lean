import Mathlib.Data.List.Induction
import Mathlib.Data.List.Lex
import Mathlib.Data.List.Sort
import Mathlib.Data.String.Basic
import PythonDocs.Discovery
import PythonDocs.Proofs.FilePath.Below
import PythonDocs.Report

namespace PythonDocs

theorem namesLess_iff_lt (first second : List String) :
    namesLess first second = true ↔ first < second := by
  induction first generalizing second with
  | nil => cases second <;> simp [namesLess]
  | cons name rest ih =>
    cases second with
    | nil => simp [namesLess]
    | cons other others =>
      rw [List.cons_lt_cons_iff, namesLess]
      by_cases same : name = other
      · simp [same, ih]
      · simp [same]

theorem sortNames_eq_insertionSort (files : List (List String)) :
    sortNames files = files.insertionSort (· ≤ ·) := by
  have insert (names : List String) (files : List (List String)) :
      insertNames names files = files.orderedInsert (· ≤ ·) names := by
    induction files with
    | nil => rfl
    | cons other rest ih =>
      rw [insertNames, List.orderedInsert_cons, ih]
      by_cases before : other < names
      · rw [if_pos ((namesLess_iff_lt _ _).mpr before), if_neg (not_le.mpr before)]
      · rw [if_neg (mt (namesLess_iff_lt _ _).mp before), if_pos (not_lt.mp before)]
  induction files with
  | nil => rfl
  | cons names rest ih =>
    rw [sortNames, List.foldr_cons, List.insertionSort_cons, insert]
    exact congrArg _ ih

theorem mem_sortNames {names : List String} {files : List (List String)} :
    names ∈ sortNames files ↔ names ∈ files := by
  rw [sortNames_eq_insertionSort, List.mem_insertionSort]

theorem sortNames_pairwise {files : List (List String)} (distinct : files.Nodup) :
    (sortNames files).Pairwise (· < ·) := by
  rw [sortNames_eq_insertionSort]
  have sorted := List.pairwise_insertionSort (· ≤ ·) files
  have apart : (files.insertionSort (· ≤ ·)).Nodup :=
    (List.perm_insertionSort (· ≤ ·) files).nodup_iff.mpr distinct
  exact (sorted.and apart).imp fun ⟨before, different⟩ => lt_of_le_of_ne before different

theorem componentsLess_append (front first second : List Component) :
    componentsLess (front ++ first) (front ++ second) = componentsLess first second := by
  induction front with
  | nil => rfl
  | cons component rest ih => simpa [componentsLess] using ih

theorem componentsLess_names (first second : List String) :
    componentsLess (first.map .name) (second.map .name) = namesLess first second := by
  induction first generalizing second with
  | nil => cases second <;> rfl
  | cons name rest ih =>
    cases second with
    | nil => rfl
    | cons other others =>
      simp only [List.map_cons, componentsLess, namesLess, Component.name.injEq, ih,
        Component.isLess]

namespace FilePath

structure IsEntry (names : List String) : Prop where
  some : names ≠ []
  valid : ∀ name ∈ names, IsFileName name

variable {names others : List String}

theorem isLess_below (root : FilePath) (first : IsEntry names) (second : IsEntry others) :
    isLess (below root names) (below root others) = true ↔ names < others := by
  rw [isLess, components_below root first.some first.valid,
    components_below root second.some second.valid, componentsLess_append, componentsLess_names,
    namesLess_iff_lt]

theorem components_below_inj (root : FilePath) (first : IsEntry names) (second : IsEntry others) :
    components (below root names) = components (below root others) ↔ names = others := by
  rw [components_below root first.some first.valid, components_below root second.some second.valid,
    List.append_cancel_left_eq]
  exact (List.map_injective_iff.mpr fun _ _ same => Component.name.inj same).eq_iff

theorem below_inj (root : FilePath) (first : IsEntry names) (second : IsEntry others)
    (same : below root names = below root others) : names = others :=
  (components_below_inj root first second).mp (congrArg components same)

end FilePath

theorem insertReason_of_last {root : FilePath} {names : List String}
    (entry : FilePath.IsEntry names) (reason : String) {reasons : List (FilePath × String)}
    (before : ∀ other ∈ reasons, ∃ others, FilePath.IsEntry others ∧
      other.1 = FilePath.below root others ∧ others < names) :
    insertReason (FilePath.below root names) reason reasons =
      reasons ++ [(FilePath.below root names, reason)] := by
  induction reasons with
  | nil => rfl
  | cons other rest ih =>
    obtain ⟨path, kept⟩ := other
    obtain ⟨others, valid, rfl, less⟩ := before _ List.mem_cons_self
    have further := ih fun other member => before other (List.mem_cons_of_mem _ member)
    have apart : FilePath.components (FilePath.below root names) ≠
        FilePath.components (FilePath.below root others) := by
      rw [Ne, FilePath.components_below_inj root entry valid]
      exact (ne_of_lt less).symm
    have notLess : ¬ FilePath.isLess (FilePath.below root names) (FilePath.below root others) := by
      rw [FilePath.isLess_below root entry valid]
      exact lt_asymm less
    rw [insertReason, if_neg apart, if_neg notLess, further, List.cons_append]

/-- Reasons for files in their order are kept in this order. -/
theorem foldl_insertReason {root : FilePath} {names : List (List String)}
    (entries : ∀ other ∈ names, FilePath.IsEntry other) (sorted : names.Pairwise (· < ·))
    {reasons : List (FilePath × String)}
    (listed : (reasons.map Prod.fst).Sublist (names.map (FilePath.below root))) :
    reasons.foldl (fun kept (path, reason) => insertReason path reason kept) [] = reasons := by
  obtain ⟨kept, inside, same⟩ := List.sublist_map_iff.mp listed
  have ordered := sorted.sublist inside
  have valid : ∀ other ∈ kept, FilePath.IsEntry other :=
    fun other member => entries other (inside.subset member)
  clear listed inside sorted entries
  induction reasons using List.reverseRecOn generalizing kept with
  | nil => rfl
  | append_singleton front last ih =>
    obtain ⟨path, reason⟩ := last
    rw [List.map_append] at same
    obtain ⟨before, single, rfl, first, second⟩ := List.map_eq_append_iff.mp same.symm
    obtain ⟨other, rest, rfl, rfl, nothing⟩ := List.map_eq_cons_iff.mp second
    obtain rfl := List.map_eq_nil_iff.mp nothing
    rw [List.pairwise_append] at ordered
    rw [List.foldl_append, ih before first.symm ordered.1
      fun other member => valid other (List.mem_append_left _ member)]
    apply insertReason_of_last (valid other (by simp)) reason
    intro entry member
    have listed : entry.1 ∈ before.map (FilePath.below root) := first ▸ List.mem_map_of_mem member
    obtain ⟨names, inside, equal⟩ := List.mem_map.mp listed
    exact ⟨names, valid names (List.mem_append_left _ inside), equal.symm,
      ordered.2.2 names inside other List.mem_cons_self⟩

end PythonDocs
