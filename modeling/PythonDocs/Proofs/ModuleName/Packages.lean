import PythonDocs.Proofs.Discovery.Selected
import PythonDocs.Proofs.ModuleName.Documents

namespace PythonDocs

open FilePath (IsEntry)

namespace ModuleName

def parts (packages : List String) (stem : String) : List String :=
  if stem = packageFile ∧ packages ≠ [] then packages else packages ++ [stem]

theorem parts_ne_nil (packages : List String) (stem : String) : parts packages stem ≠ [] := by
  unfold parts
  split
  · exact And.right ‹_›
  · simp

theorem below_source (root : FilePath) {packages : List String} {stem : String} (some : stem ≠ "")
    (entry : IsEntry (packages ++ [stem ++ ".py"])) :
    below root (FilePath.below root (packages ++ [stem ++ ".py"])) =
      Text.join "." (parts packages stem) := by
  have seen := FilePath.relativeTo_below root entry.some entry.valid
  have split : FilePath.splitName (stem ++ ".py") = (stem, .some "py") := by
    have ending : stem ++ "." ++ "py" = stem ++ ".py" := String.append_assoc ..
    rw [← ending, FilePath.splitName_append some (by decide)]
  have text : packages.map (Component.text ∘ .name) = packages := List.map_id packages
  rw [FilePath.relativeTo] at seen
  rw [below, seenFrom, seen, ofComponents, parts]
  simp [FilePath.nameOf?, split, text]

theorem splitOn_join {names : List String} (some : names ≠ [])
    (plain : ∀ name ∈ names, '.' ∉ name.toList) :
    Text.splitOn '.' (Text.join "." names).toList = names.map String.toList := by
  rw [Text.join, String.toList_ofList]
  apply Text.splitOn_joinWith (by simpa using some)
  intro piece member
  obtain ⟨name, inside, rfl⟩ := List.mem_map.mp member
  exact plain name inside

theorem eq_or_lt_of_join_eq {names others : List String} (some : names ≠ []) (someToo : others ≠ [])
    (plain : ∀ name ∈ names, '.' ∉ name.toList)
    (same : Text.join "." names = Text.join "." others) :
    names = others ∨ ∃ front name rest other more, names = front ++ name :: rest ∧
      others = front ++ other :: more ∧ name.toList <+: other.toList ∧ name ≠ other := by
  have pieces : names.map String.toList = (others.map String.toList).flatMap (Text.splitOn '.') := by
    rw [← splitOn_join some plain, same, Text.join, String.toList_ofList,
      ← Text.splitOn_joinWith_flatMap '.' (by simpa using someToo)]
    rfl
  rcases Text.flatMap_splitOn_cases '.' (others.map String.toList) with
    whole | ⟨front, piece, rest, text, more, split, listed, starts, apart⟩
  · exact .inl (List.map_injective_iff.mpr (fun _ _ => String.toList_inj.mp) (pieces.trans whole))
  · rw [← pieces] at split
    obtain ⟨first, second, rfl, rfl, later⟩ := List.map_eq_append_iff.mp split
    obtain ⟨name, last, rfl, rfl, rfl⟩ := List.map_eq_cons_iff.mp later
    obtain ⟨firstToo, secondToo, rfl, again, later⟩ := List.map_eq_append_iff.mp listed
    obtain ⟨other, lastToo, rfl, rfl, rfl⟩ := List.map_eq_cons_iff.mp later
    obtain rfl := List.map_injective_iff.mpr (fun _ _ => String.toList_inj.mp) again
    exact .inr ⟨_, name, last, other, lastToo, rfl, rfl, starts, fun equal => apart (equal ▸ rfl)⟩

theorem join_inj {names others : List String} (some : names ≠ []) (someToo : others ≠ [])
    (plain : ∀ name ∈ names, '.' ∉ name.toList) (plainToo : ∀ name ∈ others, '.' ∉ name.toList) :
    Text.join "." names = Text.join "." others ↔ names = others := by
  refine ⟨fun same => ?_, congrArg _⟩
  have pieces := (splitOn_join some plain).symm.trans (same ▸ splitOn_join someToo plainToo)
  exact List.map_injective_iff.mpr (fun _ _ => String.toList_inj.mp) pieces

theorem lt_of_isPrefix {first second : String} (starts : first.toList <+: second.toList)
    (apart : first ≠ second) : first < second := by
  obtain ⟨rest, same⟩ := starts
  cases rest with
  | nil => exact absurd (String.toList_inj.mp ((List.append_nil _).symm.trans same)) apart
  | cons c rest =>
    have less : first.toList ++ [] < first.toList ++ c :: rest :=
      List.append_left_lt (List.nil_lt_cons c rest)
    rwa [List.append_nil, same, ← String.lt_iff_toList_lt] at less

theorem lt_of_first {front rest more : List String} {name other : String} (less : name < other) :
    front ++ name :: rest < front ++ other :: more :=
  List.append_left_lt (List.cons_lt_cons_iff.mpr (.inl less))

theorem lt_append_extension (stem : String) : stem < stem ++ ".py" := by
  apply lt_of_isPrefix (by simp)
  intro same
  have sizes := congrArg String.length same
  simp at sizes

/-- The file of a package is the first of all files with its name. -/
theorem package_le {names packages : List String} {stem : String} (some : names ≠ [])
    (plain : ∀ name ∈ names, '.' ∉ name.toList)
    (same : Text.join "." names = Text.join "." (parts packages stem)) :
    names ++ [packageFile ++ ".py"] ≤ packages ++ [stem ++ ".py"] := by
  have cases := eq_or_lt_of_join_eq some (parts_ne_nil packages stem) plain same
  unfold parts at cases
  split at cases
  · rename_i package
    rw [package.1]
    rcases cases with rfl | ⟨front, name, rest, other, more, rfl, rfl, starts, apart⟩
    · exact le_refl _
    · apply le_of_lt
      rw [List.append_assoc, List.append_assoc]
      exact lt_of_first (lt_of_isPrefix starts apart)
  · apply le_of_lt
    rcases cases with rfl | ⟨front, name, rest, other, more, rfl, listed, starts, apart⟩
    · rw [List.append_assoc]
      exact lt_of_first (lt_append_extension stem)
    · have less := lt_of_isPrefix starts apart
      rw [List.append_assoc]
      rcases List.eq_nil_or_concat more with rfl | ⟨others, last, rfl⟩
      · obtain ⟨rfl, single⟩ := List.append_inj' listed rfl
        obtain rfl := List.head_eq_of_cons_eq single
        exact lt_of_first (less.trans (lt_append_extension stem))
      · rw [List.concat_eq_append, ← List.cons_append, ← List.append_assoc] at listed
        obtain ⟨rfl, -⟩ := List.append_inj' listed rfl
        rw [List.append_assoc]
        exact lt_of_first less

structure IsUndottedSource (names : List String) : Prop where
  valid : ∀ name ∈ names, IsFileName name
  packages : ∀ name ∈ names.dropLast, '.' ∉ name.toList
  stem : ∃ stem, stem ≠ "" ∧ '.' ∉ stem.toList ∧ names.getLast? = some (stem ++ ".py")

inductive ArePackageAndModule : List String → List String → Prop
  | intro {packages : List String} {name : String} (own : name = packageFile → packages = []) :
    ArePackageAndModule (packages ++ [name, "__init__.py"]) (packages ++ [name ++ ".py"])

namespace IsUndottedSource

variable {names : List String}

theorem entry (source : IsUndottedSource names) : IsEntry names := by
  refine ⟨?_, source.valid⟩
  rintro rfl
  simpa using source.stem

theorem exists_parts (source : IsUndottedSource names) :
    ∃ packages stem, names = packages ++ [stem ++ ".py"] ∧ stem ≠ "" ∧
      (∀ name ∈ packages, '.' ∉ name.toList) ∧ '.' ∉ stem.toList := by
  obtain ⟨stem, some, plain, ends⟩ := source.stem
  obtain ⟨packages, rfl⟩ := List.getLast?_eq_some_iff.mp ends
  refine ⟨packages, stem, rfl, some, ?_, plain⟩
  simpa using source.packages

end IsUndottedSource

theorem parts_plain {packages : List String} {stem : String}
    (plain : ∀ name ∈ packages, '.' ∉ name.toList) (plainToo : '.' ∉ stem.toList) :
    ∀ name ∈ parts packages stem, '.' ∉ name.toList := by
  intro name member
  unfold parts at member
  split at member
  · exact plain name member
  · rcases List.mem_append.mp member with inside | last
    · exact plain name inside
    · rwa [List.mem_singleton.mp last]

theorem parts_package {packages : List String} {name : String} :
    parts (packages ++ [name]) packageFile = packages ++ [name] :=
  if_pos ⟨rfl, by simp⟩

theorem parts_module {packages : List String} {name : String}
    (own : name = packageFile → packages = []) : parts packages name = packages ++ [name] := by
  apply if_neg
  rintro ⟨same, some⟩
  exact some (own same)

theorem source_inj {packages others : List String} {stem last : String} :
    packages ++ [stem ++ ".py"] = others ++ [last ++ ".py"] ↔ packages = others ∧ stem = last := by
  simp

theorem package_eq (packages : List String) (name : String) :
    packages ++ [name, "__init__.py"] = packages ++ [name] ++ [packageFile ++ ".py"] :=
  List.append_cons ..

theorem arePackageAndModule_iff {packages others : List String} {stem last : String} :
    ArePackageAndModule (packages ++ [stem ++ ".py"]) (others ++ [last ++ ".py"]) ↔
      packages = others ++ [last] ∧ stem = packageFile ∧ (last = packageFile → others = []) := by
  constructor
  · intro pair
    generalize first : packages ++ [stem ++ ".py"] = names at pair
    generalize second : others ++ [last ++ ".py"] = module at pair
    cases pair with
    | intro own =>
      rw [package_eq, source_inj] at first
      obtain ⟨rfl, rfl⟩ := source_inj.mp second
      exact ⟨first.1, first.2, own⟩
  · rintro ⟨rfl, rfl, own⟩
    exact package_eq others last ▸ .intro own

theorem parts_eq_iff {packages others : List String} {stem last : String} :
    parts packages stem = parts others last ↔
      packages ++ [stem ++ ".py"] = others ++ [last ++ ".py"] ∨
      ArePackageAndModule (packages ++ [stem ++ ".py"]) (others ++ [last ++ ".py"]) ∨
      ArePackageAndModule (others ++ [last ++ ".py"]) (packages ++ [stem ++ ".py"]) := by
  rw [source_inj, arePackageAndModule_iff, arePackageAndModule_iff]
  constructor
  · intro same
    unfold parts at same
    split at same <;> split at same
    · rename_i package packageToo
      exact .inl ⟨same, package.1.trans packageToo.1.symm⟩
    · rename_i package module
      exact .inr (.inl ⟨same, package.1, fun own => not_not.mp fun inner => module ⟨own, inner⟩⟩)
    · rename_i module package
      exact .inr (.inr
        ⟨same.symm, package.1, fun own => not_not.mp fun inner => module ⟨own, inner⟩⟩)
    · exact .inl (by simpa using List.append_inj' same rfl)
  · rintro (⟨rfl, rfl⟩ | ⟨rfl, rfl, own⟩ | ⟨rfl, rfl, own⟩)
    · rfl
    · rw [parts_package, parts_module own]
    · rw [parts_package, parts_module own]

section

variable {names others : List String}

theorem below_eq_iff (root : FilePath) (first : IsUndottedSource names)
    (second : IsUndottedSource others) :
    below root (FilePath.below root names) = below root (FilePath.below root others) ↔
      names = others ∨ ArePackageAndModule names others ∨ ArePackageAndModule others names := by
  have entry := first.entry
  have entryToo := second.entry
  obtain ⟨packages, stem, rfl, some, plain, plainStem⟩ := first.exists_parts
  obtain ⟨packagesToo, last, rfl, someToo, plainToo, plainLast⟩ := second.exists_parts
  rw [below_source root some entry, below_source root someToo entryToo,
    join_inj (parts_ne_nil _ _) (parts_ne_nil _ _) (parts_plain plain plainStem)
      (parts_plain plainToo plainLast), parts_eq_iff]

theorem ArePackageAndModule.lt (pair : ArePackageAndModule names others) : names < others := by
  cases pair with
  | intro => exact lt_of_first (lt_append_extension _)

theorem ArePackageAndModule.le_of_below_eq {root : FilePath} {third : List String}
    (pair : ArePackageAndModule names others) (undotted : IsUndottedSource names)
    (entry : IsEntry third) (source : isSourceName third = true)
    (same : below root (FilePath.below root third) = below root (FilePath.below root names)) :
    names ≤ third := by
  obtain ⟨stem, some, ends⟩ := isSourceName_iff.mp source
  obtain ⟨packages, rfl⟩ := List.getLast?_eq_some_iff.mp ends
  rw [below_source root some entry] at same
  cases pair with
  | @intro outer name own =>
    rw [package_eq] at undotted same ⊢
    rw [below_source root (by decide) undotted.entry, parts_package] at same
    exact package_le (by simp) (by simpa using undotted.packages) same.symm

end

end ModuleName

end PythonDocs
