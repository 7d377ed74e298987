import PythonDocs.FileTree
import PythonDocs.Proofs.Text.Pieces

namespace PythonDocs

structure IsFileName (name : String) : Prop where
  some : name ≠ ""
  noDot : name ≠ "."
  noDots : name ≠ ".."
  noSlash : '/' ∉ name.toList

instance (name : String) : Decidable (IsFileName name) :=
  decidable_of_iff (name ≠ "" ∧ name ≠ "." ∧ name ≠ ".." ∧ '/' ∉ name.toList)
    ⟨fun valid => ⟨valid.1, valid.2.1, valid.2.2.1, valid.2.2.2⟩,
      fun valid => ⟨valid.some, valid.noDot, valid.noDots, valid.noSlash⟩⟩

namespace IsFileName

variable {name : String}

theorem toList_ne_nil (valid : IsFileName name) : name.toList ≠ [] := by
  intro empty
  exact valid.some (String.toList_eq_nil_iff.mp empty)

theorem toList_ne_dot (valid : IsFileName name) : name.toList ≠ ['.'] := by
  intro dot
  exact valid.noDot (String.toList_inj.mp dot)

theorem toList_ne_dots (valid : IsFileName name) : name.toList ≠ ['.', '.'] := by
  intro dots
  exact valid.noDots (String.toList_inj.mp dots)

end IsFileName

namespace FilePath

theorem componentsOf_append (first second : List (List Char)) :
    componentsOf (first ++ second) = componentsOf first ++ componentsOf second := by
  induction first with
  | nil => rfl
  | cons piece rest ih =>
    simp only [List.cons_append, componentsOf, ih]
    split
    · rfl
    · split <;> rfl

theorem isFileName_of_mem_stepsOf {pieces : List (List Char)} {name : String}
    (whole : ∀ piece ∈ pieces, '/' ∉ piece) (member : .name name ∈ steps.stepsOf pieces) :
    IsFileName name := by
  induction pieces with
  | nil => cases member
  | cons piece rest ih =>
    have later := ih fun other inside => whole other (List.mem_cons_of_mem _ inside)
    have noSlash := whole piece List.mem_cons_self
    rw [steps.stepsOf] at member
    split at member
    · exact later member
    · rename_i some
      split at member
      · exact later (by simpa using member)
      · rename_i noDot
        split at member
        · exact later (by simpa using member)
        · rename_i noDots
          rcases List.mem_cons.mp member with same | inside
          · obtain rfl := Component.name.inj same
            refine ⟨fun empty => ?_, fun dot => ?_, fun dots => ?_, by simpa using noSlash⟩
            · exact some (by simpa using congrArg String.toList empty)
            · exact noDot (by simpa using congrArg String.toList dot)
            · exact noDots (by simpa using congrArg String.toList dots)
          · exact later inside

theorem componentsOf_subset (pieces : List (List Char)) :
    componentsOf pieces ⊆ steps.stepsOf pieces := by
  induction pieces with
  | nil => exact List.Subset.refl _
  | cons piece rest ih =>
    by_cases empty : piece = []
    · simp [componentsOf, steps.stepsOf, empty, ih]
    · by_cases dot : piece = ['.']
      · simpa [componentsOf, steps.stepsOf, dot] using List.subset_cons_of_subset _ ih
      · by_cases dots : piece = ['.', '.']
        · simpa [componentsOf, steps.stepsOf, dots] using List.subset_cons_of_subset _ ih
        · simpa [componentsOf, steps.stepsOf, empty, dot, dots] using
            List.subset_cons_of_subset _ ih

theorem isFileName_of_mem_components {path : FilePath} {name : String}
    (member : .name name ∈ components path) : IsFileName name := by
  have inner : .name name ∈ componentsOf (Text.splitOn '/' path.toList) := by
    unfold components at member
    simp only at member
    split at member
    · simpa using member
    · split at member
      · simpa using member
      · exact member
  exact isFileName_of_mem_stepsOf (fun _ => Text.not_mem_of_mem_splitOn)
    (componentsOf_subset _ inner)

theorem isFileName_of_mem_steps {path : FilePath} {name : String}
    (member : .name name ∈ steps path) : IsFileName name := by
  have inner : .name name ∈ steps.stepsOf (Text.splitOn '/' path.toList) := by
    unfold steps at member
    simp only at member
    split at member <;> split at member <;> simpa using member
  exact isFileName_of_mem_stepsOf (fun _ => Text.not_mem_of_mem_splitOn) inner

theorem steps.stepsOf_append (first second : List (List Char)) :
    stepsOf (first ++ second) = stepsOf first ++ stepsOf second := by
  induction first with
  | nil => rfl
  | cons piece rest ih =>
    simp only [List.cons_append, stepsOf, ih]
    split
    · rfl
    · split
      · rfl
      · split <;> rfl

theorem componentsOf_names {names : List String} (valid : ∀ name ∈ names, IsFileName name) :
    componentsOf (names.map String.toList) = names.map Component.name := by
  induction names with
  | nil => rfl
  | cons name rest ih =>
    have first := valid name List.mem_cons_self
    have others := ih fun other member => valid other (List.mem_cons_of_mem _ member)
    simp [componentsOf, first.toList_ne_nil, first.toList_ne_dot, first.toList_ne_dots, others]

theorem steps.stepsOf_names {names : List String} (valid : ∀ name ∈ names, IsFileName name) :
    stepsOf (names.map String.toList) = names.map Component.name := by
  induction names with
  | nil => rfl
  | cons name rest ih =>
    have first := valid name List.mem_cons_self
    have others := ih fun other member => valid other (List.mem_cons_of_mem _ member)
    simp [stepsOf, first.toList_ne_nil, first.toList_ne_dot, first.toList_ne_dots, others]

def way (path : FilePath) : List Component :=
  let inner := steps.stepsOf (Text.splitOn '/' path.toList)
  if isAbsolute path then .root :: inner else inner

theorem steps_eq (path : FilePath) :
    steps path = way path ++ if path.toList.getLast? = some '/' then [.here] else [] := by
  unfold steps way
  split <;> split <;> simp

def below (base : FilePath) (names : List String) : FilePath := join base (Text.join "/" names)

section

variable {names : List String}

theorem joined_toList (names : List String) :
    (Text.join "/" names).toList = Text.joinWith ['/'] (names.map String.toList) := by
  simp [Text.join]

theorem splitOn_joined (some : names ≠ []) (valid : ∀ name ∈ names, IsFileName name) :
    Text.splitOn '/' (Text.join "/" names).toList = names.map String.toList := by
  rw [joined_toList]
  apply Text.splitOn_joinWith
  · simpa using some
  · intro piece member
    obtain ⟨name, given, rfl⟩ := List.mem_map.mp member
    exact (valid name given).noSlash

theorem joined_ends (some : names ≠ []) (valid : ∀ name ∈ names, IsFileName name) :
    (Text.join "/" names).toList.head? ≠ Option.some '/' ∧
      (Text.join "/" names).toList.getLast? ≠ Option.some '/' := by
  have split := splitOn_joined some valid
  have nonempty (empty : ([] : List Char) ∈ names.map String.toList) : False := by
    obtain ⟨name, given, same⟩ := List.mem_map.mp empty
    exact (valid name given).toList_ne_nil same
  constructor
  · intro starts
    obtain ⟨rest, same⟩ := List.head?_eq_some_iff.mp starts
    rw [same, Text.splitOn_cons_separator] at split
    exact nonempty (split ▸ List.mem_cons_self)
  · intro ends
    obtain ⟨rest, same⟩ := List.getLast?_eq_some_iff.mp ends
    rw [same, Text.splitOn_append] at split
    exact nonempty (split ▸ List.mem_append_right _ List.mem_cons_self)

theorem isAbsolute_joined (some : names ≠ []) (valid : ∀ name ∈ names, IsFileName name) :
    isAbsolute (Text.join "/" names) = false := by
  rw [isAbsolute, decide_eq_false_iff_not]
  exact (joined_ends some valid).1

/-- The pieces of a path below another: those of the other, which may end with an empty one, and
then the names. -/
theorem splitOn_below (base : FilePath) (some : names ≠ [])
    (valid : ∀ name ∈ names, IsFileName name) :
    ∃ front, Text.splitOn '/' (below base names).toList = front ++ names.map String.toList ∧
      (Text.splitOn '/' base.toList = front ∨ Text.splitOn '/' base.toList = front ++ [[]]) ∧
      (front = [] → base = "") := by
  have inner := splitOn_joined some valid
  unfold below join
  rw [isAbsolute_joined some valid]
  by_cases empty : base = ""
  · subst empty
    exact ⟨[], by simp [inner], .inr rfl, fun _ => rfl⟩
  · simp only [Bool.false_eq_true, empty, or_self, ↓reduceIte]
    split
    · rename_i ends
      obtain ⟨start, same⟩ := List.getLast?_eq_some_iff.mp ends
      refine ⟨Text.splitOn '/' start, ?_, .inr ?_, ?_⟩
      · rw [String.toList_append, same, List.append_assoc, List.singleton_append,
          Text.splitOn_append, inner]
      · rw [same, Text.splitOn_append]
        rfl
      · exact fun none => absurd none (Text.splitOn_ne_nil _ _)
    · refine ⟨Text.splitOn '/' base.toList, ?_, .inl rfl, ?_⟩
      · have slash : "/".toList = ['/'] := rfl
        rw [String.toList_append, String.toList_append, slash, List.append_assoc,
          List.singleton_append, Text.splitOn_append, inner]
      · exact fun none => absurd none (Text.splitOn_ne_nil _ _)

theorem isAbsolute_below (base : FilePath) (some : names ≠ [])
    (valid : ∀ name ∈ names, IsFileName name) :
    isAbsolute (below base names) = isAbsolute base := by
  have relative := isAbsolute_joined some valid
  unfold below join
  rw [relative]
  by_cases empty : base = ""
  · subst empty
    simp only [or_true, ↓reduceIte, relative]
    rfl
  · have nonempty : base.toList ≠ [] := by simpa using empty
    obtain ⟨c, rest, same⟩ := List.exists_cons_of_ne_nil nonempty
    simp only [Bool.false_eq_true, empty, or_self, ↓reduceIte]
    split <;> simp [isAbsolute, same]

/-- A path below another has its components and then the names. -/
theorem components_below (base : FilePath) (some : names ≠ [])
    (valid : ∀ name ∈ names, IsFileName name) :
    components (below base names) = components base ++ names.map .name := by
  obtain ⟨front, split, outer, first⟩ := splitOn_below base some valid
  have inner : componentsOf (Text.splitOn '/' base.toList) = componentsOf front := by
    rcases outer with same | same
    · rw [same]
    · rw [same, componentsOf_append]
      exact List.append_nil _
  have heads : (front ++ names.map String.toList).head? = Option.some ['.'] ↔
      (Text.splitOn '/' base.toList).head? = Option.some ['.'] := by
    cases front with
    | nil =>
      obtain ⟨name, rest, rfl⟩ := List.exists_cons_of_ne_nil some
      rw [first rfl]
      have name_ne_dot := (valid name List.mem_cons_self).toList_ne_dot
      simp [name_ne_dot, Text.splitOn]
    | cons piece pieces => rcases outer with same | same <;> simp [same]
  unfold components
  simp only [split, inner, heads, isAbsolute_below base some valid, componentsOf_append,
    componentsOf_names valid]
  split
  · rfl
  · split <;> rfl

theorem below_ne_empty (base : FilePath) (some : names ≠ [])
    (valid : ∀ name ∈ names, IsFileName name) : below base names ≠ "" := by
  intro empty
  have inner := components_below base some valid
  have nothing : components "" = [] := rfl
  rw [empty, nothing] at inner
  simp [some] at inner

/-- The way to a path below another starts with the way to the other. -/
theorem steps_below (base : FilePath) (some : names ≠ [])
    (valid : ∀ name ∈ names, IsFileName name) :
    steps (below base names) = way base ++ names.map .name := by
  obtain ⟨front, split, outer, -⟩ := splitOn_below base some valid
  have inner : steps.stepsOf (Text.splitOn '/' base.toList) = steps.stepsOf front := by
    rcases outer with same | same
    · rw [same]
    · rw [same, steps.stepsOf_append]
      exact List.append_nil _
  have noSlash : (below base names).toList.getLast? ≠ Option.some '/' := by
    intro ends
    obtain ⟨start, same⟩ := List.getLast?_eq_some_iff.mp ends
    rw [same, Text.splitOn_append] at split
    have last := congrArg List.getLast? split
    rw [show Text.splitOn '/' [] = [[]] from rfl, List.getLast?_append,
      List.getLast?_append] at last
    cases final : (names.map String.toList).getLast? with
    | none => exact some (by simpa using final)
    | some piece =>
      rw [final] at last
      cases last
      obtain ⟨name, given, nothing⟩ := List.mem_map.mp (List.mem_of_getLast? final)
      exact (valid name given).toList_ne_nil nothing
  rw [steps_eq, if_neg noSlash, List.append_nil, way, way, isAbsolute_below base some valid, split,
    inner, steps.stepsOf_append, steps.stepsOf_names valid]
  split <;> rfl

end

end FilePath

end PythonDocs
