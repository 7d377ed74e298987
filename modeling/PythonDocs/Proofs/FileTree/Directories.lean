import Mathlib.Data.List.TakeWhile
import PythonDocs.Proofs.FileTree.Changes

namespace PythonDocs

namespace FilePath

theorem stepsOf_slashes {slashes : List Char} (only : ∀ c ∈ slashes, c = '/') :
    steps.stepsOf (Text.splitOn '/' slashes) = [] := by
  induction slashes with
  | nil => rfl
  | cons c rest ih =>
    rw [only c List.mem_cons_self, Text.splitOn_cons_separator]
    simpa [steps.stepsOf] using ih fun other member => only other (List.mem_cons_of_mem _ member)

theorem stepsOf_append_slashes (text : List Char) {slashes : List Char}
    (only : ∀ c ∈ slashes, c = '/') :
    steps.stepsOf (Text.splitOn '/' (text ++ slashes)) =
      steps.stepsOf (Text.splitOn '/' text) := by
  cases slashes with
  | nil => rw [List.append_nil]
  | cons c rest =>
    rw [only c List.mem_cons_self, Text.splitOn_append, steps.stepsOf_append,
      stepsOf_slashes fun other member => only other (List.mem_cons_of_mem _ member),
      List.append_nil]

theorem dropSlashes_parts (path : FilePath) :
    FileTree.dropSlashes path = path ∨ ∃ kept slashes, kept ≠ [] ∧
      FileTree.dropSlashes path = .ofList kept ∧ path.toList = kept ++ slashes ∧
      ∀ c ∈ slashes, c = '/' := by
  unfold FileTree.dropSlashes
  split
  · exact .inl rfl
  · rename_i kept some
    refine .inr ⟨_, (path.toList.reverse.takeWhile (· = '/')).reverse, some, rfl, ?_, ?_⟩
    · rw [← List.reverse_append, List.takeWhile_append_dropWhile, List.reverse_reverse]
    · intro c member
      simpa using List.mem_takeWhile_imp (List.mem_reverse.mp member)

theorem way_dropSlashes (path : FilePath) : way (FileTree.dropSlashes path) = way path := by
  rcases dropSlashes_parts path with same | ⟨kept, slashes, some, same, parts, only⟩
  · rw [same]
  · have absolute : isAbsolute (.ofList kept) = isAbsolute path := by
      obtain ⟨c, rest, rfl⟩ := List.exists_cons_of_ne_nil some
      rw [isAbsolute, isAbsolute, parts, String.toList_ofList]
      rfl
    rw [same, way, way, absolute, String.toList_ofList, parts, stepsOf_append_slashes kept only]

end FilePath

namespace FileTree

def Reaches (tree : FileTree) (steps : List Component) : Prop :=
  ∃ place, tree.Leads tree.here steps place ∧ tree.node? place = some .directory

variable {tree later : FileTree} {steps : List Component}

theorem makeDirectory_cases (made : tree.makeDirectory steps = .ok later) :
    ∃ front name place, steps = front ++ [.name name] ∧
      tree.follow false 40 tree.here front = .ok place ∧
      tree.node? place = some .directory ∧ tree.node? (place ++ [name]) = none ∧
      later = tree.put (place ++ [name]) .directory := by
  unfold makeDirectory at made
  split at made
  · rename_i name ends
    obtain ⟨front, rfl⟩ := List.getLast?_eq_some_iff.mp ends
    rw [List.dropLast_concat] at made
    cases parent : tree.follow false 40 tree.here front with
    | error problem => simp [parent, bind, Except.bind] at made
    | ok place =>
      simp only [parent, bind, Except.bind] at made
      split at made
      · rename_i inside missing
        cases made
        exact ⟨front, name, place, rfl, parent, inside, missing, rfl⟩
      · cases made
      · cases made
  · cases parent : tree.follow false 40 tree.here steps <;>
      simp [parent, bind, Except.bind] at made

theorem put_directory_grows {place : Place} (free : tree.node? place = none) :
    tree.Grows (tree.put place .directory) := by
  have nonempty : place ≠ [] := by
    rintro rfl
    cases free
  refine ⟨rfl, fun other node found => ?_, fun other node found => ?_⟩
  · have apart : other ≠ place := by
      rintro rfl
      cases free.symm.trans found
    rw [node?_put_other tree apart, found]
  · by_cases same : other = place
    · subst same
      rw [node?_put_self tree nonempty] at found
      exact .inr (Option.some.inj found).symm
    · exact .inl (node?_put_other tree same _ ▸ found)

theorem makeDirectory_grows (made : tree.makeDirectory steps = .ok later) : tree.Grows later := by
  obtain ⟨front, name, place, rfl, -, inside, free, rfl⟩ := makeDirectory_cases made
  exact put_directory_grows free

theorem makeDirectory_reaches (noLinks : tree.HasNoLinks)
    (made : tree.makeDirectory steps = .ok later) : later.Reaches steps := by
  obtain ⟨front, name, place, rfl, parent, inside, free, rfl⟩ := makeDirectory_cases made
  have leads := (follow_eq_ok_iff noLinks).mp parent
  have grows := put_directory_grows free
  have new : place ++ [name] ≠ [] := by simp
  refine ⟨place ++ [name], ?_, node?_put_self tree new _⟩
  apply (leads.keep grows.keeps).append
  refine .step (grows.kept _ _ inside) ?_ (.done _)
  intro other given
  cases given
  simp [node?_put_self tree new]

theorem hasDirectory_iff (noLinks : tree.HasNoLinks) :
    tree.hasDirectory steps = true ↔ tree.Reaches steps := by
  unfold hasDirectory
  constructor
  · intro present
    split at present
    · rename_i place led
      exact ⟨place, (follow_eq_ok_iff noLinks).mp led, by simpa using present⟩
    · cases present
  · intro reaches
    obtain ⟨place, leads, inside⟩ := reaches
    rw [(follow_eq_ok_iff noLinks).mpr leads]
    simpa using inside

/-- A directory is made, or it is there, perhaps behind those around it. -/
theorem ensureDirectory_cases {makeParents : Unit → Except OsError FileTree}
    (made : tree.ensureDirectory steps makeParents = .ok later) :
    ∃ middle, (middle = tree ∨ makeParents () = .ok middle) ∧
      (middle.makeDirectory steps = .ok later ∨
        middle.hasDirectory steps = true ∧ later = middle) := by
  unfold ensureDirectory at made
  split at made
  · rename_i first
    cases made
    exact ⟨tree, .inl rfl, .inl first⟩
  · cases around : makeParents () with
    | error problem => simp [around, bind, Except.bind] at made
    | ok middle =>
      refine ⟨middle, .inr rfl, ?_⟩
      simp only [around, bind, Except.bind] at made
      split at made
      · rename_i second
        cases made
        exact .inl second
      · split at made
        · rename_i present
          cases made
          exact .inr ⟨present, rfl⟩
        · cases made
  · split at made
    · rename_i present
      cases made
      exact ⟨tree, .inl rfl, .inr ⟨present, rfl⟩⟩
    · cases made

theorem ensureDirectory_grows {makeParents : Unit → Except OsError FileTree}
    (parents : ∀ middle, makeParents () = .ok middle → tree.Grows middle)
    (made : tree.ensureDirectory steps makeParents = .ok later) : tree.Grows later := by
  obtain ⟨middle, around, ends⟩ := ensureDirectory_cases made
  have grows : tree.Grows middle := by
    rcases around with rfl | around
    · exact .refl _
    · exact parents middle around
  rcases ends with second | ⟨-, rfl⟩
  · exact grows.trans (makeDirectory_grows second)
  · exact grows

theorem ensureDirectory_reaches (noLinks : tree.HasNoLinks)
    {makeParents : Unit → Except OsError FileTree}
    (parents : ∀ middle, makeParents () = .ok middle → tree.Grows middle)
    (made : tree.ensureDirectory steps makeParents = .ok later) : later.Reaches steps := by
  obtain ⟨middle, around, ends⟩ := ensureDirectory_cases made
  have plain : middle.HasNoLinks := by
    rcases around with rfl | around
    · exact noLinks
    · exact (parents middle around).noLinks noLinks
  rcases ends with second | ⟨present, rfl⟩
  · exact makeDirectory_reaches plain second
  · exact (hasDirectory_iff plain).mp present

theorem ensureReversed_grows (components : List Component)
    (made : tree.ensureReversed components = .ok later) : tree.Grows later := by
  induction components generalizing later with
  | nil =>
    cases made
    exact .refl tree
  | cons last before ih => exact ensureDirectory_grows (fun middle around => ih around) made

theorem createDirectories_grows {path : FilePath} (made : tree.createDirectories path = .ok later) :
    tree.Grows later := by
  unfold createDirectories at made
  split at made
  · cases made
    exact .refl tree
  · exact ensureDirectory_grows (fun middle around => ensureReversed_grows _ around) made

theorem createDirectories_reaches (noLinks : tree.HasNoLinks)
    (here : tree.node? tree.here = some .directory) {path : FilePath}
    (made : tree.createDirectories path = .ok later) : later.Reaches (FilePath.way path) := by
  unfold createDirectories at made
  split at made
  · rename_i empty
    cases made
    subst empty
    exact ⟨tree.here, .done _, here⟩
  · obtain ⟨place, leads, inside⟩ := ensureDirectory_reaches noLinks
      (fun middle around => ensureReversed_grows _ around) made
    exact ⟨place, FilePath.way_dropSlashes path ▸ leads.way, inside⟩

theorem makeDirectory_reached (noLinks : tree.HasNoLinks) (reaches : tree.Reaches steps) :
    tree.makeDirectory steps = .error .exists := by
  obtain ⟨place, leads, inside⟩ := reaches
  unfold makeDirectory
  split
  · rename_i name ends
    obtain ⟨front, rfl⟩ := List.getLast?_eq_some_iff.mp ends
    obtain ⟨parent, first, last⟩ := leads.split
    cases last with
    | step directory present further =>
      cases further
      obtain ⟨node, found⟩ := Option.ne_none_iff_exists'.mp (present name rfl)
      rw [List.dropLast_concat, (follow_eq_ok_iff noLinks).mpr first]
      simp [bind, Except.bind, directory, found]
  · rw [(follow_eq_ok_iff noLinks).mpr leads]
    rfl

theorem ensureDirectory_reached (noLinks : tree.HasNoLinks) (reaches : tree.Reaches steps)
    (makeParents : Unit → Except OsError FileTree) :
    tree.ensureDirectory steps makeParents = .ok tree := by
  rw [ensureDirectory, makeDirectory_reached noLinks reaches]
  simp only [(hasDirectory_iff noLinks).mpr reaches, ↓reduceIte]

theorem Reaches.toSteps {path : FilePath} (reaches : tree.Reaches (FilePath.way path)) :
    tree.Reaches (FilePath.steps path) := by
  rw [FilePath.steps_eq]
  split
  · obtain ⟨place, leads, inside⟩ := reaches
    exact ⟨place, leads.append (.step inside nofun (.done place)), inside⟩
  · rwa [List.append_nil]

theorem createDirectories_reached (noLinks : tree.HasNoLinks) {path : FilePath}
    (reaches : tree.Reaches (FilePath.way path)) : tree.createDirectories path = .ok tree := by
  unfold createDirectories
  split
  · rfl
  · have same : tree.Reaches (FilePath.way (dropSlashes path)) :=
      (FilePath.way_dropSlashes path).symm ▸ reaches
    exact ensureDirectory_reached noLinks same.toSteps _

end FileTree

end PythonDocs
