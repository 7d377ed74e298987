import PythonDocs.Proofs.Discovery.Complete
import PythonDocs.Proofs.FileTree.Documents

namespace PythonDocs.FileTree

open FilePath (IsEntry below)
open Text (Bytes)

structure IsWhole (tree : FileTree) : Prop extends tree.IsPlain where
  around : ∀ entry ∈ tree.nodes, tree.node? entry.1.dropLast = some .directory

section

variable {tree made later : FileTree} {place inner : Place} {names : List String}

theorem IsWhole.inside (whole : tree.IsWhole) (some : names ≠ [])
    (present : tree.node? (place ++ names) ≠ none) : tree.node? place = .some .directory := by
  induction names using List.reverseRecOn with
  | nil => exact absurd rfl some
  | append_singleton front last ih =>
    rw [← List.append_assoc] at present
    obtain ⟨node, found⟩ := Option.ne_none_iff_exists'.mp present
    have around := whole.around _ (mem_nodes_of_node? (by simp) found)
    rw [List.dropLast_concat] at around
    by_cases empty : front = []
    · rwa [empty, List.append_nil] at around
    · exact ih empty (by simp [around])

theorem IsWhole.leads (whole : tree.IsWhole) (present : tree.node? (place ++ names) ≠ none) :
    tree.Leads place (names.map .name) (place ++ names) := by
  induction names generalizing place with
  | nil =>
    rw [List.append_nil]
    exact .done place
  | cons name rest ih =>
    have same : place ++ name :: rest = place ++ [name] ++ rest := List.append_cons ..
    refine .step (whole.inside (List.cons_ne_nil _ _) present) ?_ ?_
    · intro other given missing
      cases given
      rw [same] at present
      by_cases last : rest = []
      · rw [last, List.append_nil] at present
        exact present missing
      · cases missing.symm.trans (whole.inside last present)
    · rw [same] at present ⊢
      exact ih present

theorem leadsToFile_written (whole : tree.IsWhole) (grows : tree.Grows made)
    (written : made.Written place later) (source : isSourceName names = true) :
    later.LeadsToFile inner names ↔ tree.LeadsToFile inner names := by
  constructor
  · intro file
    obtain ⟨content, found⟩ := file.file
    rw [written.same _ (source_ne_documentPlace source file.entry.some)] at found
    rcases grows.added _ _ found with before | new
    · exact ⟨file.entry, whole.leads (by simp [before]), content, before⟩
    · cases new
  · intro file
    obtain ⟨content, found⟩ := file.file
    refine ⟨file.entry, file.leads.keep (grows.keeps.trans written.keeps), content, ?_⟩
    rw [written.same _ (source_ne_documentPlace source file.entry.some)]
    exact grows.kept _ _ found

theorem sourcesBelow_written (whole : tree.IsWhole) (plain : later.IsPlain)
    (grows : tree.Grows made) (written : made.Written place later) (selection : Selection)
    (inside : tree.node? inner = some .directory) :
    later.sourcesBelow selection inner = tree.sourcesBelow selection inner := by
  have still := (grows.keeps.trans written.keeps).directory _ inside
  have sorted := sourcesBelow_pairwise whole.distinct selection inner
  refine (sourcesBelow_pairwise plain.distinct selection inner).eq_of_mem_iff sorted
    fun names => ?_
  rw [mem_sourcesBelow, mem_sourcesBelow, mem_filesIn_iff plain still,
    mem_filesIn_iff whole.toIsPlain inside]
  exact and_congr_left fun selected => leadsToFile_written whole grows written selected.1

theorem discover_written (whole : tree.IsWhole) (plain : later.IsPlain) (grows : tree.Grows made)
    (written : made.Written place later) (selection : Selection) {root : FilePath}
    (directory : tree.isDirectory root = true) :
    later.discover selection root = tree.discover selection root := by
  have keeps := grows.keeps.trans written.keeps
  obtain ⟨inner, leads, inside, found⟩ := discover_directory whole.noLinks selection directory
  obtain ⟨other, way, -, same⟩ := discover_directory plain.noLinks selection
    (keeps.isDirectory whole.noLinks plain.noLinks directory)
  obtain rfl := (keeps.here ▸ leads.keep keeps).unique way
  rw [found, same, sourcesBelow_written whole plain grows written selection inside]

end

section

variable {tree later : FileTree} {place : Place} {steps : List Component}

theorem IsPlain.isFileName (plain : tree.IsPlain) (present : tree.node? place ≠ none) :
    ∀ name ∈ place, IsFileName name := by
  intro name member
  obtain ⟨node, found⟩ := Option.ne_none_iff_exists'.mp present
  exact plain.named _ (mem_nodes_of_node? (List.ne_nil_of_mem member) found) name member

theorem IsPlain.put (plain : tree.IsPlain) (valid : ∀ name ∈ place, IsFileName name)
    (free : tree.node? place ≠ some .directory) {node : Node}
    (noLink : ∀ target, node ≠ .link target) : (tree.put place node).IsPlain := by
  refine ⟨put_noLinks plain.noLinks noLink, ?_, ?_, ?_⟩
  · have others := plain.distinct.sublist
      ((List.filter_sublist (p := fun entry => entry.1 ≠ place)).map Prod.fst)
    refine List.nodup_cons.mpr ⟨fun member => ?_, others⟩
    obtain ⟨entry, inside, same⟩ := List.mem_map.mp member
    simpa [same] using (List.mem_filter.mp inside).2
  · intro entry member
    rcases List.mem_cons.mp member with rfl | other
    · exact valid
    · exact plain.named entry (List.mem_filter.mp other).1
  · have apart : tree.here ≠ place := by
      intro same
      exact free (same ▸ plain.here)
    exact (node?_put_other tree apart node).trans plain.here

theorem IsPlain.putAll {files : List (Place × Bytes)} (plain : tree.IsPlain)
    (valid : ∀ file ∈ files, ∀ name ∈ file.1, IsFileName name)
    (free : ∀ file ∈ files, tree.node? file.1 ≠ some .directory) :
    (tree.putAll files).IsPlain := by
  induction files generalizing tree with
  | nil => exact plain
  | cons file rest ih =>
    rw [List.forall_mem_cons] at valid free
    refine ih (plain.put valid.1 free.1 nofun) valid.2 fun other member inside => ?_
    by_cases same : other.1 = file.1
    · have nonempty : file.1 ≠ [] := by
        intro empty
        exact free.1 (by rw [empty]; rfl)
      rw [same, node?_put_self tree nonempty] at inside
      cases inside
    · rw [node?_put_other tree same] at inside
      exact free.2 other member inside

theorem makeDirectory_plain (plain : tree.IsPlain)
    (valid : ∀ name, .name name ∈ steps → IsFileName name)
    (made : tree.makeDirectory steps = .ok later) : later.IsPlain := by
  obtain ⟨front, name, place, rfl, -, inside, free, rfl⟩ := makeDirectory_cases made
  refine plain.put ?_ (by simp [free]) nofun
  intro other member
  rcases List.mem_append.mp member with outer | last
  · exact plain.isFileName (by simp [inside]) other outer
  · rw [List.mem_singleton.mp last]
    exact valid name (by simp)

theorem ensureDirectory_plain (plain : tree.IsPlain)
    (valid : ∀ name, .name name ∈ steps → IsFileName name)
    {makeParents : Unit → Except OsError FileTree}
    (parents : ∀ middle, makeParents () = .ok middle → middle.IsPlain)
    (made : tree.ensureDirectory steps makeParents = .ok later) : later.IsPlain := by
  obtain ⟨middle, around, ends⟩ := ensureDirectory_cases made
  have between : middle.IsPlain := by
    rcases around with rfl | around
    · exact plain
    · exact parents middle around
  rcases ends with second | ⟨-, rfl⟩
  · exact makeDirectory_plain between valid second
  · exact between

theorem ensureReversed_plain (plain : tree.IsPlain) {components : List Component}
    (valid : ∀ name, .name name ∈ components → IsFileName name)
    (made : tree.ensureReversed components = .ok later) : later.IsPlain := by
  induction components generalizing later with
  | nil =>
    cases made
    exact plain
  | cons last before ih =>
    refine ensureDirectory_plain plain (fun name member => valid name ?_) ?_ made
    · exact List.mem_reverse.mp member
    · exact fun middle around =>
        ih (fun name member => valid name (List.mem_cons_of_mem _ member)) around

theorem createDirectories_plain (plain : tree.IsPlain) {path : FilePath}
    (made : tree.createDirectories path = .ok later) : later.IsPlain := by
  unfold createDirectories at made
  split at made
  · cases made
    exact plain
  · refine ensureDirectory_plain plain (fun _ => FilePath.isFileName_of_mem_steps) ?_ made
    intro middle around
    refine ensureReversed_plain plain (fun name member => ?_) around
    exact FilePath.isFileName_of_mem_components
      ((List.dropLast_sublist _).subset (List.mem_reverse.mp member))

end

end PythonDocs.FileTree
