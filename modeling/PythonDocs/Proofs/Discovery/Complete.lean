import Mathlib.Data.List.Perm.Subperm
import PythonDocs.Proofs.Discovery.Files
import PythonDocs.Proofs.FileTree.Changes

namespace PythonDocs.FileTree

open FilePath (IsEntry below)

variable {tree : FileTree} {place last other : Place} {names : List String}

theorem Leads.unique {steps : List Component} (first : tree.Leads place steps last)
    (second : tree.Leads place steps other) : last = other := by
  induction first with
  | done =>
    cases second
    rfl
  | step _ _ _ ih =>
    cases second with
    | step _ _ further => exact ih further

theorem Leads.eq_append (leads : tree.Leads place (names.map .name) last) :
    last = place ++ names := by
  induction names generalizing place with
  | nil =>
    cases leads
    exact (List.append_nil _).symm
  | cons name rest ih =>
    cases leads with
    | step _ _ further => rw [ih further, Place.step, List.append_assoc, List.singleton_append]

theorem mem_nodes_of_node? {node : Node} (some : place ≠ [])
    (found : tree.node? place = .some node) : (place, node) ∈ tree.nodes := by
  rw [node?, if_neg some] at found
  obtain ⟨before, behind, split, -⟩ := List.lookup_eq_some_iff.mp found
  rw [split]
  exact List.mem_append_right _ List.mem_cons_self

theorem mem_children_of_node? {name : String} {node : Node}
    (found : tree.node? (place ++ [name]) = some node) : (name, node) ∈ tree.children place :=
  mem_children.mpr (mem_nodes_of_node? (by simp) found)

theorem LeadsToFile.cases (file : tree.LeadsToFile place names) :
    ∃ name rest, names = name :: rest ∧
      ((∃ content, tree.node? (place ++ [name]) = some (.file content) ∧ rest = []) ∨
        tree.node? (place ++ [name]) = some .directory ∧
          tree.LeadsToFile (place ++ [name]) rest) := by
  obtain ⟨⟨some, valid⟩, leads, content, found⟩ := file
  obtain ⟨name, rest, rfl⟩ := List.exists_cons_of_ne_nil some
  refine ⟨name, rest, rfl, ?_⟩
  rw [List.forall_mem_cons] at valid
  rw [List.append_cons] at leads found
  cases leads with
  | step inside present further =>
    cases rest with
    | nil => exact .inl ⟨content, by simpa using found, rfl⟩
    | cons next rest =>
      refine .inr ⟨?_, ⟨List.cons_ne_nil _ _, valid.2⟩, further, content, found⟩
      cases further with
      | step inside => exact inside

theorem mem_filesBelow_of_leads (plain : tree.IsPlain) {fuel : Nat} {around : List Place}
    (file : tree.LeadsToFile place names) (deep : names.length ≤ fuel) :
    names ∈ tree.filesBelow fuel around place := by
  induction fuel generalizing around place names with
  | zero => exact absurd (List.length_eq_zero_iff.mp (Nat.le_zero.mp deep)) file.entry.some
  | succ fuel ih =>
    obtain ⟨name, rest, rfl, ⟨content, found, rfl⟩ | ⟨subdirectory, further⟩⟩ := file.cases
    · exact (mem_filesBelow_succ plain.noLinkChild).mpr
        ⟨name, [], rfl, .inl ⟨content, mem_children_of_node? found, rfl⟩⟩
    · exact (mem_filesBelow_succ plain.noLinkChild).mpr ⟨name, rest, rfl,
        .inr ⟨mem_children_of_node? subdirectory, ih further (Nat.le_of_succ_le_succ deep)⟩⟩

theorem LeadsToFile.mem_nodes (file : tree.LeadsToFile place names) {count : Nat}
    (less : count < names.length) :
    place ++ names.take (count + 1) ∈ tree.nodes.map Prod.fst := by
  induction count generalizing place names with
  | zero =>
    obtain ⟨name, rest, rfl, ⟨_, found, _⟩ | ⟨found, _⟩⟩ := file.cases
    · exact List.mem_map_of_mem (mem_nodes_of_node? (by simp) found)
    · exact List.mem_map_of_mem (mem_nodes_of_node? (by simp) found)
  | succ count ih =>
    obtain ⟨name, rest, rfl, ⟨_, _, rfl⟩ | ⟨_, further⟩⟩ := file.cases
    · simp at less
    · rw [List.take_succ_cons, List.append_cons]
      exact ih further (Nat.lt_of_succ_lt_succ less)

theorem LeadsToFile.length_le (file : tree.LeadsToFile place names) :
    names.length ≤ tree.nodes.length := by
  let places := (List.range names.length).map fun count => place ++ names.take (count + 1)
  have distinct : places.Nodup := by
    refine List.nodup_range.map_on fun first inFirst second inSecond same => ?_
    have lengths := congrArg List.length (List.append_cancel_left same)
    rw [List.mem_range] at inFirst inSecond
    rw [List.length_take, List.length_take] at lengths
    omega
  have nodes : places ⊆ tree.nodes.map Prod.fst := by
    intro between member
    obtain ⟨count, less, rfl⟩ := List.mem_map.mp member
    exact file.mem_nodes (List.mem_range.mp less)
  simpa [places] using (distinct.subperm nodes).length_le

theorem mem_filesIn_iff (plain : tree.IsPlain) (inside : tree.node? place = some .directory) :
    names ∈ tree.filesIn place ↔ tree.LeadsToFile place names := by
  refine ⟨leadsToFile_of_mem plain inside, fun file => mem_filesBelow_of_leads plain file ?_⟩
  have short := file.length_le
  calc names.length ≤ tree.nodes.length + 1 := Nat.le_succ_of_le short
    _ ≤ tree.walkDepth := Nat.le_mul_of_pos_right _ (Nat.succ_pos _)

theorem leadsToFile_of_read (noLinks : tree.HasNoLinks) {root : FilePath}
    (leads : tree.Leads tree.here (FilePath.way root) place) (entry : IsEntry names)
    {content : Text.Bytes} (read : tree.read (below root names) = .ok content) :
    tree.LeadsToFile place names := by
  obtain ⟨found, resolved, file⟩ := resolve_of_read read
  obtain ⟨-, whole⟩ := leads_of_resolve noLinks resolved
  rw [FilePath.steps_below root entry.some entry.valid] at whole
  obtain ⟨middle, first, second⟩ := whole.split
  obtain rfl := leads.unique first
  obtain rfl := second.eq_append
  exact ⟨entry, second, content, file⟩

theorem mem_discover_iff (plain : tree.IsPlain) {selection : Selection} {root : FilePath}
    (directory : tree.isDirectory root = true) (entry : IsEntry names) {content : Text.Bytes}
    (read : tree.read (below root names) = .ok content) {files : List FilePath}
    (discovered : tree.discover selection root = .ok files) :
    below root names ∈ files ↔
      isSourceName names = true ∧ selection.wants (Text.join "/" names) = true := by
  obtain ⟨place, leads, inside, found⟩ := discover_directory plain.noLinks selection directory
  obtain rfl := Except.ok.inj (discovered.symm.trans found)
  have listed : names ∈ tree.filesIn place :=
    (mem_filesIn_iff plain inside).mpr (leadsToFile_of_read plain.noLinks leads entry read)
  rw [List.mem_map]
  constructor
  · intro given
    obtain ⟨others, member, same⟩ := given
    obtain ⟨walked, selected⟩ := mem_sourcesBelow.mp member
    have valid := ((mem_filesIn_iff plain inside).mp walked).entry
    exact FilePath.below_inj root valid entry same ▸ selected
  · intro selected
    exact ⟨names, mem_sourcesBelow.mpr ⟨listed, selected⟩, rfl⟩

end PythonDocs.FileTree
