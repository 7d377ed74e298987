import PythonDocs.Proofs.Discovery.Complete
import PythonDocs.Proofs.FileTree.Documents

namespace PythonDocs.FileTree

variable {tree other : FileTree} {place : Place}

theorem node?_eq_some_iff (plain : tree.IsPlain) (some : place ≠ []) {node : Node} :
    tree.node? place = .some node ↔ (place, node) ∈ tree.nodes := by
  refine ⟨mem_nodes_of_node? some, fun member => ?_⟩
  rw [node?, if_neg some]
  exact lookup_of_mem plain.distinct member

structure IsReordered (tree other : FileTree) : Prop where
  here : other.here = tree.here
  nodes : other.nodes.Perm tree.nodes

namespace IsReordered

theorem symm (reordered : tree.IsReordered other) : other.IsReordered tree :=
  ⟨reordered.here.symm, reordered.nodes.symm⟩

variable (reordered : tree.IsReordered other) (plain : tree.IsPlain)

include reordered plain

theorem distinct : (other.nodes.map Prod.fst).Nodup :=
  (reordered.nodes.map Prod.fst).nodup_iff.mpr plain.distinct

theorem node?_eq (place : Place) : other.node? place = tree.node? place := by
  by_cases top : place = []
  · rw [node?, node?, if_pos top, if_pos top]
  · refine Option.ext fun node => ?_
    rw [node?_eq_some_iff plain top, ← reordered.nodes.mem_iff, node?, if_neg top]
    constructor
    · exact fun found => mem_nodes_of_node? top (by rwa [node?, if_neg top])
    · exact lookup_of_mem (reordered.distinct plain)

theorem isPlain : other.IsPlain where
  noLinks place target := reordered.node?_eq plain place ▸ plain.noLinks place target
  distinct := reordered.distinct plain
  named entry member := plain.named entry (reordered.nodes.mem_iff.mp member)
  here := by rw [reordered.node?_eq plain, reordered.here, plain.here]

theorem keeps : tree.Keeps other where
  here := reordered.here
  directory place inside := (reordered.node?_eq plain place).trans inside
  present place present := reordered.node?_eq plain place ▸ present

theorem isFile_of_isFile {path : FilePath} (file : tree.isFile path = true) :
    other.isFile path = true := by
  obtain ⟨place, content, resolved, found⟩ := isFile_iff.mp file
  have plainToo := reordered.isPlain plain
  refine isFile_iff.mpr ⟨place, content, ?_, (reordered.node?_eq plain place).trans found⟩
  exact (reordered.keeps plain).resolve plain.noLinks plainToo.noLinks resolved

theorem isDirectory_of_isDirectory {path : FilePath} (directory : tree.isDirectory path = true) :
    other.isDirectory path = true :=
  (reordered.keeps plain).isDirectory plain.noLinks (reordered.isPlain plain).noLinks directory

theorem isFile_eq (path : FilePath) : other.isFile path = tree.isFile path :=
  Bool.eq_iff_iff.mpr ⟨reordered.symm.isFile_of_isFile (reordered.isPlain plain),
    reordered.isFile_of_isFile plain⟩

end IsReordered

end PythonDocs.FileTree
