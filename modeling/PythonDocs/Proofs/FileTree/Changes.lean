import Mathlib.Data.List.Induction
import PythonDocs.Proofs.FileTree.Plain
import PythonDocs.Source

namespace PythonDocs.FileTree

open Text (Bytes)

structure Keeps (tree later : FileTree) : Prop where
  here : later.here = tree.here
  directory : ∀ place, tree.node? place = some .directory → later.node? place = some .directory
  present : ∀ place, tree.node? place ≠ none → later.node? place ≠ none

/-- A later tree that has new directories at most. -/
structure Grows (tree later : FileTree) : Prop where
  here : later.here = tree.here
  kept : ∀ place node, tree.node? place = some node → later.node? place = some node
  added : ∀ place node, later.node? place = some node →
    tree.node? place = some node ∨ node = .directory

section

variable {tree middle later : FileTree} {place other last : Place}

theorem Keeps.refl (tree : FileTree) : tree.Keeps tree := ⟨rfl, fun _ => id, fun _ => id⟩

theorem Keeps.trans (first : tree.Keeps middle) (second : middle.Keeps later) :
    tree.Keeps later :=
  ⟨second.here.trans first.here, fun _ inside => second.directory _ (first.directory _ inside),
    fun _ present => second.present _ (first.present _ present)⟩

theorem Leads.keep {steps : List Component} (keeps : tree.Keeps later)
    (leads : tree.Leads place steps last) : later.Leads place steps last := by
  induction leads with
  | done => exact .done _
  | step inside present _ ih =>
    exact .step (keeps.directory _ inside) (fun name same => keeps.present _ (present name same)) ih

theorem Grows.refl (tree : FileTree) : tree.Grows tree :=
  ⟨rfl, fun _ _ => id, fun _ _ => .inl⟩

theorem Grows.trans (first : tree.Grows middle) (second : middle.Grows later) :
    tree.Grows later := by
  refine ⟨second.here.trans first.here, fun place node found => ?_, fun place node found => ?_⟩
  · exact second.kept _ _ (first.kept _ _ found)
  · rcases second.added place node found with before | new
    · exact first.added place node before
    · exact .inr new

theorem Grows.keeps (grows : tree.Grows later) : tree.Keeps later := by
  refine ⟨grows.here, fun place inside => grows.kept _ _ inside, fun place present missing => ?_⟩
  obtain ⟨node, found⟩ := Option.ne_none_iff_exists'.mp present
  simp [grows.kept _ _ found] at missing

theorem Grows.noLinks (grows : tree.Grows later) (noLinks : tree.HasNoLinks) :
    later.HasNoLinks := by
  intro place target found
  rcases grows.added _ _ found with before | new
  · exact noLinks _ _ before
  · cases new

/-- Steps that lead to a place, over links too, lead there when directories are added. -/
theorem Grows.take (grows : tree.Grows later)
    {jump jumpToo : Place → List Component → Except OsError Place}
    (jumps : ∀ place steps last, jump place steps = .ok last → jumpToo place steps = .ok last)
    {steps : List Component} (taken : tree.take false jump place steps = .ok last) :
    later.take false jumpToo place steps = .ok last := by
  induction steps generalizing place with
  | nil => exact taken
  | cons step rest ih =>
    cases inside : tree.node? place with
    | none => simp [FileTree.take, inside] at taken
    | some node =>
      cases node with
      | file content => simp [FileTree.take, inside] at taken
      | link target => simp [FileTree.take, inside] at taken
      | directory =>
        have kept := grows.kept _ _ inside
        cases step with
        | root =>
          simp only [FileTree.take, inside, kept] at taken ⊢
          exact ih taken
        | here =>
          simp only [FileTree.take, inside, kept] at taken ⊢
          exact ih taken
        | up =>
          simp only [FileTree.take, inside, kept] at taken ⊢
          exact ih taken
        | name name =>
          simp only [FileTree.take, inside, kept] at taken ⊢
          cases found : tree.node? (place ++ [name]) with
          | none => simp [found] at taken
          | some node =>
            simp only [found, grows.kept _ _ found] at taken ⊢
            cases node with
            | link target => exact jumps _ _ _ taken
            | file content => exact ih taken
            | directory => exact ih taken

theorem Grows.follow (grows : tree.Grows later) {links : Nat} {steps : List Component}
    (followed : tree.follow false links place steps = .ok last) :
    later.follow false links place steps = .ok last := by
  induction links generalizing place steps last with
  | zero => exact grows.take (fun _ _ _ => id) followed
  | succ links ih => exact grows.take (fun _ _ _ => ih) followed

theorem Grows.resolve (grows : tree.Grows later) {path : FilePath}
    (resolved : tree.resolve path = .ok place) : later.resolve path = .ok place := by
  unfold FileTree.resolve at resolved ⊢
  split at resolved
  · cases resolved
  · rename_i some
    rw [if_neg some, grows.here]
    exact grows.follow resolved

theorem lookup_filter_ne {value : Type} (entries : List (Place × value)) (apart : other ≠ place) :
    (entries.filter fun entry => entry.1 ≠ place).lookup other = entries.lookup other := by
  induction entries with
  | nil => rfl
  | cons entry rest ih =>
    obtain ⟨key, value⟩ := entry
    by_cases same : key = place
    · subst same
      have apart' : (other == key) = false := by simpa using apart
      rw [List.filter_cons_of_neg (by simp), ih, List.lookup_cons, apart']
    · rw [List.filter_cons_of_pos (by simpa using same), List.lookup_cons, List.lookup_cons, ih]

theorem node?_put_self (tree : FileTree) (some : place ≠ []) (node : Node) :
    (tree.put place node).node? place = .some node := by
  simp [node?, put, some]

theorem node?_put_other (tree : FileTree) (apart : other ≠ place) (node : Node) :
    (tree.put place node).node? other = tree.node? other := by
  unfold node? put
  split
  · rfl
  · have apart' : (other == place) = false := by simpa using apart
    rw [List.lookup_cons, apart']
    exact lookup_filter_ne tree.nodes apart

theorem put_noLinks (noLinks : tree.HasNoLinks) {node : Node}
    (plain : ∀ target, node ≠ .link target) : (tree.put place node).HasNoLinks := by
  intro other target found
  by_cases same : other = place
  · subst same
    by_cases top : other = []
    · simp [node?, top] at found
    · rw [node?_put_self tree top] at found
      exact plain target (Option.some.inj found)
  · rw [node?_put_other tree same] at found
    exact noLinks _ _ found

theorem put_file_keeps (tree : FileTree) (content : Bytes)
    (noDirectory : tree.node? place ≠ some .directory) :
    tree.Keeps (tree.put place (.file content)) := by
  have top : place ≠ [] := by
    intro same
    subst same
    exact noDirectory rfl
  refine ⟨rfl, fun other inside => ?_, fun other present => ?_⟩
  · have apart : other ≠ place := by
      intro same
      subst same
      exact noDirectory inside
    rw [node?_put_other tree apart, inside]
  · by_cases same : other = place
    · subst same
      simp [node?_put_self tree top]
    · rwa [node?_put_other tree same]

end

def putAll (tree : FileTree) (files : List (Place × Bytes)) : FileTree :=
  files.foldl (fun tree file => tree.put file.1 (.file file.2)) tree

/-- Files at different places stand in front of the other nodes, the last first. -/
theorem putAll_eq (tree : FileTree) {files : List (Place × Bytes)}
    (distinct : (files.map Prod.fst).Nodup) :
    tree.putAll files = { tree with
      nodes := (files.map fun file => (file.1, Node.file file.2)).reverse ++
        tree.nodes.filter fun entry => entry.1 ∉ files.map Prod.fst } := by
  induction files using List.reverseRecOn with
  | nil =>
    have all : tree.nodes.filter (fun _ => true) = tree.nodes :=
      List.filter_eq_self.mpr fun _ _ => rfl
    simp [putAll, all]
  | append_singleton front last ih =>
    rw [List.map_append, List.nodup_append] at distinct
    obtain ⟨apart, -, different⟩ := distinct
    have others : (front.map fun file => (file.1, Node.file file.2)).reverse.filter
        (fun entry => entry.1 ≠ last.1) =
          (front.map fun file => (file.1, Node.file file.2)).reverse := by
      rw [List.filter_eq_self]
      intro entry member
      obtain ⟨file, inside, rfl⟩ := List.mem_map.mp (List.mem_reverse.mp member)
      exact decide_eq_true
        (different file.1 (List.mem_map_of_mem inside) last.1 (List.mem_singleton_self _))
    have snoc : tree.putAll (front ++ [last]) = (tree.putAll front).put last.1 (.file last.2) :=
      List.foldl_append
    rw [snoc, ih apart]
    simp only [put, List.filter_append, others, List.filter_filter,
      List.map_append, List.map_cons, List.map_nil, List.reverse_append, List.reverse_cons,
      List.reverse_nil, List.nil_append, List.cons_append, List.mem_append, List.mem_singleton,
      not_or, Bool.decide_and, Bool.and_comm]

theorem putAll_putAll (tree : FileTree) {files : List (Place × Bytes)}
    (distinct : (files.map Prod.fst).Nodup) :
    (tree.putAll files).putAll files = tree.putAll files := by
  have again : (files.map fun file => (file.1, Node.file file.2)).reverse.filter
      (fun entry => entry.1 ∉ files.map Prod.fst) = [] := by
    rw [List.filter_eq_nil_iff]
    intro entry member
    obtain ⟨file, inside, rfl⟩ := List.mem_map.mp (List.mem_reverse.mp member)
    simpa using ⟨file.2, inside⟩
  rw [putAll_eq _ distinct, putAll_eq tree distinct]
  simp only [List.filter_append, again, List.filter_filter, Bool.and_self, List.nil_append]

theorem write_of_leads {tree : FileTree} (noLinks : tree.HasNoLinks) {path : FilePath}
    {steps : List Component} {name : String} (ends : FilePath.steps path = steps ++ [.name name])
    {place : Place} (leads : tree.Leads tree.here steps place)
    (inside : tree.node? place = some .directory) (content : Bytes) :
    tree.write path content =
      if tree.node? (place ++ [name]) = some .directory then .error .isDirectory
      else .ok (tree.put (place ++ [name]) (.file content)) := by
  rw [write, ends, follow_new noLinks leads inside name]
  simp only [bind, Except.bind]
  split
  · rename_i found
    rw [if_pos found]
  · rename_i other
    rw [if_neg other]

theorem resolve_of_leads {tree : FileTree} (noLinks : tree.HasNoLinks) {path : FilePath}
    (some : path ≠ "") {place : Place}
    (leads : tree.Leads tree.here (FilePath.steps path) place) : tree.resolve path = .ok place := by
  rw [resolve, if_neg some, follow_eq_ok_iff noLinks]
  exact leads

theorem leads_of_resolve {tree : FileTree} (noLinks : tree.HasNoLinks) {path : FilePath}
    {place : Place} (resolved : tree.resolve path = .ok place) :
    path ≠ "" ∧ tree.Leads tree.here (FilePath.steps path) place := by
  unfold resolve at resolved
  split at resolved
  · cases resolved
  · rename_i some
    exact ⟨some, (follow_eq_ok_iff noLinks).mp resolved⟩

theorem Keeps.resolve {tree later : FileTree} (keeps : tree.Keeps later)
    (before : tree.HasNoLinks) (after : later.HasNoLinks) {path : FilePath} {place : Place}
    (resolved : tree.resolve path = .ok place) : later.resolve path = .ok place := by
  obtain ⟨some, leads⟩ := leads_of_resolve before resolved
  exact resolve_of_leads after some (keeps.here ▸ leads.keep keeps)

theorem isFile_iff {tree : FileTree} {path : FilePath} : tree.isFile path = true ↔
    ∃ place content, tree.resolve path = .ok place ∧ tree.node? place = some (.file content) := by
  unfold isFile at?
  cases tree.resolve path with
  | error problem => simp
  | ok place =>
    rcases found : tree.node? place with _ | (content | _ | target) <;> simp [found]

theorem Grows.isFile {tree later : FileTree} (grows : tree.Grows later) {path : FilePath}
    {place : Place} (resolved : tree.resolve path = .ok place) (noFile : tree.isFile path = false) :
    later.isFile path = false := by
  rw [Bool.eq_false_iff]
  intro present
  obtain ⟨other, content, now, file⟩ := isFile_iff.mp present
  cases (grows.resolve resolved).symm.trans now
  rcases grows.added _ _ file with before | new
  · cases noFile.symm.trans (isFile_iff.mpr ⟨place, content, resolved, before⟩)
  · cases new

theorem exists?_of_isDirectory {tree : FileTree} {path : FilePath}
    (directory : tree.isDirectory path = true) : tree.exists? path = true := by
  rw [isDirectory, decide_eq_true_iff] at directory
  rw [exists?, directory]
  rfl

theorem exists?_of_isFile {tree : FileTree} {path : FilePath} (file : tree.isFile path = true) :
    tree.exists? path = true := by
  obtain ⟨place, content, resolved, found⟩ := isFile_iff.mp file
  simp [exists?, at?, resolved, found]

theorem isFile_or_isDirectory {tree : FileTree} (noLinks : tree.HasNoLinks) {path : FilePath}
    (present : tree.exists? path = true) :
    tree.isFile path = true ∨ tree.isDirectory path = true := by
  unfold exists? at present
  unfold isFile isDirectory
  unfold at? at present ⊢
  cases resolved : tree.resolve path with
  | error problem => simp [resolved] at present
  | ok place =>
    rcases found : tree.node? place with _ | (content | _ | target)
    · simp [resolved, found] at present
    · simp [found]
    · simp [found]
    · exact absurd found (noLinks _ _)

theorem read_of_resolve {tree : FileTree} {path : FilePath} {place : Place} {content : Bytes}
    (resolved : tree.resolve path = .ok place) (file : tree.node? place = some (.file content)) :
    tree.read path = .ok content := by
  simp [read, resolved, file, bind, Except.bind]

theorem resolve_of_read {tree : FileTree} {path : FilePath} {content : Bytes}
    (read : tree.read path = .ok content) :
    ∃ place, tree.resolve path = .ok place ∧ tree.node? place = some (.file content) := by
  unfold FileTree.read at read
  cases resolved : tree.resolve path with
  | error problem => simp [resolved, bind, Except.bind] at read
  | ok place =>
    refine ⟨place, rfl, ?_⟩
    simp only [resolved, bind, Except.bind] at read
    split at read
    · rename_i found
      cases read
      exact found
    · cases read
    · cases read

theorem symbols_congr {tree later : FileTree} {path : FilePath}
    (same : later.read path = tree.read path) (nested : NestedFunctions) :
    later.symbols nested path = tree.symbols nested path := by
  simp only [symbols, outline, readText, same]

end PythonDocs.FileTree
