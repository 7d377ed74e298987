import Mathlib.Data.List.Nodup
import PythonDocs.Proofs.Discovery.Order
import PythonDocs.Proofs.FileTree.Plain

namespace PythonDocs.FileTree

open FilePath (IsEntry below)

structure LeadsToFile (tree : FileTree) (place : Place) (names : List String) : Prop where
  entry : IsEntry names
  leads : tree.Leads place (names.map .name) (place ++ names)
  file : ∃ content, tree.node? (place ++ names) = some (.file content)

section

variable {tree : FileTree} {place : Place} {name : String} {node : Node}

theorem nameIn?_eq_some_iff {other : Place} :
    nameIn? place other = some name ↔ other = place ++ [name] := by
  unfold nameIn?
  constructor
  · intro given
    split at given
    · rename_i same
      obtain ⟨front, rfl⟩ := List.getLast?_eq_some_iff.mp given
      rw [List.dropLast_concat] at same
      rw [same]
    · cases given
  · intro same
    subst same
    rw [List.dropLast_concat, if_pos rfl, List.getLast?_concat]

theorem mem_children :
    (name, node) ∈ tree.children place ↔ (place ++ [name], node) ∈ tree.nodes := by
  rw [children, List.mem_filterMap]
  constructor
  · intro given
    obtain ⟨⟨other, found⟩, member, given⟩ := given
    obtain ⟨last, same, pair⟩ := Option.map_eq_some_iff.mp given
    cases pair
    exact nameIn?_eq_some_iff.mp same ▸ member
  · intro member
    exact ⟨_, member, Option.map_eq_some_iff.mpr ⟨name, nameIn?_eq_some_iff.mpr rfl, rfl⟩⟩

theorem lookup_of_mem {value : Type} {entries : List (Place × value)} {content : value}
    (distinct : (entries.map Prod.fst).Nodup) (member : (place, content) ∈ entries) :
    entries.lookup place = some content := by
  induction entries with
  | nil => cases member
  | cons entry rest ih =>
    obtain ⟨other, found⟩ := entry
    rw [List.map_cons, List.nodup_cons] at distinct
    rcases List.mem_cons.mp member with same | later
    · cases same
      simp
    · have apart : place ≠ other := by
        intro same
        subst same
        exact distinct.1 (List.mem_map.mpr ⟨_, later, rfl⟩)
      have apart' : (place == other) = false := by simpa using apart
      rw [List.lookup_cons, apart']
      exact ih distinct.2 later

theorem IsPlain.child (plain : tree.IsPlain) (member : (name, node) ∈ tree.children place) :
    tree.node? (place ++ [name]) = some node ∧ IsFileName name := by
  rw [mem_children] at member
  constructor
  · rw [node?, if_neg (by simp)]
    exact lookup_of_mem plain.distinct member
  · exact plain.named _ member name (by simp)

theorem children_nodup (distinct : (tree.nodes.map Prod.fst).Nodup) (place : Place) :
    ((tree.children place).map Prod.fst).Nodup := by
  have sub : (((tree.children place).map Prod.fst).map fun name => place ++ [name]).Sublist
      (tree.nodes.map Prod.fst) := by
    unfold children
    induction tree.nodes with
    | nil => exact List.Sublist.slnil
    | cons entry rest ih =>
      obtain ⟨other, node⟩ := entry
      cases given : nameIn? place other with
      | none =>
        rw [List.filterMap_cons_none (by simp [given])]
        exact ih.cons _
      | some name =>
        rw [List.filterMap_cons_some (by simp [given]; rfl)]
        rw [nameIn?_eq_some_iff.mp given]
        exact ih.cons_cons _
  exact List.Nodup.of_map _ (sub.nodup distinct)

theorem LeadsToFile.single {content : Text.Bytes} (inside : tree.node? place = some .directory)
    (valid : IsFileName name) (file : tree.node? (place ++ [name]) = some (.file content)) :
    tree.LeadsToFile place [name] := by
  refine ⟨⟨by simp, by simpa using valid⟩, .step inside ?_ (.done _), content, file⟩
  intro other given
  cases given
  simp [file]

theorem LeadsToFile.cons {rest : List String} (inside : tree.node? place = some .directory)
    (valid : IsFileName name) (subdirectory : tree.node? (place ++ [name]) = some .directory)
    (further : tree.LeadsToFile (place ++ [name]) rest) :
    tree.LeadsToFile place (name :: rest) := by
  have same : place ++ name :: rest = place ++ [name] ++ rest := by simp
  refine ⟨⟨by simp, ?_⟩, ?_, ?_⟩
  · intro other member
    rcases List.mem_cons.mp member with rfl | later
    · exact valid
    · exact further.entry.valid other later
  · rw [same]
    refine .step inside ?_ further.leads
    intro other given
    cases given
    simp [subdirectory]
  · rw [same]
    exact further.file

theorem mem_filesBelow_succ (noLinks : ∀ name target, (name, .link target) ∉ tree.children place)
    {fuel : Nat} {around : List Place} {names : List String} :
    names ∈ tree.filesBelow (fuel + 1) around place ↔
      ∃ name rest, names = name :: rest ∧
        ((∃ content, (name, .file content) ∈ tree.children place ∧ rest = []) ∨
          ((name, .directory) ∈ tree.children place ∧
            rest ∈ tree.filesBelow fuel (place :: around) (place ++ [name]))) := by
  rw [filesBelow, List.mem_flatMap]
  constructor
  · intro given
    obtain ⟨⟨name, node⟩, child, given⟩ := given
    obtain ⟨rest, found, rfl⟩ := List.mem_map.mp given
    refine ⟨name, rest, rfl, ?_⟩
    cases node with
    | file content => exact .inl ⟨content, child, by simpa using found⟩
    | directory => exact .inr ⟨child, found⟩
    | link target => exact absurd child (noLinks name target)
  · rintro ⟨name, rest, rfl, ⟨content, child, rfl⟩ | ⟨child, found⟩⟩
    · exact ⟨_, child, by simp⟩
    · exact ⟨_, child, List.mem_map.mpr ⟨rest, found, rfl⟩⟩

theorem IsPlain.noLinkChild (plain : tree.IsPlain) (name : String) (target : FilePath) :
    (name, .link target) ∉ tree.children place :=
  fun child => plain.noLinks _ _ (plain.child child).1

theorem leadsToFile_of_mem (plain : tree.IsPlain) {fuel : Nat} {around : List Place}
    {names : List String} (inside : tree.node? place = some .directory)
    (member : names ∈ tree.filesBelow fuel around place) : tree.LeadsToFile place names := by
  induction fuel generalizing around place names with
  | zero => cases member
  | succ fuel ih =>
    obtain ⟨name, rest, rfl, ⟨content, child, rfl⟩ | ⟨child, found⟩⟩ :=
      (mem_filesBelow_succ plain.noLinkChild).mp member
    · obtain ⟨file, valid⟩ := plain.child child
      exact .single inside valid file
    · obtain ⟨subdirectory, valid⟩ := plain.child child
      exact .cons inside valid subdirectory (ih subdirectory found)

theorem filesBelow_succ (tree : FileTree) (fuel : Nat) (around : List Place) (place : Place) :
    ∃ behind : String × Node → List (List String),
      tree.filesBelow (fuel + 1) around place =
        (tree.children place).flatMap (fun child => (behind child).map (child.1 :: ·)) ∧
      ∀ child, behind child = [] ∨ behind child = [[]] ∨
        ∃ inside other, behind child = tree.filesBelow fuel inside other := by
  refine ⟨_, rfl, fun child => ?_⟩
  split
  · exact .inr (.inl rfl)
  · exact .inr (.inr ⟨_, _, rfl⟩)
  · split
    · exact .inl rfl
    · split
      · exact .inr (.inl rfl)
      · split
        · exact .inl rfl
        · exact .inr (.inr ⟨_, _, rfl⟩)
      · exact .inl rfl

theorem filesBelow_nodup (distinct : (tree.nodes.map Prod.fst).Nodup) (fuel : Nat)
    (around : List Place) (place : Place) : (tree.filesBelow fuel around place).Nodup := by
  induction fuel generalizing around place with
  | zero => exact List.nodup_nil
  | succ fuel ih =>
    obtain ⟨behind, whole, cases⟩ := tree.filesBelow_succ fuel around place
    rw [whole, List.nodup_flatMap]
    constructor
    · intro child _
      apply List.Nodup.map List.cons_injective
      rcases cases child with none | file | ⟨inside, other, walk⟩
      · exact none ▸ List.nodup_nil
      · exact file ▸ List.nodup_singleton _
      · exact walk ▸ ih inside other
    · have apart := List.pairwise_map.mp (children_nodup distinct place)
      refine apart.imp fun {first second} different names inFirst inSecond => ?_
      obtain ⟨rest, _, rfl⟩ := List.mem_map.mp inFirst
      obtain ⟨others, _, same⟩ := List.mem_map.mp inSecond
      exact different (List.cons.inj same).1.symm

theorem isEntry_of_mem (named : ∀ entry ∈ tree.nodes, ∀ name ∈ entry.1, IsFileName name)
    {fuel : Nat} {around : List Place} {names : List String}
    (member : names ∈ tree.filesBelow fuel around place) : IsEntry names := by
  induction fuel generalizing around place names with
  | zero => cases member
  | succ fuel ih =>
    obtain ⟨behind, whole, cases⟩ := tree.filesBelow_succ fuel around place
    rw [whole, List.mem_flatMap] at member
    obtain ⟨child, listed, given⟩ := member
    obtain ⟨rest, found, rfl⟩ := List.mem_map.mp given
    have valid : IsFileName child.1 := named _ (mem_children.mp listed) child.1 (by simp)
    refine ⟨List.cons_ne_nil _ _, List.forall_mem_cons.mpr ⟨valid, ?_⟩⟩
    rcases cases child with none | file | ⟨inside, other, walk⟩
    · rw [none] at found
      cases found
    · rw [file, List.mem_singleton] at found
      exact found ▸ List.forall_mem_nil _
    · exact (ih (walk ▸ found)).valid

end

theorem isDirectory_iff {tree : FileTree} (noLinks : tree.HasNoLinks) {path : FilePath} :
    tree.isDirectory path = true ↔ path ≠ "" ∧
      ∃ place, tree.Leads tree.here (FilePath.steps path) place ∧
        tree.node? place = some .directory := by
  rw [isDirectory, decide_eq_true_iff, at?, resolve]
  by_cases empty : path = ""
  · simp [empty]
  · rw [if_neg empty]
    constructor
    · intro found
      split at found
      · rename_i place resolved
        exact ⟨empty, place, (follow_eq_ok_iff noLinks).mp resolved, found⟩
      · cases found
    · intro given
      obtain ⟨-, place, leads, inside⟩ := given
      rw [(follow_eq_ok_iff noLinks).mpr leads]
      exact inside

theorem discover_directory {tree : FileTree} (noLinks : tree.HasNoLinks) (selection : Selection)
    {root : FilePath} (directory : tree.isDirectory root = true) :
    ∃ place, tree.Leads tree.here (FilePath.way root) place ∧
      tree.node? place = some .directory ∧
      tree.discover selection root = .ok ((tree.sourcesBelow selection place).map (below root)) := by
  obtain ⟨nonempty, place, leads, inside⟩ := (isDirectory_iff noLinks).mp directory
  have noFile : tree.isFile root = false := by
    rw [isDirectory, decide_eq_true_iff] at directory
    rw [isFile, directory]
  have resolved : tree.resolve root = .ok place := by
    rw [resolve, if_neg nonempty, follow_eq_ok_iff noLinks]
    exact leads
  refine ⟨place, leads.way, inside, ?_⟩
  rw [discover, noFile, resolved]
  rfl

theorem mem_sourcesBelow {tree : FileTree} {selection : Selection} {place : Place}
    {names : List String} : names ∈ tree.sourcesBelow selection place ↔
      names ∈ tree.filesIn place ∧ isSourceName names = true ∧
        selection.wants (Text.join "/" names) = true := by
  rw [sourcesBelow, mem_sortNames, List.mem_filter, Bool.and_eq_true]

theorem sourcesBelow_pairwise {tree : FileTree} (distinct : (tree.nodes.map Prod.fst).Nodup)
    (selection : Selection) (place : Place) :
    (tree.sourcesBelow selection place).Pairwise (· < ·) :=
  sortNames_pairwise ((filesBelow_nodup distinct _ _ _).filter _)

theorem discover_ordered {tree : FileTree} (formed : tree.IsFormed) {selection : Selection}
    {root : FilePath} {files : List FilePath} (noFile : tree.isFile root = false)
    (discovered : tree.discover selection root = .ok files) :
    ∃ (place : Place) (sources : List (List String)), tree.resolve root = .ok place ∧
      files = sources.map (below root) ∧ sources.Pairwise (· < ·) ∧
      ∀ names ∈ sources, isSourceName names = true ∧ IsEntry names := by
  unfold discover at discovered
  cases resolved : tree.resolve root with
  | error problem => simp [noFile, resolved, Except.mapError, bind, Except.bind] at discovered
  | ok place =>
    simp only [noFile, resolved, Except.mapError, bind, Except.bind, Bool.false_eq_true,
      ↓reduceIte] at discovered
    refine ⟨place, tree.sourcesBelow selection place, rfl, (Except.ok.inj discovered).symm,
      sourcesBelow_pairwise formed.distinct selection place, ?_⟩
    intro names member
    obtain ⟨found, source, -⟩ := mem_sourcesBelow.mp member
    exact ⟨source, isEntry_of_mem formed.named found⟩

theorem noFile_of_discover {tree : FileTree} {selection : Selection} {root first second : FilePath}
    {files : List FilePath} (discovered : tree.discover selection root = .ok files)
    (apart : first ≠ second) (inside : first ∈ files) (insideToo : second ∈ files) :
    tree.isFile root = false := by
  rw [Bool.eq_false_iff]
  intro alone
  rw [discover, alone] at discovered
  obtain rfl := Except.ok.inj discovered
  exact apart ((List.mem_singleton.mp inside).trans (List.mem_singleton.mp insideToo).symm)

theorem mem_of_mem_below {root : FilePath} {sources : List (List String)}
    {names : List String} (entries : ∀ third ∈ sources, isSourceName third = true ∧ IsEntry third)
    (entry : IsEntry names) (inside : below root names ∈ sources.map (below root)) :
    names ∈ sources := by
  obtain ⟨other, inner, same⟩ := List.mem_map.mp inside
  exact FilePath.below_inj root (entries other inner).2 entry same ▸ inner

theorem split_of_lt {sources : List (List String)} {names others : List String}
    (sorted : sources.Pairwise (· < ·)) (less : names < others) (inside : names ∈ sources)
    (insideToo : others ∈ sources) :
    ∃ front middle back, sources = front ++ names :: (middle ++ others :: back) := by
  obtain ⟨front, rest, rfl⟩ := List.append_of_mem inside
  have later : others ∈ rest := by
    rcases List.mem_append.mp insideToo with earlier | behind
    · have before := (List.pairwise_append.mp sorted).2.2 others earlier names List.mem_cons_self
      exact absurd before less.asymm
    · exact List.mem_of_ne_of_mem less.ne' behind
  obtain ⟨middle, back, rfl⟩ := List.append_of_mem later
  exact ⟨front, middle, back, rfl⟩

theorem discover_pair {tree : FileTree} (formed : tree.IsFormed) {selection : Selection}
    {root : FilePath} {files : List FilePath} {names others : List String} (first : IsEntry names)
    (second : IsEntry others) (less : names < others)
    (discovered : tree.discover selection root = .ok files) (inside : below root names ∈ files)
    (insideToo : below root others ∈ files) :
    files.Pairwise (fun path other => FilePath.isLess path other) ∧
      [below root names, below root others].Sublist files := by
  have apart : below root names ≠ below root others :=
    fun same => less.ne (FilePath.below_inj root first second same)
  have noFile := noFile_of_discover discovered apart inside insideToo
  obtain ⟨place, sources, -, rfl, sorted, entries⟩ := discover_ordered formed noFile discovered
  constructor
  · rw [List.pairwise_map]
    exact sorted.imp_of_mem fun {names others} member memberToo less =>
      (FilePath.isLess_below root (entries names member).2 (entries others memberToo).2).mpr less
  · obtain ⟨front, middle, back, rfl⟩ := split_of_lt sorted less
      (mem_of_mem_below entries first inside)
      (mem_of_mem_below entries second insideToo)
    have kept : [names, others].Sublist (front ++ names :: (middle ++ others :: back)) :=
      List.sublist_append_of_sublist_right
        ((List.singleton_sublist.mpr (List.mem_append_right _ List.mem_cons_self)).cons_cons names)
    exact kept.map (below root)

theorem discover_below {tree : FileTree} (plain : tree.IsPlain) (selection : Selection)
    {root : FilePath} (directory : tree.isDirectory root = true) :
    ∃ (place : Place) (sources : List (List String)),
      tree.Leads tree.here (FilePath.way root) place ∧
      tree.node? place = some .directory ∧
      tree.discover selection root = .ok (sources.map (below root)) ∧
      sources.Pairwise (· < ·) ∧
      ∀ names ∈ sources, isSourceName names = true ∧ tree.LeadsToFile place names := by
  obtain ⟨place, leads, inside, discovered⟩ :=
    discover_directory plain.noLinks selection directory
  refine ⟨place, tree.sourcesBelow selection place, leads, inside, discovered, ?_, ?_⟩
  · exact sourcesBelow_pairwise plain.distinct selection place
  · intro names member
    obtain ⟨found, source, -⟩ := mem_sourcesBelow.mp member
    exact ⟨source, leadsToFile_of_mem plain inside found⟩

end PythonDocs.FileTree
