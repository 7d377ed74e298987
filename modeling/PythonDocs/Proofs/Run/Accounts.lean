import PythonDocs.Proofs.Run.Below

namespace PythonDocs

open FilePath (below)
open Text (encode)

/-- What becomes of a file behind others, by the tree before the run. -/
inductive Plan.Becomes (plan : Plan) (tree : FileTree) (root : FilePath) (before : Ledger)
    (path : FilePath) : Fate → Prop
  | taken {first : SourceModule} (earlier : first ∈ before.modules)
      (same : ModuleName.below root first.path = ModuleName.below root path) :
      Becomes plan tree root before path
        (.skipped (takenReason (ModuleName.below root path)
          (FilePath.ofComponents (FilePath.relativeTo root first.path))))
  | failed {failure : Failure}
      (free : ∀ module ∈ before.modules,
        ModuleName.below root module.path ≠ ModuleName.below root path)
      (fails : tree.symbols plan.settings.analysis.nested path = .error failure) :
      Becomes plan tree root before path (.skipped failure.message)
  | documented {found : ModuleSymbols}
      (free : ∀ module ∈ before.modules,
        ModuleName.below root module.path ≠ ModuleName.below root path)
      (read : tree.symbols plan.settings.analysis.nested path = .ok found) :
      Becomes plan tree root before path (.documented found)

/-- The account of a run: what became of every file, and what is left of it. -/
structure Plan.Accounts {σ : Type} (plan : Plan) (service : Service σ) (root output : FilePath)
    (tree : FileTree) (state : σ) (report : Report) (after : FileTree) (ledger : Ledger) :
    Prop where
  discovered : tree.discover plan.selection root = .ok (ledger.map Prod.fst)
  sorted : (ledger.map Prod.fst).Pairwise fun first second => FilePath.isLess first second
  becomes : ∀ before path fate later, ledger = before ++ (path, fate) :: later →
    plan.Becomes tree root before path fate
  outputs : report.outputs = ledger.modules.map fun module =>
    FilePath.join output (ModuleName.below root module.path ++ ".md")
  skipped : report.skipped = ledger.skipped
  symbols : report.symbols = (ledger.modules.map SourceModule.size).sum
  count : report.outputs.length + report.skipped.length = ledger.length
  distinct : report.outputs.Nodup
  children : ∀ target ∈ report.outputs, ∃ name,
    FilePath.components target = FilePath.components output ++ [.name name]
  contents : List.Forall₂ (fun target page => after.read target = .ok (encode page.render.toList))
    report.outputs (plan.pages service (FilePath.components root) ledger.modules state).1
  first : ∀ before path fate later, ledger = before ++ (path, fate) :: later →
    ((∃ found, fate = .documented found) ↔
      (∃ found, tree.symbols plan.settings.analysis.nested path = .ok found) ∧
        ∀ entry ∈ before, ModuleName.below root entry.1 = ModuleName.below root path →
          ∃ failure, tree.symbols plan.settings.analysis.nested entry.1 = .error failure)

namespace Plan

variable {plan : Plan} {tree : FileTree} {root : FilePath} {before : Ledger} {path : FilePath}

theorem becomes_fate (plan : Plan) (tree : FileTree) (root : FilePath) (before : Ledger)
    (path : FilePath) :
    plan.Becomes tree root before path
      (plan.fate (FilePath.components root) tree
        (Ledger.claims (FilePath.components root) before) path) := by
  rw [fate]
  split
  · rename_i first taken
    obtain ⟨front, back, split, -⟩ := List.lookup_eq_some_iff.mp taken
    have member : (ModuleName.seenFrom (FilePath.components root) path, first) ∈
        Ledger.claims (FilePath.components root) before := by
      rw [split]
      exact List.mem_append_right _ List.mem_cons_self
    obtain ⟨module, earlier, same⟩ := List.mem_map.mp member
    obtain ⟨name, rfl⟩ := Prod.mk.inj same
    exact .taken earlier name
  · rename_i taken
    have free : ∀ module ∈ before.modules,
        ModuleName.below root module.path ≠ ModuleName.below root path := by
      intro module member same
      have apart := List.lookup_eq_none_iff.mp taken _ (List.mem_map_of_mem member)
      exact bne_iff_ne.mp apart same.symm
    split
    · rename_i failure fails
      exact .failed free fails
    · rename_i found read
      exact .documented free read

theorem Becomes.readable {found : ModuleSymbols}
    (becomes : plan.Becomes tree root before path (.documented found)) :
    tree.symbols plan.settings.analysis.nested path = .ok found := by
  cases becomes with
  | documented _ read => exact read

theorem Becomes.free {found : ModuleSymbols}
    (becomes : plan.Becomes tree root before path (.documented found)) :
    ∀ module ∈ before.modules,
      ModuleName.below root module.path ≠ ModuleName.below root path := by
  cases becomes with
  | documented free _ => exact free

theorem becomes_of_mem {ledger later : Ledger} {other : FilePath} {own fate : Fate}
    (becomes : ∀ before path fate later, ledger = before ++ (path, fate) :: later →
      plan.Becomes tree root before path fate)
    (split : ledger = before ++ (path, own) :: later) (member : (other, fate) ∈ before) :
    ∃ front : Ledger, (∀ module ∈ front.modules, module ∈ before.modules) ∧
      plan.Becomes tree root front other fate := by
  obtain ⟨front, back, rfl⟩ := List.append_of_mem member
  refine ⟨front, ?_, ?_⟩
  · intro module inside
    rw [Ledger.modules_append]
    exact List.mem_append_left _ inside
  · apply becomes front other fate (back ++ (path, own) :: later)
    rw [split, List.append_assoc, List.cons_append]

/-- A file is documented where it is the first readable one of its name. -/
theorem documented_iff_first {ledger later : Ledger} {fate : Fate}
    (becomes : ∀ before path fate later, ledger = before ++ (path, fate) :: later →
      plan.Becomes tree root before path fate)
    (split : ledger = before ++ (path, fate) :: later) :
    (∃ found, fate = .documented found) ↔
      (∃ found, tree.symbols plan.settings.analysis.nested path = .ok found) ∧
        ∀ entry ∈ before, ModuleName.below root entry.1 = ModuleName.below root path →
          ∃ failure, tree.symbols plan.settings.analysis.nested entry.1 = .error failure := by
  have own := becomes before path fate later split
  constructor
  · intro given
    obtain ⟨found, rfl⟩ := given
    refine ⟨⟨found, own.readable⟩, ?_⟩
    intro given member same
    obtain ⟨other, otherFate⟩ := given
    obtain ⟨front, inside, earlier⟩ := becomes_of_mem becomes split member
    cases earlier with
    | @taken module listed name =>
      exact absurd (name.trans same) (own.free module (inside module listed))
    | @failed failure _ fails => exact ⟨failure, fails⟩
    | @documented otherFound =>
      have listed : SourceModule.mk other otherFound ∈ before.modules :=
        Ledger.mem_modules.mpr member
      have apart := own.free ⟨other, otherFound⟩ listed
      exact absurd same apart
  · intro given
    obtain ⟨⟨found, read⟩, others⟩ := given
    cases own with
    | @taken module inside name =>
      have listed := Ledger.mem_modules.mp inside
      obtain ⟨failure, fails⟩ := others _ listed name
      obtain ⟨front, -, earlier⟩ := becomes_of_mem becomes split listed
      cases fails.symm.trans earlier.readable
    | failed _ fails => cases fails.symm.trans read
    | documented => exact ⟨_, rfl⟩

end Plan

namespace Ledger

variable {ledger : Ledger} {root : FilePath} {sources : List (List String)}

theorem listed_of_files (files : ledger.map Prod.fst = sources.map (below root)) :
    ∀ entry ∈ ledger, ∃ names ∈ sources, entry.1 = below root names := by
  intro entry member
  have inside : entry.1 ∈ sources.map (below root) := files ▸ List.mem_map_of_mem member
  obtain ⟨names, source, same⟩ := List.mem_map.mp inside
  exact ⟨names, source, same.symm⟩

theorem isFileName_modules {tree made : FileTree} {selection : Selection} {output : FilePath}
    {inner place : Place} (prepared : tree.Prepared selection root output made inner place sources)
    (listed : ∀ entry ∈ ledger, ∃ names ∈ sources, entry.1 = below root names) :
    ∀ module ∈ ledger.modules, IsFileName (ModuleName.below root module.path ++ ".md") := by
  intro module member
  obtain ⟨names, source, same⟩ := listed _ (mem_modules.mp member)
  dsimp only at same
  rw [same]
  exact prepared.isFileName source

theorem targets_nodup {output : FilePath}
    (valid : ∀ module ∈ ledger.modules, IsFileName (ModuleName.below root module.path ++ ".md"))
    (distinct : (ledger.modules.map (ModuleName.below root ·.path)).Nodup) :
    (ledger.modules.map fun module =>
      FilePath.join output (ModuleName.below root module.path ++ ".md")).Nodup := by
  rw [List.Nodup, List.pairwise_map]
  have names := List.pairwise_map.mp distinct
  refine names.imp_of_mem fun {first second} inFirst inSecond apart same => ?_
  exact apart (FileTree.join_document_inj (valid first inFirst) (valid second inSecond) same)

end Ledger

namespace Plan

section

variable {σ : Type} {plan : Plan} {service : Service σ} {tree after : FileTree}
variable {root output : FilePath} {state final : σ} {report : Report}

theorem Runs.names_nodup {made : FileTree} {ledger : Ledger} {last : Progress σ}
    (runs : plan.Runs service (FilePath.components root) output { tree := made, service := state }
      ledger last) :
    (ledger.modules.map (ModuleName.below root ·.path)).Nodup := by
  have claimed := runs.claimed_nodup List.nodup_nil
  rw [runs.claimed, Ledger.claims, List.nil_append, List.map_map] at claimed
  exact claimed

theorem Runs.read_pages {made : FileTree} {inner place : Place} {sources : List (List String)}
    {selection : Selection} {ledger : Ledger} {last : Progress σ}
    (prepared : tree.Prepared selection root output made inner place sources)
    (runs : plan.Runs service (FilePath.components root) output { tree := made, service := state }
      ledger last)
    (listed : ∀ entry ∈ ledger, ∃ names ∈ sources, entry.1 = FilePath.below root names) :
    List.Forall₂ (fun module page =>
        last.tree.read (module.target (FilePath.components root) output) =
          .ok (encode page.render.toList))
      ledger.modules (plan.pages service (FilePath.components root) ledger.modules state).1 := by
  have valid := Ledger.isFileName_modules prepared listed
  have written := (runs.written prepared listed prepared.hosts.written).1
  have contents := runs.contents prepared listed prepared.hosts.written runs.names_nodup
  refine ((List.forall₂_and_left _ _).mpr ⟨valid, contents⟩).imp ?_
  intro module page ⟨name, content⟩
  have resolved := written.resolve_document prepared.hosts name (by simp [content])
  exact FileTree.read_of_resolve resolved content

theorem Runs.skipped_sorted {base : List Component} {made : FileTree} {ledger : Ledger}
    {last : Progress σ} {sources : List (List String)}
    (runs : plan.Runs service base output { tree := made, service := state } ledger last)
    (files : ledger.map Prod.fst = sources.map (FilePath.below root))
    (sorted : sources.Pairwise (· < ·)) (entries : ∀ names ∈ sources, FilePath.IsEntry names) :
    last.report.skipped = ledger.skipped := by
  rw [runs.skipped]
  apply foldl_insertReason entries sorted
  rw [← files]
  exact ledger.skipped_sublist

/-- Every run below a directory that gives a report has an account. -/
theorem accounts_of_run (plain : tree.IsPlain) (directory : tree.isDirectory root = true)
    (ran : plan.run service root output tree state = (.ok report, after, final)) :
    ∃ ledger, plan.Accounts service root output tree state report after ledger := by
  obtain ⟨made, ledger, last, discovered, directories, runs, rfl, rfl, -⟩ := runs_of_run ran
  obtain ⟨inner, place, sources, prepared⟩ :=
    FileTree.prepared plain plan.selection directory directories
  rw [prepared.base] at runs
  have files : ledger.map Prod.fst = sources.map (below root) :=
    Except.ok.inj (discovered.symm.trans prepared.discovered)
  have listed := Ledger.listed_of_files files
  have entries : ∀ names ∈ sources, FilePath.IsEntry names :=
    fun names member => (prepared.files names member).entry
  have valid := Ledger.isFileName_modules prepared listed
  obtain ⟨-, fates, -⟩ := runs.written prepared listed prepared.hosts.written
  have outputs : last.report.outputs = ledger.modules.map fun module =>
      FilePath.join output (ModuleName.below root module.path ++ ".md") := runs.outputs
  have skipped : last.report.skipped = ledger.skipped :=
    runs.skipped_sorted files prepared.sorted entries
  have becomes : ∀ before path fate later, ledger = before ++ (path, fate) :: later →
      plan.Becomes tree root before path fate := by
    intro before path fate later split
    rw [fates before path fate later split]
    exact becomes_fate plan tree root before path
  refine ⟨ledger, discovered, ?_, becomes, outputs, skipped, ?_, ?_, ?_, ?_, ?_,
    fun before path fate later split => documented_iff_first becomes split⟩
  · rw [files]
    exact prepared.ordered
  · rw [runs.symbols, Nat.zero_add]
  · rw [outputs, skipped, List.length_map]
    exact ledger.length_modules_skipped
  · rw [outputs]
    exact Ledger.targets_nodup valid runs.names_nodup
  · intro target member
    rw [outputs] at member
    obtain ⟨module, inside, rfl⟩ := List.mem_map.mp member
    refine ⟨ModuleName.below root module.path ++ ".md", ?_⟩
    rw [FileTree.join_document]
    exact FilePath.components_below output (List.cons_ne_nil _ _)
      (by simpa using valid module inside)
  · rw [outputs, List.forall₂_map_left_iff]
    exact runs.read_pages prepared listed

end

theorem accounts_of_collidingTree :
    collidingTree.IsPlain ∧ collidingTree.isDirectory "p" = true ∧
      ∃ after final, everyFile.run unsteady "p" "o" collidingTree true =
          (.ok collidingReport, after, final) ∧
        ∃ ledger, everyFile.Accounts unsteady "p" "o" collidingTree true collidingReport after
          ledger := by
  have directory : collidingTree.isDirectory "p" = true := by decide +kernel
  obtain ⟨after, final, ran⟩ := run_collidingTree
  exact ⟨isPlain_collidingTree, directory, after, final, ran,
    accounts_of_run isPlain_collidingTree directory ran⟩

end Plan

end PythonDocs
