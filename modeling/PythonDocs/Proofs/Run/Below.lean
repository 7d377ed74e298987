import PythonDocs.Proofs.FileTree.Documents
import PythonDocs.Proofs.Run.Steps

namespace PythonDocs

open FilePath (below)
open FileTree (documentPlace)
open Text (encode)

/-- A directory with source files as root, and another that is made for documents. -/
structure FileTree.Prepared (tree : FileTree) (selection : Selection) (root output : FilePath)
    (made : FileTree) (inner place : Place) (sources : List (List String)) : Prop where
  noLinks : tree.HasNoLinks
  leads : tree.Leads tree.here (FilePath.way root) inner
  discovered : tree.discover selection root = .ok (sources.map (below root))
  sorted : sources.Pairwise (· < ·)
  isSource : ∀ names ∈ sources, isSourceName names = true
  files : ∀ names ∈ sources, tree.LeadsToFile inner names
  grows : tree.Grows made
  hosts : made.Hosts output place
  base : runBase made root = FilePath.components root

theorem FileTree.runBase_directory {made : FileTree} {root : FilePath}
    (directory : made.isDirectory root = true) : runBase made root = FilePath.components root := by
  rw [isDirectory, decide_eq_true_iff] at directory
  rw [runBase, isFile, directory]
  rfl

theorem FileTree.prepared {tree made : FileTree} (plain : tree.IsPlain) (selection : Selection)
    {root output : FilePath} (directory : tree.isDirectory root = true)
    (directories : tree.createDirectories output = .ok made) :
    ∃ inner place sources, tree.Prepared selection root output made inner place sources := by
  obtain ⟨inner, sources, leads, -, discovered, sorted, files⟩ :=
    discover_below plain selection directory
  obtain ⟨grows, place, hosts⟩ := plain.hosts directories
  have later := grows.keeps.isDirectory plain.noLinks hosts.noLinks directory
  exact ⟨inner, place, sources, plain.noLinks, leads, discovered, sorted,
    fun names member => (files names member).1, fun names member => (files names member).2, grows,
    hosts, runBase_directory later⟩

namespace FileTree.Prepared

variable {tree made now : FileTree} {selection : Selection} {root output : FilePath}
variable {inner place : Place} {sources : List (List String)} {names : List String}

theorem symbols (prepared : tree.Prepared selection root output made inner place sources)
    (written : made.Written place now) (member : names ∈ sources) (nested : NestedFunctions) :
    now.symbols nested (below root names) = tree.symbols nested (below root names) :=
  symbols_congr (written.read_source prepared.grows prepared.noLinks prepared.leads
    (prepared.isSource names member) (prepared.files names member)) nested

theorem fate (prepared : tree.Prepared selection root output made inner place sources)
    (written : made.Written place now) (member : names ∈ sources) (plan : Plan)
    (base : List Component) (claimed : List (String × FilePath)) :
    plan.fate base now claimed (below root names) =
      plan.fate base tree claimed (below root names) := by
  rw [Plan.fate, Plan.fate, prepared.symbols written member]

theorem ordered (prepared : tree.Prepared selection root output made inner place sources) :
    (sources.map (below root)).Pairwise fun first second => FilePath.isLess first second := by
  rw [List.pairwise_map]
  exact prepared.sorted.imp_of_mem fun {first second} inFirst inSecond less =>
    (FilePath.isLess_below root (prepared.files first inFirst).entry
      (prepared.files second inSecond).entry).mpr less

theorem isFileName (prepared : tree.Prepared selection root output made inner place sources)
    (member : names ∈ sources) :
    IsFileName (ModuleName.below root (below root names) ++ ".md") :=
  ModuleName.isFileName_below root (prepared.files names member).entry.some
    (prepared.files names member).entry.valid

theorem write (prepared : tree.Prepared selection root output made inner place sources)
    (written : made.Written place now) (member : names ∈ sources) (found : ModuleSymbols)
    (content : Text.Bytes) :
    now.write (SourceModule.target (FilePath.components root) output ⟨below root names, found⟩)
        content =
      if made.node? (documentPlace place (ModuleName.below root (below root names))) =
          some .directory then .error .isDirectory
      else
        .ok (now.put (documentPlace place (ModuleName.below root (below root names)))
          (.file content)) :=
  written.write prepared.hosts (prepared.isFileName member) content

end FileTree.Prepared

namespace Plan

variable {σ : Type} {plan : Plan} {service : Service σ} {tree made : FileTree}
variable {selection : Selection} {root output : FilePath} {inner place : Place}
variable {sources : List (List String)} {progress last : Progress σ} {ledger : Ledger}

theorem Step.written (prepared : tree.Prepared selection root output made inner place sources)
    {names : List String} (member : names ∈ sources) {fate : Fate}
    (step : plan.Step service (FilePath.components root) output (below root names) progress fate
      last)
    (written : made.Written place progress.tree) :
    made.Written place last.tree ∧
      fate = plan.fate (FilePath.components root) tree progress.claimed (below root names) ∧
      ∀ other, (∀ module ∈ Ledger.modules [(below root names, fate)],
          other ≠ documentPlace place (ModuleName.below root module.path)) →
        last.tree.node? other = progress.tree.node? other := by
  cases step with
  | skip given =>
    exact ⟨written, given.symm.trans (prepared.fate written member plan _ _), fun _ _ => rfl⟩
  | @document found after given wrote =>
    rw [prepared.write written member] at wrote
    split at wrote
    · cases wrote
    · rename_i free
      cases wrote
      refine ⟨written.put free _, given.symm.trans (prepared.fate written member plan _ _), ?_⟩
      intro other apart
      exact FileTree.node?_put_other _ (apart ⟨below root names, found⟩ List.mem_cons_self) _

/-- What a run below a directory makes of every file, and of the tree. -/
theorem Runs.written (prepared : tree.Prepared selection root output made inner place sources)
    (runs : plan.Runs service (FilePath.components root) output progress ledger last)
    (listed : ∀ entry ∈ ledger, ∃ names ∈ sources, entry.1 = FilePath.below root names)
    (written : made.Written place progress.tree) :
    made.Written place last.tree ∧
      (∀ before path fate later, ledger = before ++ (path, fate) :: later →
        fate = plan.fate (FilePath.components root) tree
          (progress.claimed ++ Ledger.claims (FilePath.components root) before) path) ∧
      ∀ other, (∀ module ∈ ledger.modules,
          other ≠ documentPlace place (ModuleName.below root module.path)) →
        last.tree.node? other = progress.tree.node? other := by
  induction runs with
  | done =>
    refine ⟨written, ?_, fun _ _ => rfl⟩
    intro before path fate later split
    simp at split
  | @step progress middle last path fate rest first _ ih =>
    obtain ⟨names, member, same⟩ := listed _ List.mem_cons_self
    dsimp only at same
    subst same
    obtain ⟨between, own, frame⟩ := first.written prepared member written
    obtain ⟨final, fates, frames⟩ :=
      ih (fun entry inside => listed entry (List.mem_cons_of_mem _ inside)) between
    refine ⟨final, ?_, ?_⟩
    · intro before path fate later split
      cases before with
      | nil =>
        cases split
        rw [own, Ledger.claims]
        exact congrArg (plan.fate _ tree · _) (List.append_nil _).symm
      | cons entry before =>
        rw [List.cons_append, List.cons.injEq] at split
        obtain ⟨rfl, split⟩ := split
        rw [fates before path fate later split, first.claimed, List.append_assoc,
          ← Ledger.claims_append]
        rfl
    · intro other apart
      rw [← List.singleton_append, Ledger.modules_append] at apart
      rw [frames other fun module inside => apart module (List.mem_append_right _ inside)]
      exact frame other fun module inside => apart module (List.mem_append_left _ inside)

theorem Step.content (prepared : tree.Prepared selection root output made inner place sources)
    {names : List String} (member : names ∈ sources) {found : ModuleSymbols}
    (step : plan.Step service (FilePath.components root) output (below root names) progress
      (.documented found) last)
    (written : made.Written place progress.tree) :
    last.service =
        (plan.page service (FilePath.components root) ⟨below root names, found⟩
          progress.service).2.2 ∧
      last.tree.node? (documentPlace place (ModuleName.below root (below root names))) =
        some (.file (encode (plan.page service (FilePath.components root)
          ⟨below root names, found⟩ progress.service).1.render.toList)) := by
  cases step with
  | document given wrote =>
    rw [prepared.write written member] at wrote
    split at wrote
    · cases wrote
    · cases wrote
      exact ⟨rfl, FileTree.node?_put_self _ (by simp [documentPlace]) _⟩

/-- After a run, every document has its page, since no later one has its name. -/
theorem Runs.contents (prepared : tree.Prepared selection root output made inner place sources)
    (runs : plan.Runs service (FilePath.components root) output progress ledger last)
    (listed : ∀ entry ∈ ledger, ∃ names ∈ sources, entry.1 = FilePath.below root names)
    (written : made.Written place progress.tree)
    (distinct : (ledger.modules.map (ModuleName.below root ·.path)).Nodup) :
    List.Forall₂ (fun module page =>
        last.tree.node? (documentPlace place (ModuleName.below root module.path)) =
          some (.file (encode page.render.toList)))
      ledger.modules
      (plan.pages service (FilePath.components root) ledger.modules progress.service).1 := by
  induction runs with
  | done => exact .nil
  | @step progress middle last path fate rest first further ih =>
    obtain ⟨names, member, same⟩ := listed _ List.mem_cons_self
    dsimp only at same
    subst same
    have others := fun entry inside => listed entry (List.mem_cons_of_mem _ inside)
    have between := (first.written prepared member written).1
    cases fate with
    | skipped reason =>
      have state : middle.service = progress.service := by
        cases first
        rfl
      rw [Ledger.modules_skipped, ← state]
      exact ih others between distinct
    | documented found =>
      obtain ⟨state, content⟩ := first.content prepared member written
      rw [Ledger.modules_documented, List.map_cons, List.nodup_cons] at distinct
      rw [Ledger.modules_documented, Plan.pages]
      refine .cons ?_ ?_
      · have frame := (further.written prepared others between).2.2
        rw [← content]
        apply frame
        intro module inside same
        exact distinct.1
          (List.mem_map.mpr ⟨module, inside, (FileTree.documentPlace_inj.mp same).symm⟩)
      · rw [← state]
        exact ih others between distinct.2

end Plan

theorem isPlain_collidingTree : collidingTree.IsPlain := by
  refine ⟨FileTree.noLinks_of_nodes ?_, by decide, by decide, rfl⟩
  intro entry member target
  simp only [collidingTree, List.mem_cons, List.not_mem_nil, or_false] at member
  rcases member with rfl | rfl | rfl | rfl | rfl <;> simp

end PythonDocs
