import PythonDocs.Proofs.FileTree.Whole
import PythonDocs.Proofs.Run.Modules

namespace PythonDocs

open FilePath (below)
open FileTree (documentPlace)
open Text (Bytes encode)

variable {σ : Type}

namespace Plan

def documents (plan : Plan) (replies : String → Except ServiceError String)
    (base : List Component) (place : Place) (modules : List SourceModule) : List (Place × Bytes) :=
  modules.map fun module =>
    (documentPlace place (module.name base),
      encode (plan.page (.ofReplies replies) base module ()).1.render.toList)

section

variable {plan : Plan} {service : Service σ} {tree made : FileTree} {selection : Selection}
variable {root output : FilePath} {inner place : Place} {sources : List (List String)}
variable {progress now middle last : Progress σ} {fate : Fate} {ledger : Ledger}
variable {replies : String → Except ServiceError String}

theorem Step.documents
    (steady : ∀ prompt state, (service prompt state).1 = replies prompt)
    (prepared : tree.Prepared selection root output made inner place sources)
    {names : List String} (member : names ∈ sources)
    (step : plan.Step service (FilePath.components root) output (below root names) progress fate
      last)
    (written : made.Written place progress.tree) :
    last.tree = progress.tree.putAll (plan.documents replies (FilePath.components root) place
        (Ledger.modules [(below root names, fate)])) ∧
      ∀ module ∈ Ledger.modules [(below root names, fate)],
        made.node? (documentPlace place (ModuleName.below root module.path)) ≠
          some .directory := by
  cases step with
  | skip => exact ⟨rfl, nofun⟩
  | document given wrote =>
    rw [prepared.write written member] at wrote
    split at wrote
    · cases wrote
    · rename_i free
      cases wrote
      rw [Ledger.modules_documented]
      refine ⟨?_, by simpa [Ledger.modules] using free⟩
      rw [Plan.documents, List.map_cons, page_of_steady steady _ _ progress.service]
      rfl

/-- The tree after a run is the tree before it with the documents. -/
theorem Runs.documents
    (steady : ∀ prompt state, (service prompt state).1 = replies prompt)
    (prepared : tree.Prepared selection root output made inner place sources)
    (runs : plan.Runs service (FilePath.components root) output progress ledger last)
    (listed : ∀ entry ∈ ledger, ∃ names ∈ sources, entry.1 = FilePath.below root names)
    (written : made.Written place progress.tree) :
    last.tree = progress.tree.putAll
        (plan.documents replies (FilePath.components root) place ledger.modules) ∧
      ∀ module ∈ ledger.modules,
        made.node? (documentPlace place (ModuleName.below root module.path)) ≠
          some .directory := by
  induction runs with
  | done => exact ⟨rfl, nofun⟩
  | @step progress middle last path fate rest first _ ih =>
    obtain ⟨names, member, same⟩ := listed _ List.mem_cons_self
    dsimp only at same
    subst same
    obtain ⟨own, free⟩ := first.documents steady prepared member written
    obtain ⟨others, frees⟩ := ih
      (fun entry inside => listed entry (List.mem_cons_of_mem _ inside))
      (first.written prepared member written).1
    rw [← List.singleton_append, Ledger.modules_append]
    constructor
    · rw [others, own, FileTree.putAll, FileTree.putAll, FileTree.putAll, Plan.documents,
        Plan.documents, Plan.documents, List.map_append, List.foldl_append]
    · intro module inside
      rcases List.mem_append.mp inside with here | later
      · exact free module here
      · exact frees module later

/-- A step can be made again in a later tree with the same report. -/
theorem Step.again
    (steady : ∀ prompt state, (service prompt state).1 = replies prompt)
    (prepared : tree.Prepared selection root output made inner place sources)
    {names : List String} (member : names ∈ sources)
    (step : plan.Step service (FilePath.components root) output (below root names) progress fate
      middle)
    (written : made.Written place progress.tree) (later : made.Written place now.tree)
    (report : now.report = progress.report) (claimed : now.claimed = progress.claimed) :
    ∃ next,
      plan.Step service (FilePath.components root) output (below root names) now fate next ∧
      next.report = middle.report ∧ next.claimed = middle.claimed := by
  have same : plan.fate (FilePath.components root) now.tree now.claimed (below root names) =
      plan.fate (FilePath.components root) progress.tree progress.claimed (below root names) := by
    rw [claimed, prepared.fate later member, prepared.fate written member]
  cases step with
  | skip given => exact ⟨_, .skip (same.trans given), by rw [report], claimed⟩
  | @document found after given wrote =>
    rw [prepared.write written member] at wrote
    split at wrote
    · cases wrote
    · rename_i free
      have again := prepared.write later member found
      simp only [if_neg free] at again
      let module : SourceModule := ⟨below root names, found⟩
      have count (state : σ) :
          (plan.page (.ofReplies replies) (FilePath.components root) module ()).2.1 =
            (plan.page service (FilePath.components root) module state).2.1 := by
        rw [page_of_steady steady _ module state]
      refine ⟨_, .document (same.trans given) (again _), ?_, by rw [claimed]⟩
      rw [report, ← count now.service, ← count progress.service]

theorem Runs.again
    (steady : ∀ prompt state, (service prompt state).1 = replies prompt)
    (prepared : tree.Prepared selection root output made inner place sources)
    (runs : plan.Runs service (FilePath.components root) output progress ledger last)
    (listed : ∀ entry ∈ ledger, ∃ names ∈ sources, entry.1 = FilePath.below root names)
    (written : made.Written place progress.tree) (later : made.Written place now.tree)
    (report : now.report = progress.report) (claimed : now.claimed = progress.claimed) :
    ∃ final, plan.Runs service (FilePath.components root) output now ledger final ∧
      final.report = last.report := by
  induction runs generalizing now with
  | done => exact ⟨now, .done now, report⟩
  | @step progress middle last path fate rest first _ ih =>
    obtain ⟨names, member, same⟩ := listed _ List.mem_cons_self
    dsimp only at same
    subst same
    obtain ⟨next, step, reported, taken⟩ :=
      first.again steady prepared member written later report claimed
    obtain ⟨final, further, ended⟩ := ih
      (fun entry inside => listed entry (List.mem_cons_of_mem _ inside))
      (first.written prepared member written).1 (step.written prepared member later).1 reported
      taken
    exact ⟨final, .step step further, ended⟩

theorem Runs.plain
    (steady : ∀ prompt state, (service prompt state).1 = replies prompt)
    (prepared : tree.Prepared selection root output made inner place sources)
    (plain : made.IsPlain) {state : σ}
    (runs : plan.Runs service (FilePath.components root) output { tree := made, service := state }
      ledger last)
    (listed : ∀ entry ∈ ledger, ∃ names ∈ sources, entry.1 = FilePath.below root names) :
    last.tree.IsPlain := by
  obtain ⟨left, free⟩ := runs.documents steady prepared listed prepared.hosts.written
  rw [left]
  refine plain.putAll (fun file member name inside => ?_) (fun file member => ?_)
  · obtain ⟨module, own, rfl⟩ := List.mem_map.mp member
    rcases List.mem_append.mp inside with outer | last
    · exact plain.isFileName (by simp [prepared.hosts.inside]) name outer
    · rw [List.mem_singleton.mp last]
      exact Ledger.isFileName_modules prepared listed module own
  · obtain ⟨module, own, rfl⟩ := List.mem_map.mp member
    exact free module own

/-- A run that gives a report does so again behind itself, and leaves the tree as it was left. -/
theorem run_again {after : FileTree} {state final : σ} {report : Report}
    (steady : ∀ prompt state, (service prompt state).1 = replies prompt)
    (whole : tree.IsWhole) (directory : tree.isDirectory root = true)
    (ran : plan.run service root output tree state = (.ok report, after, final)) (later : σ) :
    ∃ last, plan.run service root output after later = (.ok report, after, last) := by
  obtain ⟨made, ledger, last, discovered, directories, runs, rfl, rfl, -⟩ := runs_of_run ran
  obtain ⟨inner, place, sources, prepared⟩ :=
    FileTree.prepared whole.toIsPlain plan.selection directory directories
  rw [prepared.base] at runs
  have listed := Ledger.listed_of_files
    (Except.ok.inj (discovered.symm.trans prepared.discovered))
  have written := (runs.written prepared listed prepared.hosts.written).1
  have plain := runs.plain steady prepared
    (FileTree.createDirectories_plain whole.toIsPlain directories) listed
  have still : last.tree.isDirectory root = true :=
    (prepared.grows.keeps.trans written.keeps).isDirectory whole.noLinks plain.noLinks directory
  have present : last.tree.exists? root = true := by
    rw [FileTree.isDirectory, decide_eq_true_iff] at still
    rw [FileTree.exists?, still, Option.isSome_some]
  have found : last.tree.discover plan.selection root = .ok (ledger.map Prod.fst) := by
    rw [FileTree.discover_written whole plain prepared.grows written plan.selection directory,
      discovered]
  have reached : last.tree.createDirectories output = .ok last.tree :=
    FileTree.createDirectories_reached plain.noLinks
      ⟨place, prepared.hosts.leads_written written,
        written.keeps.directory _ prepared.hosts.inside⟩
  obtain ⟨other, again, reported⟩ : ∃ other,
      plan.Runs service (FilePath.components root) output
        { tree := last.tree, service := later } ledger other ∧ other.report = last.report :=
    runs.again steady prepared listed prepared.hosts.written written rfl rfl
  have ended := documentAll_of_runs again
  have same : other.tree = last.tree := by
    have distinct : ((plan.documents replies (FilePath.components root) place
        ledger.modules).map Prod.fst).Nodup := by
      rw [Plan.documents, List.map_map]
      have names := runs.names_nodup.map fun _ _ => (@FileTree.documentPlace_inj place _ _).mp
      rwa [List.map_map] at names
    rw [(again.documents steady prepared listed written).1,
      (runs.documents steady prepared listed prepared.hosts.written).1]
    exact FileTree.putAll_putAll made distinct
  refine ⟨other.service, ?_⟩
  simp only [run, present, found, reached, FileTree.runBase_directory still, ended, reported, same,
    Bool.not_true, Bool.false_eq_true, ↓reduceIte]

end

theorem isWhole_collidingTree : collidingTree.IsWhole :=
  ⟨isPlain_collidingTree, by decide⟩

/-- Documents in the root itself are written again. -/
theorem collidingTree_again :
    collidingTree.IsWhole ∧ ∃ report after final,
      everyFile.run alike "p" "p" collidingTree 0 = (.ok report, after, final) ∧
      ∃ last, everyFile.run alike "p" "p" after final = (.ok report, after, last) := by
  obtain ⟨after, final, ran⟩ :
      ∃ after final, everyFile.run alike "p" "p" collidingTree 0 =
        (.ok { collidingReport with outputs := ["p/a.md"] }, after, final) :=
    exists_run (by decide +kernel)
  have steady : ∀ prompt count, (alike prompt count).1 = .ok "text" := fun _ _ => rfl
  exact ⟨isWhole_collidingTree, _, after, final, ran,
    run_again steady isWhole_collidingTree (by decide +kernel) ran final⟩

end Plan

end PythonDocs
