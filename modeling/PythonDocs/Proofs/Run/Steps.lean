import Mathlib.Algebra.GroupWithZero.Nat
import PythonDocs.Proofs.Page.Entries
import PythonDocs.Proofs.Run.Ledger

namespace PythonDocs

open Text (encode)

theorem FileTree.flat_of_symbols {tree : FileTree} {nested : NestedFunctions} {path : FilePath}
    {found : ModuleSymbols} (read : tree.symbols nested path = .ok found) :
    Symbol.AreFlat found.symbols := by
  cases given : tree.outline path with
  | error failure => simp [symbols, given, bind, Except.bind] at read
  | ok outline =>
    cases walked : outline.symbols nested with
    | error problem => simp [symbols, given, walked, bind, Except.bind, Except.mapError] at read
    | ok other =>
      have same : other = found := by
        simpa [symbols, given, walked, bind, Except.bind, Except.mapError] using read
      intro symbol member method inside
      exact ((Outline.isListed_of_symbols walked symbol (same ▸ member)).2 method inside).2

def FileTree.writePages (output : FilePath) (tree : FileTree) (pages : List Page) :
    Except OsError FileTree :=
  pages.foldlM (fun tree page =>
    tree.write (page.outputPath output) (encode page.render.toList)) tree

variable {σ : Type}

namespace Plan

def page (plan : Plan) (service : Service σ) (base : List Component) (module : SourceModule)
    (state : σ) : Page × Nat × σ :=
  service.page plan.settings.output (module.name base) (shownFrom base module.path) module.found
    state

def pages (plan : Plan) (service : Service σ) (base : List Component) :
    List SourceModule → σ → List Page × σ
  | [], state => ([], state)
  | module :: rest, state =>
    let (page, _, state) := plan.page service base module state
    let (pages, state) := pages plan service base rest state
    (page :: pages, state)

theorem pages_append_state (plan : Plan) (service : Service σ) (base : List Component)
    (first second : List SourceModule) (state : σ) :
    (plan.pages service base (first ++ second) state).2 =
      (plan.pages service base second (plan.pages service base first state).2).2 := by
  induction first generalizing state with
  | nil => rfl
  | cons module rest ih =>
    simp only [List.cons_append, pages]
    rw [ih]

theorem documentAll_viewed {τ : Type} {plan other : Plan} {service : Service σ}
    {another : Service τ} {base : List Component} {output : FilePath}
    (view : Progress τ → Progress σ)
    (same : ∀ path progress, plan.document service base output path (view progress) =
      ((other.document another base output path progress).1,
        view (other.document another base output path progress).2))
    (files : List FilePath) (progress : Progress τ) :
    plan.documentAll service base output files (view progress) =
      ((other.documentAll another base output files progress).1,
        view (other.documentAll another base output files progress).2) := by
  induction files generalizing progress with
  | nil => rfl
  | cons path rest ih =>
    rw [documentAll, documentAll, same]
    cases other.document another base output path progress with
    | mk problem middle =>
      cases problem with
      | some problem => rfl
      | none => exact ih middle

/-- A step that ends well. -/
inductive Step (plan : Plan) (service : Service σ) (base : List Component) (output : FilePath)
    (path : FilePath) (progress : Progress σ) : Fate → Progress σ → Prop
  | skip {reason : String}
      (fate : plan.fate base progress.tree progress.claimed path = .skipped reason) :
      Step plan service base output path progress (.skipped reason)
        { progress with report := progress.report.skip path reason }
  | document {found : ModuleSymbols} {tree : FileTree}
      (fate : plan.fate base progress.tree progress.claimed path = .documented found)
      (written : progress.tree.write (SourceModule.target base output ⟨path, found⟩)
        (encode (plan.page service base ⟨path, found⟩ progress.service).1.render.toList) =
          .ok tree) :
      Step plan service base output path progress (.documented found)
        { tree
          service := (plan.page service base ⟨path, found⟩ progress.service).2.2
          report := progress.report.addPage (SourceModule.target base output ⟨path, found⟩)
            (plan.page service base ⟨path, found⟩ progress.service).2.1
          claimed := progress.claimed ++ [(ModuleName.seenFrom base path, path)] }

inductive Runs (plan : Plan) (service : Service σ) (base : List Component) (output : FilePath) :
    Progress σ → Ledger → Progress σ → Prop
  | done (progress : Progress σ) : Runs plan service base output progress [] progress
  | step {progress middle last : Progress σ} {path : FilePath} {fate : Fate} {rest : Ledger}
      (first : plan.Step service base output path progress fate middle)
      (further : Runs plan service base output middle rest last) :
      Runs plan service base output progress ((path, fate) :: rest) last

section

variable {plan : Plan} {service : Service σ} {base : List Component} {output path : FilePath}
variable {progress middle last : Progress σ} {fate : Fate} {ledger : Ledger}

/-- The file of a module is documented unless its page cannot be written. -/
theorem document_documented {found : ModuleSymbols}
    (documented : plan.fate base progress.tree progress.claimed path = .documented found) :
    plan.document service base output path progress =
      match progress.tree.write (SourceModule.target base output ⟨path, found⟩)
        (encode (plan.page service base ⟨path, found⟩ progress.service).1.render.toList) with
      | .error problem =>
        (some problem,
          { progress with
            service := (plan.page service base ⟨path, found⟩ progress.service).2.2 })
      | .ok tree =>
        (none,
          { tree
            service := (plan.page service base ⟨path, found⟩ progress.service).2.2
            report := progress.report.addPage (SourceModule.target base output ⟨path, found⟩)
              (plan.page service base ⟨path, found⟩ progress.service).2.1
            claimed := progress.claimed ++ [(ModuleName.seenFrom base path, path)] }) := by
  have target : (plan.page service base ⟨path, found⟩ progress.service).1.outputPath output =
      SourceModule.target base output ⟨path, found⟩ := rfl
  cases given : plan.page service base ⟨path, found⟩ progress.service with
  | mk page rest =>
    obtain ⟨count, state⟩ := rest
    have reached : page.outputPath output = SourceModule.target base output ⟨path, found⟩ := by
      rw [given] at target
      exact target
    have made : service.page plan.settings.output (ModuleName.seenFrom base path)
        (shownFrom base path) found progress.service = (page, count, state) := given
    rw [document, documented, ← reached]
    cases written : progress.tree.write (page.outputPath output) (encode page.render.toList) with
    | error problem => simp only [made, written]
    | ok tree => simp only [made, written]

theorem step_of_document
    (ended : plan.document service base output path progress = (none, last)) :
    ∃ fate, plan.Step service base output path progress fate last := by
  cases given : plan.fate base progress.tree progress.claimed path with
  | skipped reason =>
    rw [document, given] at ended
    cases ended
    exact ⟨_, .skip given⟩
  | documented found =>
    rw [document_documented given] at ended
    split at ended
    · cases ended
    · rename_i tree written
      cases ended
      exact ⟨_, .document given written⟩

theorem runs_of_documentAll {files : List FilePath}
    (ended : plan.documentAll service base output files progress = (none, last)) :
    ∃ ledger, ledger.map Prod.fst = files ∧ plan.Runs service base output progress ledger last := by
  induction files generalizing progress with
  | nil =>
    cases ended
    exact ⟨[], rfl, .done _⟩
  | cons path rest ih =>
    rw [documentAll] at ended
    split at ended
    · cases ended
    · rename_i middle first
      obtain ⟨fate, step⟩ := step_of_document first
      obtain ⟨ledger, files, further⟩ := ih ended
      exact ⟨(path, fate) :: ledger, by rw [List.map_cons, files], .step step further⟩

theorem document_of_step (step : plan.Step service base output path progress fate last) :
    plan.document service base output path progress = (none, last) := by
  cases step with
  | skip given => rw [document, given]
  | document given written => rw [document_documented given, written]

theorem documentAll_of_runs (runs : plan.Runs service base output progress ledger last) :
    plan.documentAll service base output (ledger.map Prod.fst) progress = (none, last) := by
  induction runs with
  | done => rfl
  | step first _ ih =>
    rw [List.map_cons, documentAll, document_of_step first]
    exact ih

theorem Runs.split {before rest : Ledger}
    (runs : plan.Runs service base output progress (before ++ rest) last) :
    ∃ middle, plan.Runs service base output progress before middle ∧
      plan.Runs service base output middle rest last := by
  induction before generalizing progress with
  | nil => exact ⟨progress, .done _, runs⟩
  | cons entry before ih =>
    cases runs with
    | step first further =>
      obtain ⟨middle, reached, others⟩ := ih further
      exact ⟨middle, .step first reached, others⟩

theorem fate_documented {tree : FileTree} {claimed : List (String × FilePath)}
    {found : ModuleSymbols} (documented : plan.fate base tree claimed path = .documented found) :
    claimed.lookup (ModuleName.seenFrom base path) = none ∧
      tree.symbols plan.settings.analysis.nested path = .ok found := by
  simp only [fate] at documented
  split at documented
  · cases documented
  · rename_i free
    split at documented
    · cases documented
    · rename_i read
      cases documented
      exact ⟨free, read⟩

theorem Step.claimed (step : plan.Step service base output path progress fate last) :
    last.claimed = progress.claimed ++ Ledger.claims base [(path, fate)] := by
  cases step with
  | skip => exact (List.append_nil _).symm
  | document => rfl

theorem Runs.claimed (runs : plan.Runs service base output progress ledger last) :
    last.claimed = progress.claimed ++ Ledger.claims base ledger := by
  induction runs with
  | done => exact (List.append_nil _).symm
  | step first _ ih =>
    rw [ih, first.claimed, List.append_assoc, ← Ledger.claims_append]
    rfl

theorem Runs.claimed_nodup (runs : plan.Runs service base output progress ledger last)
    (distinct : (progress.claimed.map Prod.fst).Nodup) : (last.claimed.map Prod.fst).Nodup := by
  induction runs with
  | done => exact distinct
  | step first _ ih =>
    apply ih
    cases first with
    | skip => exact distinct
    | document documented =>
      have free := List.lookup_eq_none_iff.mp (fate_documented documented).1
      rw [List.map_append, List.nodup_append]
      refine ⟨distinct, by simp, ?_⟩
      rintro name member other single rfl
      obtain ⟨entry, inside, rfl⟩ := List.mem_map.mp member
      have same : entry.1 = _ := List.mem_singleton.mp single
      have apart := free entry inside
      simp [same] at apart

theorem Step.outputs (step : plan.Step service base output path progress fate last) :
    last.report.outputs = progress.report.outputs ++
      (Ledger.modules [(path, fate)]).map (·.target base output) := by
  cases step with
  | skip => exact (List.append_nil _).symm
  | document => rfl

theorem Runs.outputs (runs : plan.Runs service base output progress ledger last) :
    last.report.outputs = progress.report.outputs ++ ledger.modules.map (·.target base output) := by
  induction runs with
  | done => exact (List.append_nil _).symm
  | step first _ ih =>
    rw [ih, first.outputs, List.append_assoc, ← List.map_append, ← Ledger.modules_append]
    rfl

theorem page_size (module : SourceModule) {nested : NestedFunctions} {tree : FileTree}
    (read : tree.symbols nested module.path = .ok module.found) (state : σ) :
    (plan.page service base module state).2.1 = module.size := by
  have counted := service.texts_count plan.settings.output
    (Symbol.withMethods module.found.symbols) 0
    (service.readme module.found.symbols (module.name base) state).2
  have final := (Entry.buildAll_symbols (service.countedText plan.settings.output)
    (FileTree.flat_of_symbols read)
    (0, (service.readme module.found.symbols (module.name base) state).2)).2.1
  rw [← final, Nat.zero_add] at counted
  exact counted

theorem Step.symbols (step : plan.Step service base output path progress fate last) :
    last.report.symbols = progress.report.symbols +
      ((Ledger.modules [(path, fate)]).map SourceModule.size).sum := by
  cases step with
  | skip => rfl
  | document documented =>
    rw [Ledger.modules_documented, List.map_cons, List.sum_cons]
    exact congrArg _ (page_size ⟨path, _⟩ (fate_documented documented).2 progress.service)

theorem Runs.symbols (runs : plan.Runs service base output progress ledger last) :
    last.report.symbols = progress.report.symbols + (ledger.modules.map SourceModule.size).sum := by
  induction runs with
  | done => rfl
  | step first _ ih =>
    rw [ih, first.symbols, Nat.add_assoc, ← List.sum_append, ← List.map_append,
      ← Ledger.modules_append]
    rfl

theorem Step.skipped (step : plan.Step service base output path progress fate last) :
    last.report.skipped =
      (Ledger.skipped [(path, fate)]).foldl (fun reasons (path, reason) =>
        insertReason path reason reasons) progress.report.skipped := by
  cases step with
  | skip => rfl
  | document => rfl

theorem Runs.skipped (runs : plan.Runs service base output progress ledger last) :
    last.report.skipped =
      ledger.skipped.foldl (fun reasons (path, reason) => insertReason path reason reasons)
        progress.report.skipped := by
  induction runs with
  | done => rfl
  | step first _ ih =>
    rw [ih, first.skipped, ← List.foldl_append, ← Ledger.skipped_append]
    rfl

theorem Runs.pages (runs : plan.Runs service base output progress ledger last) :
    (plan.pages service base ledger.modules progress.service).2 = last.service ∧
      progress.tree.writePages output
        (plan.pages service base ledger.modules progress.service).1 = .ok last.tree := by
  induction runs with
  | done => exact ⟨rfl, rfl⟩
  | step first _ ih =>
    cases first with
    | skip => exact ih
    | document documented written =>
      refine ⟨ih.1, ?_⟩
      rw [FileTree.writePages, Ledger.modules_documented, Plan.pages, List.foldlM_cons]
      refine (congrArg (· >>= _) written).trans ?_
      exact ih.2

theorem Runs.read {found : ModuleSymbols} {before later : Ledger}
    (runs : plan.Runs service base output progress (before ++ (path, .documented found) :: later)
      last) :
    ∃ middle, plan.Runs service base output progress before middle ∧
      middle.tree.symbols plan.settings.analysis.nested path = .ok found := by
  obtain ⟨middle, reached, further⟩ := runs.split
  cases further with
  | step first _ =>
    cases first with
    | document documented _ => exact ⟨middle, reached, (fate_documented documented).2⟩

theorem Runs.flat (runs : plan.Runs service base output progress ledger last) :
    ∀ module ∈ ledger.modules, Symbol.AreFlat module.found.symbols := by
  intro module member
  obtain ⟨before, later, split⟩ := List.append_of_mem member
  obtain ⟨first, rest, rfl, -⟩ := Ledger.split_modules split
  obtain ⟨middle, -, read⟩ := runs.read
  exact FileTree.flat_of_symbols read

theorem runs_of_run {root : FilePath} {tree after : FileTree} {state final : σ} {report : Report}
    (ran : plan.run service root output tree state = (.ok report, after, final)) :
    ∃ (made : FileTree) (ledger : Ledger) (last : Progress σ),
      tree.discover plan.selection root = .ok (ledger.map Prod.fst) ∧
      tree.createDirectories output = .ok made ∧
      plan.Runs service (runBase made root) output { tree := made, service := state } ledger last ∧
      last.report = report ∧ last.tree = after ∧ last.service = final := by
  unfold run at ran
  split at ran
  · cases ran
  · split at ran
    · cases ran
    · rename_i files discovered
      split at ran
      · cases ran
      · rename_i made directories
        split at ran
        · cases ran
        · rename_i last ended
          cases ran
          obtain ⟨ledger, listed, runs⟩ := runs_of_documentAll ended
          exact ⟨made, ledger, last, listed ▸ discovered, directories, runs, rfl, rfl, rfl⟩

theorem exists_run {root : FilePath} {tree : FileTree} {state : σ} {report : Report}
    (reported : (plan.run service root output tree state).1.toOption = some report) :
    ∃ after final, plan.run service root output tree state = (.ok report, after, final) := by
  generalize plan.run service root output tree state = ended at reported ⊢
  obtain ⟨result, after, final⟩ := ended
  cases result with
  | error failure => cases reported
  | ok other =>
    obtain rfl := Option.some.inj reported
    exact ⟨after, final, rfl⟩

end

end Plan

def collidingTree : FileTree where
  nodes :=
    [(["p"], .directory), (["p", "a"], .directory),
      (["p", "a", "__init__.py"], .file (encode "class A:\n    def f(self): pass\n".toList)),
      (["p", "a.py"], .file []), (["p", "b.py"], .file (encode "def\n".toList))]

def everyFile : Plan := ⟨{}, ⟨[[.directories, .sequence]], []⟩⟩

def unsteady : Service Bool := fun _ answers =>
  (if answers then .ok " text " else .error ⟨"busy"⟩, !answers)

def collidingReport : Report where
  outputs := ["o/a.md"]
  symbols := 2
  skipped :=
    [("p/a.py", takenReason "a" "a/__init__.py"),
      ("p/b.py", "Parse error in p/b.py: syntax error at line 1, column 1")]

theorem run_collidingTree :
    ∃ after final, everyFile.run unsteady "p" "o" collidingTree true =
      (.ok collidingReport, after, final) :=
  Plan.exists_run (by decide +kernel)

end PythonDocs
