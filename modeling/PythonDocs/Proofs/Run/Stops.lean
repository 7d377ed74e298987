import PythonDocs.Proofs.Run.Accounts
import PythonDocs.Proofs.Run.Answers

namespace PythonDocs

open FilePath (below)
open FileTree (documentPlace)
open Text (encode)

variable {σ τ : Type}

namespace Plan

/-- A run stops at a module: the files before it are done, and its page cannot be written now. -/
structure Stops (plan : Plan) (service : Service σ) (base : List Component) (output : FilePath)
    (start : Progress σ) (before : Ledger) (module : SourceModule) (problem : OsError)
    (now : Progress σ) : Prop where
  runs : plan.Runs service base output start before now
  documented : plan.fate base now.tree now.claimed module.path = .documented module.found
  fails : now.tree.write (module.target base output)
    (encode (plan.page service base module now.service).1.render.toList) = .error problem

section

variable {plan : Plan} {service : Service σ} {base : List Component} {output path : FilePath}
variable {progress last : Progress σ} {problem : OsError}

theorem stop_of_document
    (ended : plan.document service base output path progress = (some problem, last)) :
    ∃ found, plan.Stops service base output progress [] ⟨path, found⟩ problem progress ∧
      last = { progress with
        service := (plan.page service base ⟨path, found⟩ progress.service).2.2 } := by
  cases given : plan.fate base progress.tree progress.claimed path with
  | skipped reason =>
    rw [document, given] at ended
    cases ended
  | documented found =>
    rw [document_documented given] at ended
    split at ended
    · rename_i fails
      cases ended
      exact ⟨found, ⟨.done _, given, fails⟩, rfl⟩
    · cases ended

theorem stops_of_documentAll {files : List FilePath}
    (ended : plan.documentAll service base output files progress = (some problem, last)) :
    ∃ before module later now, files = before.map Prod.fst ++ module.path :: later ∧
      plan.Stops service base output progress before module problem now ∧
      last = { now with service := (plan.page service base module now.service).2.2 } := by
  induction files generalizing progress with
  | nil => cases ended
  | cons path rest ih =>
    rw [documentAll] at ended
    split at ended
    · rename_i first
      cases ended
      obtain ⟨found, stops, left⟩ := stop_of_document first
      exact ⟨[], ⟨path, found⟩, rest, progress, rfl, stops, left⟩
    · rename_i middle first
      obtain ⟨fate, step⟩ := step_of_document first
      obtain ⟨before, module, later, now, rfl, stops, left⟩ := ih ended
      exact ⟨(path, fate) :: before, module, later, now, rfl,
        { stops with runs := .step step stops.runs }, left⟩

theorem Stops.pages {start now : Progress σ} {before : Ledger} {module : SourceModule}
    (stops : plan.Stops service base output start before module problem now) :
    (plan.pages service base (before.modules ++ [module]) start.service).2 =
      (plan.page service base module now.service).2.2 := by
  rw [pages_append_state, stops.runs.pages.1]
  rfl

end

structure Alike (plan other : Plan) : Prop where
  nested : other.settings.analysis.nested = plan.settings.analysis.nested
  output : other.settings.output = plan.settings.output

section

variable {plan other : Plan}

theorem Alike.document (alike : plan.Alike other) (service : Service σ) (base : List Component)
    (output path : FilePath) (progress : Progress σ) :
    other.document service base output path progress =
      plan.document service base output path progress := by
  have fates : other.fate base progress.tree progress.claimed path =
      plan.fate base progress.tree progress.claimed path := by
    rw [fate, fate, alike.nested]
  rw [Plan.document, Plan.document, fates, alike.output]

theorem Alike.documentAll (alike : plan.Alike other) (service : Service σ) (base : List Component)
    (output : FilePath) (files : List FilePath) (progress : Progress σ) :
    other.documentAll service base output files progress =
      plan.documentAll service base output files progress := by
  refine documentAll_viewed id (fun path progress => ?_) files progress
  rw [id, alike.document]
  rfl

end

/-- What is left of a run that breaks off: what was done before, and what was asked. -/
structure BreaksOff (plan : Plan) (service : Service σ) (root output : FilePath)
    (tree : FileTree) (state : σ) (made : FileTree) (failure : Failure) (after : FileTree)
    (final : σ) (before : Ledger) (module : SourceModule) (later : List FilePath) : Prop where
  discovered : tree.discover plan.selection root =
    .ok (before.map Prod.fst ++ module.path :: later)
  sorted : (before.map Prod.fst ++ module.path :: later).Pairwise fun first second =>
    FilePath.isLess first second
  becomes : ∀ front path fate back,
    before ++ [(module.path, .documented module.found)] = front ++ (path, fate) :: back →
      plan.Becomes tree root front path fate
  fails : ∃ problem, failure = .os problem ∧ ∀ content,
    after.write (module.target (FilePath.components root) output) content = .error problem
  contents : List.Forall₂ (fun earlier page =>
      after.read (earlier.target (FilePath.components root) output) =
        .ok (encode page.render.toList))
    before.modules (plan.pages service (FilePath.components root) before.modules state).1
  alone : ∃ last : Progress σ,
    plan.documentAll service (FilePath.components root) output (before.map Prod.fst)
      { tree := made, service := state } = (none, last) ∧
    last.tree = after ∧
    last.report.outputs = before.modules.map (·.target (FilePath.components root) output) ∧
    ∀ other : Plan, plan.Alike other →
      tree.discover other.selection root = .ok (before.map Prod.fst) →
      other.run service root output tree state = (.ok last.report, after, last.service)
  grows : tree.Grows made
  /-- The documents of other names are as they were when the directories were made. -/
  untouched : ∀ path ∈ module.path :: later,
    (∀ earlier ∈ before.modules,
      ModuleName.below root earlier.path ≠ ModuleName.below root path) →
    after.read (FilePath.join output (ModuleName.below root path ++ ".md")) =
      made.read (FilePath.join output (ModuleName.below root path ++ ".md"))
  asked : ∃ answers,
    plan.run service.logged root output tree (state, []) = (.error failure, after, final, answers) ∧
      answers.map Answer.prompt = (before.modules ++ [module]).flatMap
        (·.prompts plan.settings.output (FilePath.components root))

section

variable {plan : Plan} {service : Service σ} {tree made after : FileTree}
variable {root output : FilePath} {state final : σ} {failure : Failure}

theorem stops_of_run {files : List FilePath} (directory : tree.isDirectory root = true)
    (discovered : tree.discover plan.selection root = .ok files)
    (directories : tree.createDirectories output = .ok made)
    (ran : plan.run service root output tree state = (.error failure, after, final)) :
    ∃ problem before module later now, failure = .os problem ∧
      files = before.map Prod.fst ++ module.path :: later ∧
      plan.Stops service (runBase made root) output { tree := made, service := state } before
        module problem now ∧
      after = now.tree ∧
      final = (plan.page service (runBase made root) module now.service).2.2 := by
  have present := FileTree.exists?_of_isDirectory directory
  simp only [run, present, discovered, directories, Bool.not_true, Bool.false_eq_true,
    ↓reduceIte] at ran
  split at ran
  · rename_i problem last ended
    cases ran
    obtain ⟨before, module, later, now, listed, stops, left⟩ := stops_of_documentAll ended
    exact ⟨problem, before, module, later, now, rfl, listed, stops, by rw [left], by rw [left]⟩
  · cases ran

section

variable {service : Service τ} {selection : Selection} {inner place : Place}
variable {sources : List (List String)} {now : Progress τ} {state : τ} {before : Ledger}
variable {module : SourceModule} {path : FilePath} {problem : OsError}

theorem Stops.becomes (prepared : tree.Prepared selection root output made inner place sources)
    (stops : plan.Stops service (FilePath.components root) output
      { tree := made, service := state } before module problem now)
    (listed : ∀ entry ∈ before, ∃ names ∈ sources, entry.1 = FilePath.below root names)
    (source : ∃ names ∈ sources, module.path = FilePath.below root names) :
    ∀ front path fate back,
      before ++ [(module.path, .documented module.found)] = front ++ (path, fate) :: back →
        plan.Becomes tree root front path fate := by
  obtain ⟨names, member, same⟩ := source
  obtain ⟨between, fates, -⟩ := stops.runs.written prepared listed prepared.hosts.written
  intro front path fate back split
  rcases List.eq_nil_or_concat back with rfl | ⟨others, last, rfl⟩
  · obtain ⟨rfl, own⟩ := List.append_inj' split rfl
    obtain ⟨rfl, rfl⟩ : module.path = path ∧ .documented module.found = fate := by simpa using own
    have given := stops.documented
    rw [same, prepared.fate between member, ← same, stops.runs.claimed, List.nil_append] at given
    exact given ▸ becomes_fate plan tree root before module.path
  · rw [List.concat_eq_append, ← List.cons_append, ← List.append_assoc] at split
    obtain ⟨rfl, -⟩ := List.append_inj' split rfl
    rw [fates front path fate others rfl, List.nil_append]
    exact becomes_fate plan tree root front path

theorem Stops.blocked (prepared : tree.Prepared selection root output made inner place sources)
    (stops : plan.Stops service (FilePath.components root) output
      { tree := made, service := state } before module problem now)
    (listed : ∀ entry ∈ before, ∃ names ∈ sources, entry.1 = FilePath.below root names)
    (source : ∃ names ∈ sources, module.path = FilePath.below root names) (content : Text.Bytes) :
    now.tree.write (module.target (FilePath.components root) output) content =
      .error problem := by
  obtain ⟨names, member, same⟩ := source
  obtain ⟨path, found⟩ := module
  dsimp only at same
  subst same
  have between := (stops.runs.written prepared listed prepared.hosts.written).1
  have fails := stops.fails
  rw [prepared.write between member] at fails ⊢
  split at fails
  · rename_i full
    rw [if_pos full]
    exact fails
  · cases fails

theorem Stops.untouched (prepared : tree.Prepared selection root output made inner place sources)
    (stops : plan.Stops service (FilePath.components root) output
      { tree := made, service := state } before module problem now)
    (listed : ∀ entry ∈ before, ∃ names ∈ sources, entry.1 = FilePath.below root names)
    (source : ∃ names ∈ sources, path = FilePath.below root names)
    (apart : ∀ earlier ∈ before.modules,
      ModuleName.below root earlier.path ≠ ModuleName.below root path) :
    now.tree.read (FilePath.join output (ModuleName.below root path ++ ".md")) =
      made.read (FilePath.join output (ModuleName.below root path ++ ".md")) := by
  obtain ⟨names, member, rfl⟩ := source
  obtain ⟨between, -, frame⟩ := stops.runs.written prepared listed prepared.hosts.written
  refine prepared.hosts.written.read_document prepared.hosts between (prepared.isFileName member) ?_
  apply frame
  intro earlier inside same
  exact apart earlier inside (FileTree.documentPlace_inj.mp same).symm

end

theorem Stops.alone {now : Progress (σ × List Answer)} {before : Ledger} {module : SourceModule}
    {problem : OsError} {base : List Component} {service : Service σ}
    (stops : plan.Stops service.logged base output { tree := made, service := (state, []) } before
      module problem now)
    (present : tree.exists? root = true) (directories : tree.createDirectories output = .ok made)
    (same : runBase made root = base) :
    plan.documentAll service base output (before.map Prod.fst) { tree := made, service := state } =
        (none, now.viewed Prod.fst) ∧
      ∀ other : Plan, plan.Alike other →
        tree.discover other.selection root = .ok (before.map Prod.fst) →
        other.run service root output tree state =
          (.ok now.report, now.tree, (now.viewed Prod.fst).service) := by
  have done := service.isPartOf_logged.documentAll plan base output (before.map Prod.fst)
    { tree := made, service := (state, []) }
  rw [documentAll_of_runs stops.runs] at done
  refine ⟨done, fun other alike discovered => ?_⟩
  rw [Progress.viewed] at done
  simp only [run, present, discovered, directories, same, Bool.not_true, Bool.false_eq_true,
    ↓reduceIte, alike.documentAll, done]
  rfl

theorem Stops.prompts {now : Progress (σ × List Answer)} {before : Ledger} {module : SourceModule}
    {problem : OsError} {base : List Component}
    (stops : plan.Stops service.logged base output { tree := made, service := (state, []) } before
      module problem now) :
    (plan.page service.logged base module now.service).2.2.2.map Answer.prompt =
      (before.modules ++ [module]).flatMap (·.prompts plan.settings.output base) := by
  have flat : ∀ other ∈ before.modules ++ [module], Symbol.AreFlat other.found.symbols := by
    intro other member
    rcases List.mem_append.mp member with earlier | last
    · exact stops.runs.flat other earlier
    · rw [List.mem_singleton.mp last]
      exact FileTree.flat_of_symbols (fate_documented stops.documented).2
  obtain ⟨documents, listed, -, answers, isMade⟩ :=
    plan.pages_logged service base flat state []
  rw [← stops.pages, answers, List.nil_append, Document.prompts_of_made isMade, ← listed,
    List.flatMap_map]

/-- A run below a directory that fails, though a directory for the documents can be made, has
stopped at a document that cannot be written, and all that came before it is kept. -/
theorem breaksOff_of_run (plain : tree.IsPlain) (directory : tree.isDirectory root = true)
    (directories : tree.createDirectories output = .ok made)
    (ran : plan.run service root output tree state = (.error failure, after, final)) :
    ∃ before module later, plan.BreaksOff service root output tree state made failure after final
      before module later := by
  obtain ⟨inner, place, sources, prepared⟩ :=
    FileTree.prepared plain plan.selection directory directories
  obtain ⟨log, logged⟩ := run_with_log ran
  obtain ⟨problem, before, module, later, now, rfl, files, stops, rfl, served⟩ :=
    stops_of_run directory prepared.discovered directories logged
  rw [prepared.base] at stops served
  have source : ∀ path ∈ before.map Prod.fst ++ module.path :: later,
      ∃ names ∈ sources, path = FilePath.below root names := by
    rw [← files]
    exact List.forall_mem_map.mpr fun names member => ⟨names, member, rfl⟩
  have listed : ∀ entry ∈ before, ∃ names ∈ sources, entry.1 = FilePath.below root names :=
    fun entry member => source _ (List.mem_append_left _ (List.mem_map_of_mem member))
  have own := source module.path (List.mem_append_right _ List.mem_cons_self)
  have present := FileTree.exists?_of_isDirectory directory
  refine ⟨before, module, later, ?_⟩
  exact {
    discovered := prepared.discovered.trans (congrArg _ files)
    sorted := files ▸ prepared.ordered
    becomes := stops.becomes prepared listed own
    fails := ⟨problem, rfl, stops.blocked prepared listed own⟩
    contents := by
      have same := service.isPartOf_logged.pages plan (FilePath.components root) before.modules
        (state, [])
      rw [congrArg Prod.fst same]
      exact stops.runs.read_pages prepared listed
    alone := by
      obtain ⟨done, others⟩ := stops.alone present directories prepared.base
      exact ⟨_, done, rfl, stops.runs.outputs, others⟩
    grows := prepared.grows
    untouched := fun path member apart =>
      stops.untouched prepared listed (source path (List.mem_append_right _ member)) apart
    asked := ⟨log, logged, by rw [← stops.prompts, ← served]⟩ }

end

end Plan

def blockedTree : FileTree where
  nodes :=
    [(["p"], .directory), (["p", "a.py"], .file (encode "def f(): pass\n".toList)),
      (["p", "b.py"], .file []), (["p", "c.py"], .file []), (["o"], .directory),
      (["o", "b.md"], .directory), (["o", "c.md"], .file (encode "C\n".toList))]

theorem isPlain_blockedTree : blockedTree.IsPlain := by
  have noLinks : ∀ entry ∈ blockedTree.nodes, ∀ target, entry.2 ≠ .link target := by
    simp [blockedTree]
  exact ⟨FileTree.noLinks_of_nodes noLinks, by decide, by decide, rfl⟩

theorem Plan.blockedTree_breaksOff :
    blockedTree.IsPlain ∧ blockedTree.isDirectory "p" = true ∧
      blockedTree.createDirectories "o" = .ok blockedTree ∧
      ∃ failure after final,
        everyFile.run unsteady "p" "o" blockedTree true = (.error failure, after, final) ∧
        ∃ before module later, everyFile.BreaksOff unsteady "p" "o" blockedTree true blockedTree
          failure after final before module later := by
  have directory : blockedTree.isDirectory "p" = true := by decide +kernel
  have directories : blockedTree.createDirectories "o" = .ok blockedTree := by decide +kernel
  have failed : (everyFile.run unsteady "p" "o" blockedTree true).1.toOption = none := by
    decide +kernel
  refine ⟨isPlain_blockedTree, directory, directories, ?_⟩
  cases ran : everyFile.run unsteady "p" "o" blockedTree true with
  | mk result rest =>
    obtain ⟨after, final⟩ := rest
    rw [ran] at failed
    cases result with
    | ok report => cases failed
    | error failure =>
      exact ⟨failure, after, final, rfl,
        breaksOff_of_run isPlain_blockedTree directory directories ran⟩

end PythonDocs
