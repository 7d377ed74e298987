import PythonDocs.Proofs.Run.Below

namespace PythonDocs

open FilePath (below)
open FileTree (documentPlace)
open Text (encode)

/-- Two trees with the same entries. The contents of files may differ at the ends of some paths. -/
structure FileTree.Alike (first second : FileTree) (documents : List FilePath) : Prop where
  here : first.here = second.here
  nodes : ∀ place, first.node? place = second.node? place ∨
    ∃ path ∈ documents, first.resolve path = .ok place ∧ second.resolve path = .ok place ∧
      ∃ content other, first.node? place = some (.file content) ∧
        second.node? place = some (.file other)

theorem FileTree.Alike.refl (tree : FileTree) : tree.Alike tree [] :=
  ⟨rfl, fun _ => .inl rfl⟩

def Plan.reached {σ : Type} (plan : Plan) (service : Service σ) (root output : FilePath)
    (tree : FileTree) (state : σ) : Progress σ :=
  match tree.discover plan.selection root, tree.createDirectories output with
  | .ok files, .ok made =>
    (plan.documentAll service (runBase made root) output files
      { tree := made, service := state }).2
  | _, _ => { tree, service := state }

def Plan.withOutput (plan : Plan) (settings : OutputSettings) : Plan :=
  { plan with settings := { plan.settings with output := settings } }

variable {σ τ : Type}

/-- Two runs have done the same. -/
structure Progress.Agrees (made : FileTree) (output : FilePath) (place : Place)
    (first : Progress σ) (second : Progress τ) : Prop where
  report : first.report = second.report
  claimed : first.claimed = second.claimed
  outputs : first.report.outputs =
    first.claimed.map fun entry => FilePath.join output (entry.1 ++ ".md")
  valid : ∀ entry ∈ first.claimed, IsFileName (entry.1 ++ ".md")
  firstWritten : made.Written place first.tree
  secondWritten : made.Written place second.tree
  nodes : ∀ other, first.tree.node? other = second.tree.node? other ∨
    ∃ entry ∈ first.claimed, other = documentPlace place entry.1 ∧
      ∃ content text, first.tree.node? other = some (.file content) ∧
        second.tree.node? other = some (.file text)

namespace Progress.Agrees

variable {tree made : FileTree} {root output : FilePath} {inner place : Place}
variable {first : Progress σ} {second : Progress τ}

theorem alike (agrees : Agrees made output place first second) (hosts : made.Hosts output place) :
    first.tree.Alike second.tree first.report.outputs := by
  refine ⟨agrees.firstWritten.keeps.here.trans agrees.secondWritten.keeps.here.symm,
    fun other => ?_⟩
  rcases agrees.nodes other with same | ⟨entry, member, rfl, content, text, own, others⟩
  · exact .inl same
  · have name := agrees.valid entry member
    refine .inr ⟨FilePath.join output (entry.1 ++ ".md"), ?_, ?_, ?_, content, text, own, others⟩
    · rw [agrees.outputs]
      exact List.mem_map_of_mem member
    · exact agrees.firstWritten.resolve_document hosts name (by simp [own])
    · exact agrees.secondWritten.resolve_document hosts name (by simp [others])

theorem skip (agrees : Agrees made output place first second) (path : FilePath) (reason : String) :
    Agrees made output place { first with report := first.report.skip path reason }
      { second with report := second.report.skip path reason } :=
  { agrees with report := congrArg (Report.skip · path reason) agrees.report }

/-- Both runs put a document at one place. -/
theorem put (agrees : Agrees made output place first second) {module : String}
    (name : IsFileName (module ++ ".md"))
    (free : made.node? (documentPlace place module) ≠ some .directory) (path : FilePath)
    (count : Nat) (content text : Text.Bytes) (state : σ) (other : τ) :
    Agrees made output place
      { tree := first.tree.put (documentPlace place module) (.file content)
        service := state
        report := first.report.addPage (FilePath.join output (module ++ ".md")) count
        claimed := first.claimed ++ [(module, path)] }
      { tree := second.tree.put (documentPlace place module) (.file text)
        service := other
        report := second.report.addPage (FilePath.join output (module ++ ".md")) count
        claimed := second.claimed ++ [(module, path)] } := by
  have nonempty : documentPlace place module ≠ [] := by simp [documentPlace]
  refine ⟨congrArg (Report.addPage · _ count) agrees.report,
    congrArg (· ++ [(module, path)]) agrees.claimed, ?_, ?_, agrees.firstWritten.put free content,
    agrees.secondWritten.put free text, ?_⟩
  · rw [List.map_append, ← agrees.outputs]
    rfl
  · intro entry member
    rcases List.mem_append.mp member with earlier | last
    · exact agrees.valid entry earlier
    · rw [List.mem_singleton.mp last]
      exact name
  · intro at_
    by_cases same : at_ = documentPlace place module
    · subst same
      refine .inr ⟨(module, path), List.mem_append_right _ List.mem_cons_self, rfl, content, text,
        FileTree.node?_put_self _ nonempty _, FileTree.node?_put_self _ nonempty _⟩
    · simp only [FileTree.node?_put_other _ same]
      rcases agrees.nodes at_ with equal | ⟨entry, member, found⟩
      · exact .inl equal
      · exact .inr ⟨entry, List.mem_append_left _ member, found⟩

end Progress.Agrees

section

variable {tree made : FileTree} {selection : Selection} {root output : FilePath}
variable {inner place : Place} {sources : List (List String)}

/-- What a run below a directory does with a file, said without the texts of the service. -/
theorem Plan.document_below
    (prepared : tree.Prepared selection root output made inner place sources) (plan : Plan)
    (service : Service σ) {names : List String} (member : names ∈ sources) {progress : Progress σ}
    (written : made.Written place progress.tree) :
    ∃ content state, plan.document service (FilePath.components root) output (below root names)
        progress =
      match plan.fate (FilePath.components root) tree progress.claimed (below root names) with
      | .skipped reason =>
        (none, { progress with report := progress.report.skip (below root names) reason })
      | .documented found =>
        let module := ModuleName.below root (below root names)
        if made.node? (documentPlace place module) = some .directory then
          (some .isDirectory, { progress with service := state })
        else
          (none,
            { tree := progress.tree.put (documentPlace place module) (.file content)
              service := state
              report := progress.report.addPage (FilePath.join output (module ++ ".md"))
                (SourceModule.mk (below root names) found).size
              claimed := progress.claimed ++ [(module, below root names)] }) := by
  have same := prepared.fate written member plan (FilePath.components root) progress.claimed
  cases fate : plan.fate (FilePath.components root) tree progress.claimed (below root names) with
  | skipped reason =>
    rw [document, same.trans fate]
    exact ⟨[], progress.service, rfl⟩
  | documented found =>
    let module := SourceModule.mk (below root names) found
    let page := plan.page service (FilePath.components root) module progress.service
    have size : page.2.1 = module.size := page_size module (fate_documented fate).2 progress.service
    refine ⟨encode page.1.render.toList, page.2.2, ?_⟩
    rw [document_documented (same.trans fate), prepared.write written member found, size]
    by_cases full : made.node? (documentPlace place (ModuleName.below root (below root names))) =
        some .directory
    · simp only [full, ↓reduceIte]
      rfl
    · simp only [full, ↓reduceIte]
      rfl

variable (plan : Plan) (settings others : OutputSettings) (service : Service σ)
variable (other : Service τ)

theorem Progress.Agrees.document
    (prepared : tree.Prepared selection root output made inner place sources)
    {names : List String} (member : names ∈ sources) {first : Progress σ} {second : Progress τ}
    (agrees : Agrees made output place first second) :
    ∃ problem next twin,
      (plan.withOutput settings).document service (FilePath.components root) output
        (below root names) first = (problem, next) ∧
      (plan.withOutput others).document other (FilePath.components root) output
        (below root names) second = (problem, twin) ∧
      Agrees made output place next twin := by
  obtain ⟨content, state, own⟩ := Plan.document_below prepared (plan.withOutput settings) service
    member agrees.firstWritten
  obtain ⟨text, last, same⟩ := Plan.document_below prepared (plan.withOutput others) other
    member agrees.secondWritten
  have fates : (plan.withOutput others).fate (FilePath.components root) tree second.claimed
        (below root names) =
      (plan.withOutput settings).fate (FilePath.components root) tree first.claimed
        (below root names) := by
    rw [agrees.claimed]
    rfl
  rw [own, same, fates]
  cases (plan.withOutput settings).fate (FilePath.components root) tree first.claimed
      (below root names) with
  | skipped reason => exact ⟨_, _, _, rfl, rfl, agrees.skip _ reason⟩
  | documented found =>
    by_cases full : made.node? (documentPlace place (ModuleName.below root (below root names))) =
        some .directory
    · simp only [full, ↓reduceIte]
      exact ⟨_, _, _, rfl, rfl, { agrees with }⟩
    · simp only [full, ↓reduceIte]
      exact ⟨_, _, _, rfl, rfl, agrees.put (prepared.isFileName member) full _ _ _ _ _ _⟩

theorem Progress.Agrees.documentAll
    (prepared : tree.Prepared selection root output made inner place sources)
    {files : List (List String)} (listed : ∀ names ∈ files, names ∈ sources)
    {first : Progress σ} {second : Progress τ} (agrees : Agrees made output place first second) :
    ∃ problem next twin,
      (plan.withOutput settings).documentAll service (FilePath.components root) output
        (files.map (below root)) first = (problem, next) ∧
      (plan.withOutput others).documentAll other (FilePath.components root) output
        (files.map (below root)) second = (problem, twin) ∧
      Agrees made output place next twin := by
  induction files generalizing first second with
  | nil => exact ⟨none, first, second, rfl, rfl, agrees⟩
  | cons names rest ih =>
    obtain ⟨problem, next, twin, own, same, still⟩ :=
      agrees.document plan settings others service other prepared (listed names List.mem_cons_self)
    simp only [List.map_cons, Plan.documentAll, own, same]
    cases problem with
    | some problem => exact ⟨some problem, next, twin, rfl, rfl, still⟩
    | none => exact ih (fun names member => listed names (List.mem_cons_of_mem _ member)) still

/-- The service and the settings of the output have no influence on how a run ends, on its report,
also on what it would report of a run that fails, and on the entries of the tree after it. -/
theorem Plan.run_independent (plain : tree.IsPlain) (directory : tree.isDirectory root = true)
    (state : σ) (otherState : τ) :
    let first := (plan.withOutput settings).reached service root output tree state
    let second := (plan.withOutput others).reached other root output tree otherState
    ∃ result,
      (plan.withOutput settings).run service root output tree state =
        (result, first.tree, first.service) ∧
      (plan.withOutput others).run other root output tree otherState =
        (result, second.tree, second.service) ∧
      first.report = second.report ∧
      first.tree.Alike second.tree first.report.outputs ∧
      ∀ report, result = .ok report → report = first.report := by
  have present := FileTree.exists?_of_isDirectory directory
  intro first second
  cases directories : tree.createDirectories output with
  | error problem =>
    obtain ⟨-, sources, -, -, discovered, -⟩ :=
      FileTree.discover_below plain plan.selection directory
    have begins : first = { tree, service := state } := by
      simp only [first, reached, withOutput, discovered, directories]
    have starts : second = { tree, service := otherState } := by
      simp only [second, reached, withOutput, discovered, directories]
    rw [begins, starts]
    refine ⟨.error (.os problem), ?_, ?_, rfl, .refl tree, nofun⟩ <;>
      simp only [run, present, withOutput, discovered, directories, Bool.not_true,
        Bool.false_eq_true, ↓reduceIte]
  | ok made =>
    obtain ⟨inner, place, sources, prepared⟩ :=
      FileTree.prepared plain plan.selection directory directories
    have start : Progress.Agrees made output place
        ({ tree := made, service := state } : Progress σ)
        ({ tree := made, service := otherState } : Progress τ) :=
      ⟨rfl, rfl, rfl, by simp, prepared.hosts.written, prepared.hosts.written,
        fun _ => .inl rfl⟩
    obtain ⟨problem, next, twin, own, same, agrees⟩ :=
      start.documentAll plan settings others service other prepared fun _ member => member
    have discovered := prepared.discovered
    have base := prepared.base
    simp only [withOutput] at own same
    have ends : first = next := by
      simp only [first, reached, withOutput, discovered, directories, base, own]
    have stops : second = twin := by
      simp only [second, reached, withOutput, discovered, directories, base, same]
    rw [ends, stops]
    simp only [run, present, withOutput, discovered, directories, base, own, same, Bool.not_true,
      Bool.false_eq_true, ↓reduceIte]
    have alike := agrees.alike prepared.hosts
    cases problem with
    | some problem => exact ⟨.error (.os problem), rfl, rfl, agrees.report, alike, nofun⟩
    | none =>
      refine ⟨.ok next.report, rfl, ?_, agrees.report, alike, fun report given => ?_⟩
      · rw [agrees.report]
      · exact (Except.ok.inj given).symm

end

/-- A service that fails at times, and one that is silent, asked for introductions only. -/
theorem Plan.collidingTree_independent :
    let silent : Service Unit := fun _ state => (.ok "", state)
    let brief : OutputSettings := { docstrings := false, diagrams := false }
    let first := (everyFile.withOutput {}).reached unsteady "p" "o" collidingTree true
    let second := (everyFile.withOutput brief).reached silent "p" "o" collidingTree ()
    collidingTree.IsPlain ∧ collidingTree.isDirectory "p" = true ∧ ∃ result,
      (everyFile.withOutput {}).run unsteady "p" "o" collidingTree true =
        (result, first.tree, first.service) ∧
      (everyFile.withOutput brief).run silent "p" "o" collidingTree () =
        (result, second.tree, second.service) ∧
      first.report = second.report ∧
      first.tree.Alike second.tree first.report.outputs ∧
      ∀ report, result = .ok report → report = first.report := by
  intro silent brief
  have directory : collidingTree.isDirectory "p" = true := by decide +kernel
  exact ⟨isPlain_collidingTree, directory,
    run_independent everyFile {} brief unsteady silent isPlain_collidingTree directory true ()⟩

end PythonDocs
