import PythonDocs.Program
import PythonDocs.Proofs.Python.Lowering
import PythonDocs.Proofs.Run.Steps

namespace PythonDocs

def TellsMalformed (text : String) : Prop := "Malformed syntax tree".toList <+: text.toList

theorem tellsMalformed_append {first rest : String} (told : TellsMalformed (first ++ rest)) :
    first.toList <+: "Malformed syntax tree".toList ∨
      "Malformed syntax tree".toList <+: first.toList := by
  rw [TellsMalformed, String.toList_append] at told
  exact List.prefix_or_prefix_of_prefix (List.prefix_append ..) told

theorem SettingsError.not_tellsMalformed (error : SettingsError) :
    ¬ TellsMalformed error.message := by
  intro told
  cases error with
  | unreadable => exact absurd told (by unfold TellsMalformed; decide +kernel)
  | shape source error => exact absurd (tellsMalformed_append told) (by decide +kernel)
  | invalid problem => exact absurd (tellsMalformed_append told) (by decide +kernel)

theorem Failure.malformed_of_told {failure : Failure} (told : TellsMalformed failure.message) :
    ∃ problem, failure = .malformed problem := by
  cases failure with
  | malformed problem => exact ⟨problem, rfl⟩
  | settings error => exact absurd told error.not_tellsMalformed
  | file path cause | syntaxError path place | walk root cause =>
    unfold message at told
    simp only [String.append_assoc] at told
    exact absurd (tellsMalformed_append told) (by decide +kernel)
  | os | pathNotFound | json | pattern | service =>
    exact absurd (tellsMalformed_append told) (by decide +kernel)
  | crash => exact absurd told (by unfold TellsMalformed; decide +kernel)

theorem not_tellsMalformed_takenReason (module first : String) :
    ¬ TellsMalformed (takenReason module first) := by
  intro told
  simp only [takenReason, String.append_assoc] at told
  exact absurd (tellsMalformed_append told) (by decide +kernel)

def NeverMalformed {α : Type} (result : Except Failure α) : Prop :=
  ∀ problem, result ≠ .error (.malformed problem)

namespace NeverMalformed

variable {α β ε : Type}

theorem ok (value : α) : NeverMalformed (.ok value) := nofun

theorem not_told {result : Except Failure α} (never : NeverMalformed result) {failure : Failure}
    (failed : result = .error failure) : ¬ TellsMalformed failure.message := by
  intro told
  obtain ⟨problem, rfl⟩ := Failure.malformed_of_told told
  exact never problem failed

theorem error {result : Except Failure α} (never : NeverMalformed result) {failure : Failure}
    (failed : result = .error failure) : NeverMalformed (.error failure : Except Failure β) := by
  intro problem same
  cases same
  exact never problem failed

theorem bind {result : Except Failure α} {next : α → Except Failure β}
    (first : NeverMalformed result)
    (further : ∀ value, result = .ok value → NeverMalformed (next value)) :
    NeverMalformed (result >>= next) := by
  cases result with
  | error failure => exact first.error rfl
  | ok value => exact further value rfl

theorem mapError {result : Except ε α} {failure : ε → Failure}
    (other : ∀ cause problem, failure cause ≠ .malformed problem) :
    NeverMalformed (result.mapError failure) := by
  cases result with
  | error cause =>
    intro problem failed
    exact other cause problem (Except.error.inj failed)
  | ok value => exact .ok value

end NeverMalformed

namespace Outline

variable {source : String} {outline : Outline}

theorem isNamed_of_read (read : Outline.read source = .ok outline) : outline.IsNamed := by
  obtain ⟨trees, -, lowers⟩ := Python.lowers_of_read read
  exact lowers.named

theorem isNamed_of_source {path : FilePath} (read : Outline.ofSource path source = .ok outline) :
    outline.IsNamed := by
  unfold ofSource at read
  cases given : Outline.read source with
  | error place => simp [given, Except.mapError] at read
  | ok other =>
    obtain rfl : other = outline := by simpa [given, Except.mapError] using read
    exact isNamed_of_read given

theorem symbols_of_isNamed (named : outline.IsNamed) (nested : NestedFunctions) :
    ∃ found, outline.symbols nested = .ok found := by
  obtain ⟨found, walked, -⟩ := symbols_walked nested named
  exact ⟨found, walked⟩

end Outline

namespace FileTree

variable (tree : FileTree) (path : FilePath)

theorem isNamed_of_outline {tree : FileTree} {path : FilePath} {outline : Outline}
    (read : tree.outline path = .ok outline) : outline.IsNamed := by
  unfold FileTree.outline at read
  cases text : tree.readText path with
  | error cause => simp [text, bind, Except.bind, Except.mapError] at read
  | ok source =>
    simp only [text, bind, Except.bind, Except.mapError] at read
    exact Outline.isNamed_of_source read

theorem outline_neverMalformed : NeverMalformed (tree.outline path) :=
  .bind (.mapError nofun) fun _ _ => .mapError nofun

theorem symbols_neverMalformed (nested : NestedFunctions) :
    NeverMalformed (tree.symbols nested path) := by
  refine .bind (tree.outline_neverMalformed path) ?_
  intro outline read
  obtain ⟨found, walked⟩ := Outline.symbols_of_isNamed (isNamed_of_outline read) nested
  rw [walked]
  exact .ok found

theorem discover_neverMalformed (selection : Selection) (root : FilePath) :
    NeverMalformed (tree.discover selection root) := by
  unfold discover
  split
  · exact .ok _
  · exact .bind (.mapError nofun) fun _ _ => .ok _

theorem chosenSettings_neverMalformed (config : Option FilePath) :
    NeverMalformed (tree.chosenSettings config) := by
  unfold chosenSettings settingsOrDefault
  split
  · exact .bind (.mapError nofun) fun _ _ => .mapError nofun
  · exact .ok _

theorem symbolsText_neverMalformed (config : Option FilePath) :
    NeverMalformed (tree.symbolsText path config) := by
  refine .bind (tree.chosenSettings_neverMalformed config) fun settings _ => ?_
  split
  · exact .bind (tree.symbols_neverMalformed path _) fun _ _ => .ok _
  · exact nofun

end FileTree

theorem Plan.ofSettings_neverMalformed (settings : Settings) :
    NeverMalformed (Plan.ofSettings settings) :=
  .bind (.mapError nofun) fun _ _ => .bind (.mapError nofun) fun _ _ => .ok _

theorem GenerateOptions.merged_neverMalformed (options : GenerateOptions)
    (environment : Environment) (tree : FileTree) :
    NeverMalformed (options.merged environment tree) := by
  refine .bind (tree.chosenSettings_neverMalformed options.config) fun _ _ => ?_
  refine .bind (.mapError nofun) fun _ _ => ?_
  split
  · exact .ok _
  · exact nofun

theorem GenerateOptions.accept_neverMalformed {σ : Type} (options : GenerateOptions)
    (environment : Environment) (connector : Connector σ) (tree : FileTree) :
    NeverMalformed (options.accept environment connector tree) := by
  refine .bind (options.merged_neverMalformed environment tree) fun settings _ => ?_
  refine .bind (.mapError nofun) fun _ _ => ?_
  split
  · refine .bind (.mapError nofun) fun _ _ => ?_
    exact .bind (Plan.ofSettings_neverMalformed settings) fun _ _ => .ok _
  · exact nofun

def Report.NeverMalformed (report : Report) : Prop :=
  ∀ entry ∈ report.skipped, ¬ TellsMalformed entry.2

theorem mem_insertReason {path : FilePath} {reason : String} {reasons : List (FilePath × String)}
    {entry : FilePath × String} (member : entry ∈ insertReason path reason reasons) :
    entry.2 = reason ∨ entry ∈ reasons := by
  induction reasons with
  | nil => exact .inl (List.mem_singleton.mp member ▸ rfl)
  | cons first rest ih =>
    unfold insertReason at member
    split at member
    · exact (List.mem_cons.mp member).imp (congrArg Prod.snd) (List.mem_cons_of_mem _)
    · split at member
      · exact (List.mem_cons.mp member).imp_left (congrArg Prod.snd)
      · rcases List.mem_cons.mp member with rfl | inside
        · exact .inr List.mem_cons_self
        · exact (ih inside).imp_right (List.mem_cons_of_mem _)

variable {σ : Type}

namespace Plan

variable {plan : Plan} {service : Service σ} {base : List Component} {output path : FilePath}
variable {progress last : Progress σ}

theorem not_tellsMalformed_of_fate {tree : FileTree} {claimed : List (String × FilePath)}
    {reason : String} (skipped : plan.fate base tree claimed path = .skipped reason) :
    ¬ TellsMalformed reason := by
  unfold fate at skipped
  simp only at skipped
  split at skipped
  · cases skipped
    exact not_tellsMalformed_takenReason _ _
  · split at skipped
    · rename_i failed
      cases skipped
      exact (tree.symbols_neverMalformed path _).not_told failed
    · cases skipped

theorem Step.neverMalformed {fate : Fate}
    (step : plan.Step service base output path progress fate last)
    (before : progress.report.NeverMalformed) : last.report.NeverMalformed := by
  cases step with
  | @skip reason skipped =>
    intro entry member
    rcases mem_insertReason member with same | earlier
    · exact same ▸ not_tellsMalformed_of_fate skipped
    · exact before entry earlier
  | document => exact before

theorem Runs.neverMalformed {ledger : Ledger}
    (runs : plan.Runs service base output progress ledger last)
    (before : progress.report.NeverMalformed) : last.report.NeverMalformed := by
  induction runs with
  | done => exact before
  | step first _ ih => exact ih (first.neverMalformed before)

theorem run_neverMalformed (plan : Plan) (service : Service σ) (root output : FilePath)
    (tree : FileTree) (state : σ) :
    NeverMalformed (plan.run service root output tree state).1 := by
  unfold run
  split
  · exact nofun
  · split
    · rename_i failure failed
      exact (tree.discover_neverMalformed _ _).error failed
    · split
      · exact nofun
      · split
        · exact nofun
        · exact .ok _

theorem report_neverMalformed {root : FilePath} {tree : FileTree} {state : σ} {report : Report}
    (ran : (plan.run service root output tree state).1 = .ok report) : report.NeverMalformed := by
  have ended : plan.run service root output tree state = (.ok report, _, _) :=
    Prod.ext ran rfl
  obtain ⟨made, ledger, last, -, -, runs, rfl, -⟩ := runs_of_run ended
  exact runs.neverMalformed nofun

end Plan

theorem GenerateOptions.run_neverMalformed (options : GenerateOptions) (environment : Environment)
    (connector : Connector σ) (tree : FileTree) (state : σ) :
    NeverMalformed (options.run environment connector tree state).result := by
  unfold run
  split
  · rename_i failure failed
    exact (options.accept_neverMalformed environment connector tree).error failed
  · rename_i plan service accepted
    have never := plan.run_neverMalformed service options.path plan.settings.output.directory tree
      state
    simp only
    split
    · rename_i failure after final ran
      rw [ran] at never
      exact never.error rfl
    · exact .ok ()

theorem Command.run_neverMalformed (command : Command) (environment : Environment)
    (network : Network σ) (tree : FileTree) (state : σ) :
    NeverMalformed (command.run environment network tree state).result := by
  cases command with
  | generate options => exact options.run_neverMalformed environment network.connector tree state
  | symbols path config =>
    simp only [run, runWith]
    split
    · rename_i failure failed
      exact (tree.symbolsText_neverMalformed path config).error failed
    · exact .ok ()
  | version => exact .ok ()

/-- All definitions of an outline that is read have names, so its symbols are found whether nested
functions are listed or not, and neither a run nor a command tells of a malformed outline. -/
theorem extracted_of_read :
    (∀ source outline, Outline.read source = .ok outline →
      outline.IsNamed ∧ ∀ nested, ∃ found, outline.symbols nested = .ok found) ∧
    (∀ (plan : Plan) (service : Service σ) root output tree state,
      (∀ failure, (plan.run service root output tree state).1 = .error failure →
        ¬ TellsMalformed failure.message) ∧
      ∀ report, (plan.run service root output tree state).1 = .ok report →
        ∀ entry ∈ report.skipped, ¬ TellsMalformed entry.2) ∧
    ∀ (command : Command) environment (network : Network σ) tree state failure,
      (command.run environment network tree state).result = .error failure →
        ¬ TellsMalformed failure.message := by
  refine ⟨?_, ?_, ?_⟩
  · intro source outline read
    have named := Outline.isNamed_of_read read
    exact ⟨named, Outline.symbols_of_isNamed named⟩
  · intro plan service root output tree state
    refine ⟨fun failure => (plan.run_neverMalformed service root output tree state).not_told, ?_⟩
    intro report ran
    exact Plan.report_neverMalformed ran
  · intro command environment network tree state failure
    exact (command.run_neverMalformed environment network tree state).not_told

def innerClass : String :=
  "class A:\n    @b\n    def f(self):\n        if self:\n            class C: pass\n"

theorem read_innerClass : ∃ outline, Outline.read innerClass = .ok outline ∧
    (Statement.withinAll outline).filterMap Statement.name? = ["A", "f", "C"] :=
  Python.exists_of_toOption (by decide +kernel)

theorem extracted_innerClass :
    (∃ outline, Outline.read innerClass = .ok outline ∧ outline.IsNamed ∧
      ∀ nested, ∃ found, outline.symbols nested = .ok found) ∧
    (∀ entry ∈ collidingReport.skipped, ¬ TellsMalformed entry.2) ∧
    (∃ failure, (everyFile.run unsteady "q" "o" collidingTree true).1 = .error failure ∧
      ¬ TellsMalformed failure.message) ∧
    ∃ failure, ((Command.symbols "p" none).run [] .closed collidingTree ()).result =
      .error failure ∧ ¬ TellsMalformed failure.message := by
  obtain ⟨outline, read, -⟩ := read_innerClass
  obtain ⟨after, final, ran⟩ := run_collidingTree
  have missing : (everyFile.run unsteady "q" "o" collidingTree true).1 =
      .error (.pathNotFound "q") := rfl
  have directory : ((Command.symbols "p" none).run [] .closed collidingTree ()).result =
      .error (.pathNotFound "p") := rfl
  refine ⟨⟨outline, read, (@extracted_of_read Unit).1 _ _ read⟩, ?_, ⟨_, missing, ?_⟩,
    ⟨_, directory, ?_⟩⟩
  · exact (extracted_of_read.2.1 everyFile unsteady "p" "o" collidingTree true).2 _ (by rw [ran])
  · exact (extracted_of_read.2.1 everyFile unsteady "q" "o" collidingTree true).1 _ missing
  · exact extracted_of_read.2.2 (.symbols "p" none) [] .closed collidingTree () _ directory

end PythonDocs
