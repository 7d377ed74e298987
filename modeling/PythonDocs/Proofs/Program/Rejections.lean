import PythonDocs.Program
import PythonDocs.Proofs.Run.Steps

namespace PythonDocs

variable {σ : Type}

inductive Plan.Rejects (plan : Plan) (tree : FileTree) (root : FilePath) : Failure → Prop
  | missing (missing : tree.exists? root = false) : Plan.Rejects plan tree root (.pathNotFound root)
  | walk {failure : Failure} (present : tree.exists? root = true)
      (failed : tree.discover plan.selection root = .error failure) :
      Plan.Rejects plan tree root failure

namespace GenerateOptions

/-- A request has passed every check, with this plan and this service. -/
structure Accepts (options : GenerateOptions) (environment : Environment)
    (connector : Connector σ) (tree : FileTree) (plan : Plan) (service : Service σ) : Prop where
  merged : options.merged environment tree = .ok plan.settings
  valid : plan.settings.IsValid
  present : tree.exists? options.path = true
  built : connector plan.settings.service = .ok service
  compiled : Selection.ofSettings plan.settings.analysis = .ok plan.selection

/-- Why a request is turned down: the first check that it does not pass. -/
inductive Rejects (options : GenerateOptions) (environment : Environment)
    (connector : Connector σ) (tree : FileTree) : Failure → Prop
  | config {failure : Failure} (unread : tree.chosenSettings options.config = .error failure) :
      Rejects options environment connector tree failure
  | provider {settings : Settings} {name : String} {problem : InvalidSettings}
      (read : tree.chosenSettings options.config = .ok settings)
      (named : options.provider = some name) (unknown : findProvider name = .error problem) :
      Rejects options environment connector tree (.settings (.invalid problem))
  | crash {settings : Settings} {overrides : Overrides}
      (read : tree.chosenSettings options.config = .ok settings)
      (overridden : options.overrides = .ok overrides) (crashes : environment.loadFrom tree = none) :
      Rejects options environment connector tree .crash
  | settings {settings : Settings} {problem : InvalidSettings}
      (merged : options.merged environment tree = .ok settings)
      (invalid : settings.validate = .error problem) :
      Rejects options environment connector tree (.settings (.invalid problem))
  | path {settings : Settings} (merged : options.merged environment tree = .ok settings)
      (valid : settings.IsValid) (missing : tree.exists? options.path = false) :
      Rejects options environment connector tree (.pathNotFound options.path)
  | client {settings : Settings} {error : LlmError}
      (merged : options.merged environment tree = .ok settings) (valid : settings.IsValid)
      (present : tree.exists? options.path = true)
      (failed : connector settings.service = .error error) :
      Rejects options environment connector tree (.service error)
  | pattern {settings : Settings} {service : Service σ} {problem : Glob.Problem}
      (merged : options.merged environment tree = .ok settings) (valid : settings.IsValid)
      (present : tree.exists? options.path = true)
      (built : connector settings.service = .ok service)
      (bad : Selection.ofSettings settings.analysis = .error problem) :
      Rejects options environment connector tree (.pattern problem)
  | run {plan : Plan} {service : Service σ} {failure : Failure}
      (accepts : options.Accepts environment connector tree plan service)
      (rejects : plan.Rejects tree options.path failure) :
      Rejects options environment connector tree failure

end GenerateOptions

namespace Plan

variable {plan : Plan} {service : Service σ} {root output : FilePath} {tree : FileTree}
variable {state : σ} {failure : Failure}

theorem run_of_rejects (rejects : plan.Rejects tree root failure) :
    plan.run service root output tree state = (.error failure, tree, state) := by
  cases rejects with
  | missing missing => simp [run, missing]
  | walk present failed => simp [run, present, failed]

theorem rejects_or_os (failed : (plan.run service root output tree state).1 = .error failure) :
    plan.Rejects tree root failure ∨ ∃ cause, failure = .os cause := by
  unfold run at failed
  split at failed
  · rename_i missing
    cases failed
    exact .inl (.missing (by simpa using missing))
  · rename_i present
    split at failed
    · rename_i walked
      cases failed
      exact .inl (.walk (by simpa using present) walked)
    · split at failed
      · cases failed
        exact .inr ⟨_, rfl⟩
      · split at failed
        · cases failed
          exact .inr ⟨_, rfl⟩
        · cases failed

end Plan

namespace GenerateOptions

variable {options : GenerateOptions} {environment : Environment} {connector : Connector σ}
variable {tree : FileTree} {failure : Failure}

theorem overrides_eq_error_iff {problem : InvalidSettings} :
    options.overrides = .error problem ↔
      ∃ name, options.provider = some name ∧ findProvider name = .error problem := by
  unfold overrides
  cases options.provider with
  | none => simp [pure, Except.pure, bind, Except.bind]
  | some name =>
    cases found : findProvider name <;>
      simp [found, pure, Except.pure, bind, Except.bind, Functor.map, Except.map]

theorem accept_of_accepts {plan : Plan} {service : Service σ}
    (accepts : options.Accepts environment connector tree plan service) :
    options.accept environment connector tree = .ok (plan, service) := by
  simp [accept, accepts.merged, Settings.validate_eq_ok_iff.mpr accepts.valid, accepts.present,
    accepts.built, Plan.ofSettings, accepts.compiled, bind, Except.bind, pure, Except.pure,
    Except.mapError]

theorem accept_of_rejects (rejects : options.Rejects environment connector tree failure) :
    options.accept environment connector tree = .error failure ∨
      ∃ plan service, options.Accepts environment connector tree plan service ∧
        plan.Rejects tree options.path failure := by
  have checked {settings : Settings} (valid : settings.IsValid) : settings.validate = .ok () :=
    Settings.validate_eq_ok_iff.mpr valid
  cases rejects with
  | config unread => exact .inl (by simp [accept, merged, unread, bind, Except.bind])
  | provider read named unknown =>
    have found := overrides_eq_error_iff.mpr ⟨_, named, unknown⟩
    exact .inl (by simp [accept, merged, read, found, bind, Except.bind, Except.mapError])
  | crash read overridden crashes =>
    exact .inl (by
      simp [accept, merged, read, overridden, crashes, bind, Except.bind, Except.mapError])
  | settings merged invalid =>
    exact .inl (by simp [accept, merged, invalid, bind, Except.bind, Except.mapError])
  | path merged valid missing =>
    exact .inl (by
      simp [accept, merged, checked valid, missing, bind, Except.bind, Except.mapError])
  | client merged valid present failed =>
    exact .inl (by
      simp [accept, merged, checked valid, present, failed, bind, Except.bind, Except.mapError])
  | pattern merged valid present built bad =>
    exact .inl (by
      simp [accept, merged, checked valid, present, built, Plan.ofSettings, bad, bind, Except.bind,
        Except.mapError])
  | run accepts rejects => exact .inr ⟨_, _, accepts, rejects⟩

theorem accepts_or_rejects_of_merged {settings : Settings}
    (merged : options.merged environment tree = .ok settings) (connector : Connector σ) :
    (∃ plan service, options.Accepts environment connector tree plan service) ∨
      ∃ failure, options.Rejects environment connector tree failure := by
  cases checked : settings.validate with
  | error problem => exact .inr ⟨_, .settings merged checked⟩
  | ok _ =>
    have valid := Settings.validate_eq_ok_iff.mp checked
    cases present : tree.exists? options.path with
    | false => exact .inr ⟨_, .path merged valid present⟩
    | true =>
      cases built : connector settings.service with
      | error error => exact .inr ⟨_, .client merged valid present built⟩
      | ok service =>
        cases compiled : Selection.ofSettings settings.analysis with
        | error problem => exact .inr ⟨_, .pattern merged valid present built compiled⟩
        | ok selection =>
          exact .inl ⟨⟨settings, selection⟩, service, merged, valid, present, built, compiled⟩

theorem accepts_or_rejects (options : GenerateOptions) (environment : Environment)
    (connector : Connector σ) (tree : FileTree) :
    (∃ plan service, options.Accepts environment connector tree plan service) ∨
      ∃ failure, options.Rejects environment connector tree failure := by
  cases read : tree.chosenSettings options.config with
  | error failure => exact .inr ⟨failure, .config read⟩
  | ok base =>
    cases found : options.overrides with
    | error problem =>
      obtain ⟨name, named, unknown⟩ := overrides_eq_error_iff.mp found
      exact .inr ⟨_, .provider read named unknown⟩
    | ok overrides =>
      cases kept : environment.loadFrom tree with
      | none => exact .inr ⟨_, .crash read found kept⟩
      | some loaded =>
        have merged : options.merged environment tree =
            .ok ((base.merge overrides).fillKey loaded) := by
          simp [merged, read, found, kept, bind, Except.bind, pure, Except.pure, Except.mapError]
        exact accepts_or_rejects_of_merged merged connector

theorem run_of_rejects (state : σ)
    (rejects : options.Rejects environment connector tree failure) :
    (options.run environment connector tree state).result = .error failure ∧
      (options.run environment connector tree state).tree = tree ∧
      (options.run environment connector tree state).network = state := by
  rcases accept_of_rejects rejects with refused | ⟨plan, service, accepts, stopped⟩
  · simp [run, refused]
  · simp [run, accept_of_accepts accepts, Plan.run_of_rejects stopped]

theorem rejects_of_run {state : σ}
    (failed : (options.run environment connector tree state).result = .error failure) :
    options.Rejects environment connector tree failure ∨
      ∃ plan service cause, options.Accepts environment connector tree plan service ∧
        failure = .os cause := by
  rcases options.accepts_or_rejects environment connector tree with
    ⟨plan, service, accepts⟩ | ⟨other, rejects⟩
  · have ran : (plan.run service options.path plan.settings.output.directory tree state).1 =
        .error failure := by
      simp only [run, accept_of_accepts accepts] at failed
      split at failed
      · rename_i ended
        cases failed
        rw [ended]
      · cases failed
    rcases Plan.rejects_or_os ran with stopped | ⟨cause, same⟩
    · exact .inl (.run accepts stopped)
    · exact .inr ⟨plan, service, cause, accepts, same⟩
  · obtain rfl : other = failure :=
      Except.error.inj ((run_of_rejects state rejects).1.symm.trans failed)
    exact .inl rejects

end GenerateOptions

/-- A request that is rejected leaves the tree and the service as they are, and so does a run that
does not begin; any other failure is one of the system, behind all checks. The commands that only
print change nothing either way. The state may hold the prompts of the service, so it got none. -/
theorem untouched_of_rejects :
    (∀ (options : GenerateOptions) environment (connector : Connector σ) tree state failure,
      let outcome := (Command.generate options).runWith environment connector tree state
      (options.Rejects environment connector tree failure →
        outcome.result = .error failure ∧ outcome.tree = tree ∧ outcome.network = state) ∧
      (outcome.result = .error failure → options.Rejects environment connector tree failure ∨
        ∃ plan service cause, options.Accepts environment connector tree plan service ∧
          failure = .os cause)) ∧
    (∀ (plan : Plan) (service : Service σ) root output tree state failure,
      (plan.Rejects tree root failure →
        plan.run service root output tree state = (.error failure, tree, state)) ∧
      ((plan.run service root output tree state).1 = .error failure →
        plan.Rejects tree root failure ∨ ∃ cause, failure = .os cause)) ∧
    ∀ (command : Command) environment (connector : Connector σ) tree state,
      (∀ options, command ≠ .generate options) →
      (command.runWith environment connector tree state).tree = tree ∧
      (command.runWith environment connector tree state).network = state := by
  refine ⟨?_, ?_, ?_⟩
  · intro options environment connector tree state failure
    exact ⟨options.run_of_rejects state, options.rejects_of_run⟩
  · intro plan service root output tree state failure
    exact ⟨Plan.run_of_rejects, Plan.rejects_or_os⟩
  · intro command environment connector tree state quiet
    cases command with
    | generate options => exact absurd rfl (quiet options)
    | symbols path config =>
      simp only [Command.runWith]
      split <;> exact ⟨rfl, rfl⟩
    | version => exact ⟨rfl, rfl⟩

def keeping : Connector (Bool × List String) := fun _ => .ok unsteady.recorded

theorem untouched_collidingTree :
    (let outcome := (Command.generate { path := "p", provider := some "bard" }).runWith [] keeping
        collidingTree (true, [])
     outcome.result = .error (.settings (.invalid (.unknownProvider "bard"))) ∧
       outcome.tree = collidingTree ∧ outcome.network = (true, [])) ∧
    (let outcome := (Command.generate { path := "p", excluded := ["a**"] }).runWith [] keeping
        collidingTree (true, [])
     outcome.result = .error (.pattern (.partOfComponent 0)) ∧
       outcome.tree = collidingTree ∧ outcome.network = (true, [])) ∧
    (everyFile.run unsteady "q" "o" collidingTree true =
      (.error (.pathNotFound "q"), collidingTree, true)) ∧
    (let outcome := (Command.symbols "p" none).runWith [] keeping collidingTree (true, [])
     outcome.tree = collidingTree ∧ outcome.network = (true, [])) := by
  refine ⟨?_, ?_, ?_, ?_⟩
  · apply (untouched_of_rejects.1 _ _ _ _ _ _).1
    exact .provider rfl rfl rfl
  · apply (untouched_of_rejects.1 _ _ _ _ _ _).1
    exact .pattern rfl (Settings.validate_eq_ok_iff.mp rfl) rfl rfl rfl
  · exact (untouched_of_rejects.2.1 _ _ _ _ _ _ _).1 (.missing rfl)
  · exact untouched_of_rejects.2.2 _ _ _ _ _ nofun

end PythonDocs
