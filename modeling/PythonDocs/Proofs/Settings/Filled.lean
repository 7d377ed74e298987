import PythonDocs.Proofs.Environment.Assigned
import PythonDocs.Proofs.Settings.Key

namespace PythonDocs

def FileTree.assignments (tree : FileTree) (environment : Environment) : List (String × String) :=
  match tree.assignmentsFile? with
  | some bytes => environment.assignedIn bytes
  | none => []

namespace Environment

variable {environment after : Environment} {tree : FileTree}

theorem isSettable_eq_false_iff {value : String} :
    isSettable value = false ↔ '\x00' ∈ value.toList := by
  simp [isSettable]

theorem not_setsAll_iff {assignments : List (String × String)} :
    ¬ environment.SetsAll assignments ↔ ∃ name value, environment.get? name = none ∧
      assignments.lookup name = some value ∧ '\x00' ∈ value.toList := by
  simp only [SetsAll, not_forall, ← isSettable_eq_false_iff, Bool.not_eq_true, exists_prop]

theorem loadFrom_eq_none_iff (environment : Environment) (tree : FileTree) :
    environment.loadFrom tree = none ↔ ¬ environment.SetsAll (tree.assignments environment) := by
  unfold loadFrom FileTree.assignments
  cases tree.assignmentsFile? with
  | none => exact iff_of_false nofun (not_not_intro (setsAll_nil environment))
  | some bytes => exact environment.load_eq_none_iff bytes

theorem get?_loadFrom (loaded : environment.loadFrom tree = some after) (name : String) :
    after.get? name = (environment ++ tree.assignments environment).get? name := by
  unfold loadFrom at loaded
  unfold FileTree.assignments
  cases found : tree.assignmentsFile? with
  | none =>
    rw [found, Option.some_inj] at loaded
    rw [List.append_nil, loaded]
  | some bytes =>
    rw [found] at loaded
    exact get?_load loaded name

theorem loadFrom_loadFrom (loaded : environment.loadFrom tree = some after) :
    after.loadFrom tree = some after := by
  unfold loadFrom at loaded ⊢
  cases found : tree.assignmentsFile? with
  | none => rfl
  | some bytes =>
    rw [found] at loaded
    exact load_load loaded

end Environment

namespace Settings

theorem fillKey_keeps (settings : Settings) (environment : Environment) :
    { settings.fillKey environment with
      service := { (settings.fillKey environment).service with
        apiKey := settings.service.apiKey } } = settings := by
  unfold fillKey
  split <;> rfl

theorem fillKey_fillKey (settings : Settings) (environment : Environment) :
    (settings.fillKey environment).fillKey environment = settings.fillKey environment := by
  cases given : settings.service.apiKey with
  | some key => simp only [fillKey, given]
  | none =>
    simp only [fillKey, given]
    split
    · rfl
    · rename_i unset
      rw [unset]

end Settings

namespace Session

variable {session : Session} {tree : FileTree} {environment : Environment}

theorem crashed_fillKey (session : Session) (tree : FileTree) :
    (session.apply (.fillKey tree)).crashed = true ↔
      session.crashed = true ∨ session.environment.loadFrom tree = none := by
  rcases Bool.eq_false_or_eq_true session.crashed with crashed | running
  · rw [apply_of_crashed crashed]
    exact iff_of_true crashed (.inl crashed)
  · cases loaded : session.environment.loadFrom tree with
    | none => simp [apply_fillKey_crashed running loaded]
    | some environment => simp [apply_fillKey_loaded running loaded, running]

theorem key_fillKey (unset : session.key = none) (running : session.crashed = false)
    (loaded : session.environment.loadFrom tree = some environment) (key : String) :
    (session.apply (.fillKey tree)).key = some key ↔
      key ≠ "" ∧ ∃ name, session.provider.keyVariable? = some name ∧
        (session.apply (.fillKey tree)).environment.get? name = some key := by
  rw [Session.key] at unset
  rw [apply_fillKey_loaded running loaded, Session.key, Settings.fillKey_key, unset,
    Option.none_or, Option.filter_eq_some_iff, Option.bind_eq_some_iff, decide_eq_true_iff,
    and_comm]
  rfl

theorem apply_fillKey_twice (session : Session) (tree : FileTree) :
    (session.apply (.fillKey tree)).apply (.fillKey tree) = session.apply (.fillKey tree) := by
  rcases session.apply_fillKey_cases tree with
    ⟨crashed, -⟩ | ⟨environment, running, loaded, filled⟩
  · exact apply_of_crashed crashed _
  · have survives : (session.apply (.fillKey tree)).crashed = false := by rw [filled, running]
    have again : (session.apply (.fillKey tree)).environment.loadFrom tree = some environment := by
      rw [filled]
      exact Environment.loadFrom_loadFrom loaded
    rw [apply_fillKey_loaded survives again, filled, Settings.fillKey_fillKey]

theorem fillKey_frame (session : Session) (tree : FileTree) :
    { (session.apply (.fillKey tree)).settings with
      service := { (session.apply (.fillKey tree)).settings.service with
        apiKey := session.key } } = session.settings := by
  rcases session.apply_fillKey_cases tree with ⟨-, kept⟩ | ⟨environment, -, -, filled⟩
  · rw [kept]
    rfl
  · rw [filled]
    exact Settings.fillKey_keeps _ _

/-- Filling in the key changes no other setting, and the key only where there is none. The program
crashes exactly if the first assignment to a variable without a value holds a NUL, and then the
settings are what they were. Otherwise there is a key afterwards exactly if the provider has a
variable whose value is not empty, where a variable is what it was before, or else the first that the
file assigns to it, up to the first line that cannot be read. A second time changes nothing. -/
theorem fillKey_once (session : Session) (tree : FileTree) :
    let after := session.apply (.fillKey tree)
    { after.settings with
        service := { after.settings.service with apiKey := session.key } } = session.settings ∧
      (∀ key, session.key = some key → after.settings = session.settings) ∧
      (after.crashed = true ↔ session.crashed = true ∨ ∃ name value,
        session.environment.get? name = none ∧
        (tree.assignments session.environment).lookup name = some value ∧
        '\x00' ∈ value.toList) ∧
      (after.crashed = true → after.settings = session.settings) ∧
      (after.crashed = false →
        (session.key = none → ∀ key, after.key = some key ↔
          key ≠ "" ∧ ∃ name, session.provider.keyVariable? = some name ∧
            after.environment.get? name = some key) ∧
        ∀ name, after.environment.get? name =
          (session.environment ++ tree.assignments session.environment).get? name) ∧
      after.apply (.fillKey tree) = after := by
  intro after
  refine ⟨session.fillKey_frame tree, fun key given => apply_fillKey_of_key given tree, ?_, ?_, ?_,
    session.apply_fillKey_twice tree⟩
  · rw [← Environment.not_setsAll_iff, ← Environment.loadFrom_eq_none_iff]
    exact session.crashed_fillKey tree
  · intro crashed
    rcases session.apply_fillKey_cases tree with ⟨-, kept⟩ | ⟨environment, running, -, filled⟩
    · exact kept
    · rw [show after = _ from filled, running] at crashed
      cases crashed
  · intro survives
    rcases session.apply_fillKey_cases tree with
      ⟨crashed, -⟩ | ⟨environment, running, loaded, filled⟩
    · rw [show after.crashed = true from crashed] at survives
      cases survives
    · refine ⟨fun unset => key_fillKey unset running loaded, fun name => ?_⟩
      rw [show after = _ from filled]
      exact Environment.get?_loadFrom loaded name

def brokenTree : FileTree where
  nodes := [([".env"], .file (Text.encode
    "A=1\nOPENAI_API_KEY=$A$B-x # first\nOPENAI_API_KEY=2\nB=3\nC\nD=4\n".toList)),
    (["work"], .directory)]
  here := ["work"]

def unkeyed : Session where
  settings := { service := { provider := .openai } }
  environment := [("B", "")]

theorem brokenTree_filled :
    (unkeyed.apply (.fillKey brokenTree)).crashed = false ∧
      (unkeyed.apply (.fillKey brokenTree)).key = some "1-x" ∧
      (unkeyed.apply (.fillKey brokenTree)).environment.get? "B" = some "" ∧
      (unkeyed.apply (.fillKey brokenTree)).environment.get? "D" = none ∧
      (unkeyed.apply (.fillKey brokenTree)).apply (.fillKey brokenTree) =
        unkeyed.apply (.fillKey brokenTree) := by
  obtain ⟨-, -, -, -, ran, again⟩ := fillKey_once unkeyed brokenTree
  have survives : (unkeyed.apply (.fillKey brokenTree)).crashed = false := by decide +kernel
  obtain ⟨filled, loaded⟩ := ran survives
  have value : (unkeyed.apply (.fillKey brokenTree)).environment.get? "OPENAI_API_KEY" =
      some "1-x" := by
    rw [loaded]
    decide +kernel
  refine ⟨survives, (filled rfl "1-x").mpr ⟨by decide, "OPENAI_API_KEY", rfl, value⟩, ?_, ?_, again⟩
  · rw [loaded]
    decide +kernel
  · rw [loaded]
    decide +kernel

def severedTree : FileTree where
  nodes := [([".env"], .file (Text.encode "OPENAI_API_KEY=a\x00b\n".toList))]

theorem severedTree_crashes :
    (unkeyed.apply (.fillKey severedTree)).crashed = true ∧
      severedTree.assignments unkeyed.environment = [("OPENAI_API_KEY", "a\x00b")] := by
  decide +kernel

end Session

end PythonDocs
