import Mathlib.Data.List.Induction
import PythonDocs.Environment.Load
import PythonDocs.Settings.Overrides

namespace PythonDocs

namespace ServiceSettings

theorem setModel_keeps (settings : ServiceSettings) (model : Option String) :
    (settings.setModel model).provider = settings.provider ∧
      (settings.setModel model).apiKey = settings.apiKey := by
  cases model <;> exact ⟨rfl, rfl⟩

theorem setProvider_drops (settings : ServiceSettings) (provider : Option Provider) :
    (settings.setProvider provider).provider = provider.getD settings.provider ∧
      (settings.setProvider provider).apiKey =
        if (settings.setProvider provider).provider = settings.provider then settings.apiKey
        else none := by
  cases provider with
  | none => simp [setProvider]
  | some other => by_cases same : other = settings.provider <;> simp [setProvider, same]

end ServiceSettings

inductive SettingsChange
  | merge (overrides : Overrides)
  | fillKey (tree : FileTree)

structure Session where
  settings : Settings
  environment : Environment
  /-- Whether the program has crashed in an attempt to set a variable. -/
  crashed : Bool := false

namespace Session

def provider (session : Session) : Provider := session.settings.service.provider

def key (session : Session) : Option String := session.settings.service.apiKey

def apply (session : Session) (change : SettingsChange) : Session :=
  if session.crashed then session
  else
    match change with
    | .merge overrides => { session with settings := session.settings.merge overrides }
    | .fillKey tree =>
      match session.environment.loadFrom tree with
      | some environment =>
        { session with settings := session.settings.fillKey environment, environment }
      | none => { session with crashed := true }

def run (session : Session) (changes : List SettingsChange) : Session := changes.foldl apply session

def KeepsProvider (session : Session) (changes : List SettingsChange) : Prop :=
  ∀ before, before <+: changes → (session.run before).provider = session.provider

/-- Where the key after some changes was first: in the settings, for their provider and all
along, or in the environment, in the variable of the provider that stayed from then on. -/
inductive HasKeyFrom (session : Session) (changes : List SettingsChange) (key : String) : Prop
  | settings (given : session.key = some key) (kept : session.KeepsProvider changes)
  | environment {before after : List SettingsChange} {tree : FileTree} {name : String}
      {environment : Environment}
      (split : changes = before ++ .fillKey tree :: after)
      (kept : (session.run (before ++ [.fillKey tree])).KeepsProvider after)
      (own : (session.run changes).provider.keyVariable? = some name)
      (loaded : (session.run before).environment.loadFrom tree = some environment)
      (value : environment.get? name = some key)
      (filled : key ≠ "")

variable {session : Session} {changes : List SettingsChange} {change : SettingsChange}

theorem run_append (session : Session) (first second : List SettingsChange) :
    session.run (first ++ second) = (session.run first).run second := List.foldl_append

theorem run_snoc (session : Session) (before : List SettingsChange) (change : SettingsChange) :
    session.run (before ++ [change]) = (session.run before).apply change := by
  rw [run_append]
  rfl

theorem KeepsProvider.nil (session : Session) : session.KeepsProvider [] := by
  intro before start
  rw [List.prefix_nil.mp start]
  rfl

theorem KeepsProvider.final (kept : session.KeepsProvider changes) :
    (session.run changes).provider = session.provider := kept changes (List.prefix_refl _)

theorem KeepsProvider.snoc (kept : session.KeepsProvider changes)
    (still : ((session.run changes).apply change).provider = (session.run changes).provider) :
    session.KeepsProvider (changes ++ [change]) := by
  intro before start
  rcases List.prefix_concat_iff.mp start with rfl | start
  · rw [run_snoc, still, kept.final]
  · exact kept before start

theorem apply_of_crashed (crashed : session.crashed = true) (change : SettingsChange) :
    session.apply change = session := if_pos crashed

theorem apply_merge (running : session.crashed = false) (overrides : Overrides) :
    (session.apply (.merge overrides)).provider = overrides.provider.getD session.provider ∧
      (session.apply (.merge overrides)).key =
        if (session.apply (.merge overrides)).provider = session.provider then session.key
        else none := by
  obtain ⟨provider, key⟩ := ServiceSettings.setModel_keeps
    (session.settings.service.setProvider overrides.provider) overrides.model
  simp only [apply, running, Bool.false_eq_true, ↓reduceIte, Session.provider, Session.key,
    Settings.merge, provider, key]
  exact ServiceSettings.setProvider_drops _ _

theorem key_merge (session : Session) (overrides : Overrides) :
    (session.apply (.merge overrides)).key =
      if (session.apply (.merge overrides)).provider = session.provider then session.key
      else none := by
  cases crashed : session.crashed with
  | false => exact (apply_merge crashed overrides).2
  | true => rw [apply_of_crashed crashed, if_pos rfl]

theorem apply_fillKey_loaded (running : session.crashed = false) {tree : FileTree}
    {environment : Environment} (loaded : session.environment.loadFrom tree = some environment) :
    session.apply (.fillKey tree) =
      { session with settings := session.settings.fillKey environment, environment } := by
  simp [apply, running, loaded]

theorem apply_fillKey_crashed (running : session.crashed = false) {tree : FileTree}
    (crashes : session.environment.loadFrom tree = none) :
    session.apply (.fillKey tree) = { session with crashed := true } := by
  simp [apply, running, crashes]

theorem apply_fillKey_cases (session : Session) (tree : FileTree) :
    ((session.apply (.fillKey tree)).crashed = true ∧
      (session.apply (.fillKey tree)).settings = session.settings) ∨
    ∃ environment, session.crashed = false ∧ session.environment.loadFrom tree = some environment ∧
      session.apply (.fillKey tree) =
        { session with settings := session.settings.fillKey environment, environment } := by
  rcases Bool.eq_false_or_eq_true session.crashed with crashed | running
  · rw [apply_of_crashed crashed]
    exact .inl ⟨crashed, rfl⟩
  · cases loaded : session.environment.loadFrom tree with
    | none =>
      rw [apply_fillKey_crashed running loaded]
      exact .inl ⟨rfl, rfl⟩
    | some environment =>
      exact .inr ⟨environment, running, rfl, apply_fillKey_loaded running loaded⟩

end Session

namespace Settings

variable (settings : Settings) (environment : Environment)

theorem fillKey_provider :
    (settings.fillKey environment).service.provider = settings.service.provider := by
  unfold fillKey
  split <;> rfl

theorem fillKey_key : (settings.fillKey environment).service.apiKey =
    settings.service.apiKey.or
      ((settings.service.provider.keyVariable?.bind environment.get?).filter (· ≠ "")) := by
  unfold fillKey
  cases given : settings.service.apiKey with
  | none => rfl
  | some key => exact given

theorem fillKey_of_key {key : String} (given : settings.service.apiKey = some key) :
    settings.fillKey environment = settings := by
  simp only [fillKey, given]

end Settings

namespace Session

variable {session : Session} {changes : List SettingsChange} {change : SettingsChange}

theorem provider_fillKey (session : Session) (tree : FileTree) :
    (session.apply (.fillKey tree)).provider = session.provider := by
  rcases session.apply_fillKey_cases tree with ⟨-, kept⟩ | ⟨environment, -, -, filled⟩
  · rw [provider, provider, kept]
  · rw [filled]
    exact Settings.fillKey_provider _ _

theorem apply_fillKey_of_key {key : String} (given : session.key = some key) (tree : FileTree) :
    (session.apply (.fillKey tree)).settings = session.settings := by
  rcases session.apply_fillKey_cases tree with ⟨-, kept⟩ | ⟨environment, -, -, filled⟩
  · exact kept
  · rw [filled]
    exact Settings.fillKey_of_key _ _ given

theorem key_of_fillKey {tree : FileTree} {key : String}
    (final : (session.apply (.fillKey tree)).key = some key) :
    session.key = some key ∨ ∃ environment name,
      session.environment.loadFrom tree = some environment ∧
      session.provider.keyVariable? = some name ∧ environment.get? name = some key ∧ key ≠ "" := by
  rcases session.apply_fillKey_cases tree with ⟨-, kept⟩ | ⟨environment, -, loaded, filled⟩
  · rw [Session.key, kept] at final
    exact .inl final
  · rw [filled, Session.key, Settings.fillKey_key] at final
    cases given : session.key with
    | some old =>
      rw [Session.key] at given
      rw [given, Option.some_or] at final
      exact .inl final
    | none =>
      rw [Session.key] at given
      rw [given, Option.none_or, Option.filter_eq_some_iff] at final
      obtain ⟨found, notEmpty⟩ := final
      obtain ⟨name, own, value⟩ := Option.bind_eq_some_iff.mp found
      exact .inr ⟨environment, name, loaded, own, value, of_decide_eq_true notEmpty⟩

theorem HasKeyFrom.snoc {key : String} (origin : session.HasKeyFrom changes key)
    (still : ((session.run changes).apply change).provider = (session.run changes).provider) :
    session.HasKeyFrom (changes ++ [change]) key := by
  cases origin with
  | settings given kept => exact .settings given (kept.snoc still)
  | @environment before after tree name environment split kept own loaded value filled =>
    have reached : (session.run (before ++ [.fillKey tree])).run after = session.run changes := by
      rw [← run_append, split, List.append_assoc, List.singleton_append]
    have longer : changes ++ [change] = before ++ .fillKey tree :: (after ++ [change]) := by
      rw [split, List.append_assoc, List.cons_append]
    refine .environment longer (kept.snoc ?_) ?_ loaded value filled
    · rw [reached, still]
    · rw [run_snoc, still, own]

theorem key_run {key : String} (final : (session.run changes).key = some key) :
    session.HasKeyFrom changes key := by
  induction changes using List.reverseRecOn with
  | nil => exact .settings final (.nil session)
  | append_singleton before change ih =>
    rw [run_snoc] at final
    cases change with
    | merge overrides =>
      rw [key_merge] at final
      split at final
      · rename_i still
        exact (ih final).snoc still
      · cases final
    | fillKey tree =>
      have still := (session.run before).provider_fillKey tree
      rcases key_of_fillKey final with given | ⟨environment, name, loaded, own, value, notEmpty⟩
      · exact (ih given).snoc still
      · refine .environment rfl (.nil _) ?_ loaded value notEmpty
        rw [run_snoc, still]
        exact own

/-- A key at the end of any changes was there at the start, and the provider stayed the same, or it
was read from the variable of the final provider after the last change of the provider. A change of
the provider drops the key, and going back does not bring it back; overrides that name the provider
again keep it, and the environment does not replace it. -/
theorem key_origin (session : Session) (changes : List SettingsChange) :
    (∀ key, (session.run changes).key = some key → session.HasKeyFrom changes key) ∧
      (∀ away back, (session.run (changes ++ [.merge away])).provider ≠
          (session.run changes).provider →
        (session.run (changes ++ [.merge away, .merge back])).key = none) ∧
      (∀ overrides, overrides.provider = some (session.run changes).provider →
        (session.run (changes ++ [.merge overrides])).key = (session.run changes).key) ∧
      ∀ key tree, (session.run changes).key = some key →
        (session.run (changes ++ [.fillKey tree])).settings = (session.run changes).settings := by
  refine ⟨fun _ => key_run, ?_, ?_, ?_⟩
  · intro away back switched
    rw [run_snoc] at switched
    rw [← List.singleton_append, ← List.append_assoc, run_snoc, run_snoc]
    have dropped : ((session.run changes).apply (.merge away)).key = none := by
      rw [key_merge, if_neg switched]
    rw [key_merge, dropped, ite_self]
  · intro overrides again
    rw [run_snoc]
    cases crashed : (session.run changes).crashed with
    | true => rw [apply_of_crashed crashed]
    | false =>
      obtain ⟨provider, key⟩ := apply_merge crashed overrides
      rw [again, Option.getD_some] at provider
      rw [key, if_pos provider]
  · intro key tree given
    rw [run_snoc, apply_fillKey_of_key given]

example :
    (run { settings := { service := { apiKey := some "old" } }
           environment := [("GOOGLE_API_KEY", "new")] }
      [.merge { provider := some .openai }, .merge { provider := some .gemini },
        .fillKey {}]).key = some "new" := by
  decide +kernel

end Session

end PythonDocs
