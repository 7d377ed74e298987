import Mathlib.Data.List.Induction
import PythonDocs.Settings.Overrides

namespace PythonDocs

namespace Overrides

def included? (overrides : Overrides) : Option (List String) :=
  if overrides.included = [] then none else some overrides.included

/-- The model that overrides ask for, with the provider that is in force before them: the one they
name, or the default of another provider. -/
def model? (overrides : Overrides) (inForce : Provider) : Option String :=
  match overrides.model, overrides.provider with
  | some model, _ => some model
  | none, some provider => if provider = inForce then none else some provider.defaultModel
  | none, none => none

def lastGiven {α : Type} (given? : Overrides → Option α) (all : List Overrides) (before : α) : α :=
  (all.filterMap given?).getLast?.getD before

theorem lastGiven_snoc {α : Type} (given? : Overrides → Option α) (all : List Overrides)
    (last : Overrides) (before : α) :
    lastGiven given? (all ++ [last]) before =
      (given? last).getD (lastGiven given? all before) := by
  unfold lastGiven
  cases given : given? last <;> simp [List.filterMap_append, given]

theorem lastGiven_of_given {α : Type} {given? : Overrides → Option α} {all : List Overrides}
    {before : α} (kept : α → Prop) (first : kept before)
    (given : ∀ own value, given? own = some value → kept value) :
    kept (lastGiven given? all before) := by
  unfold lastGiven
  cases last : (all.filterMap given?).getLast? with
  | none => exact first
  | some value =>
    obtain ⟨own, -, same⟩ := List.mem_filterMap.mp (List.mem_of_getLast? last)
    exact given own value same

end Overrides

open Overrides (lastGiven)

namespace Settings

def providerAfter (settings : Settings) (overrides : List Overrides) : Provider :=
  lastGiven (·.provider) overrides settings.service.provider

/-- Overrides that ask for no model when their turn comes, behind others. -/
def KeepModel (settings : Settings) (before later : List Overrides) : Prop :=
  ∀ between last rest, later = between ++ last :: rest →
    last.model? (settings.providerAfter (before ++ between)) = none

/-- Where a model comes from: from the last overrides that ask for one, or from the settings. -/
inductive HasModelFrom (settings : Settings) (overrides : List Overrides) : String → Prop
  | asked {before later : List Overrides} {own : Overrides} {model : String}
      (split : overrides = before ++ own :: later)
      (asks : own.model? (settings.providerAfter before) = some model)
      (last : settings.KeepModel (before ++ [own]) later) : HasModelFrom settings overrides model
  | kept (silent : settings.KeepModel [] overrides) :
      HasModelFrom settings overrides settings.service.model

/-- What settings are after some overrides. -/
structure Merged (settings : Settings) (overrides : List Overrides) (final : Settings) :
    Prop where
  directory : final.output.directory = lastGiven (·.output) overrides settings.output.directory
  excluded : final.analysis.excluded = settings.analysis.excluded ++ overrides.flatMap (·.excluded)
  included : final.analysis.included =
    lastGiven Overrides.included? overrides settings.analysis.included
  docstrings : final.output.docstrings = true ↔
    settings.output.docstrings = true ∧ ∀ own ∈ overrides, own.noDocstrings = false
  diagrams : final.output.diagrams = true ↔
    settings.output.diagrams = true ∧ ∀ own ∈ overrides, own.noDiagrams = false
  provider : final.service.provider = settings.providerAfter overrides
  model : settings.HasModelFrom overrides final.service.model
  projectName : final.projectName = settings.projectName
  nested : final.analysis.nested = settings.analysis.nested
  apiUrl : final.service.apiUrl = settings.service.apiUrl
  timeout : final.service.timeout = settings.service.timeout

variable {settings final : Settings} {before later overrides : List Overrides} {last : Overrides}

theorem KeepModel.nil (settings : Settings) (before : List Overrides) :
    settings.KeepModel before [] := by
  intro between last rest nothing
  simp at nothing

theorem KeepModel.snoc (keeps : settings.KeepModel before later)
    (silent : last.model? (settings.providerAfter (before ++ later)) = none) :
    settings.KeepModel before (later ++ [last]) := by
  intro between own rest split
  rcases List.eq_nil_or_concat rest with rfl | ⟨more, final, rfl⟩
  · obtain ⟨rfl, single⟩ := List.append_inj' split rfl
    obtain rfl := List.head_eq_of_cons_eq single
    exact silent
  · rw [List.concat_eq_append, ← List.cons_append, ← List.append_assoc] at split
    exact keeps between own more (List.append_inj' split rfl).1

theorem HasModelFrom.snoc {model : String} (origin : settings.HasModelFrom overrides model)
    (last : Overrides) :
    settings.HasModelFrom (overrides ++ [last])
      ((last.model? (settings.providerAfter overrides)).getD model) := by
  cases asks : last.model? (settings.providerAfter overrides) with
  | some own => exact .asked rfl asks (.nil settings _)
  | none =>
    cases origin with
    | kept silent => exact .kept (silent.snoc asks)
    | @asked before later own model split given silent =>
      subst split
      refine .asked (List.append_assoc ..) given (silent.snoc ?_)
      rwa [List.append_assoc]

theorem service_merge (settings : Settings) (overrides : Overrides) :
    (settings.merge overrides).service.provider =
        overrides.provider.getD settings.service.provider ∧
      (settings.merge overrides).service.model =
        (overrides.model? settings.service.provider).getD settings.service.model ∧
      (settings.merge overrides).service.apiUrl = settings.service.apiUrl ∧
      (settings.merge overrides).service.timeout = settings.service.timeout := by
  unfold merge ServiceSettings.setModel ServiceSettings.setProvider Overrides.model?
  cases overrides.model <;> cases overrides.provider with
  | none => simp
  | some provider => by_cases same : provider = settings.service.provider <;> simp [same]

theorem providerAfter_snoc (settings : Settings) (overrides : List Overrides) (last : Overrides) :
    settings.providerAfter (overrides ++ [last]) =
      last.provider.getD (settings.providerAfter overrides) :=
  Overrides.lastGiven_snoc ..

theorem Merged.merge (merged : settings.Merged overrides final) (last : Overrides) :
    settings.Merged (overrides ++ [last]) (final.merge last) := by
  obtain ⟨provider, model, apiUrl, timeout⟩ := final.service_merge last
  rw [merged.provider] at provider model
  refine
    { directory := ?_, excluded := ?_, included := ?_, docstrings := ?_, diagrams := ?_,
      provider := ?_, model := ?_, projectName := merged.projectName, nested := merged.nested,
      apiUrl := apiUrl.trans merged.apiUrl, timeout := timeout.trans merged.timeout }
  · rw [Overrides.lastGiven_snoc, ← merged.directory]
    rfl
  · simp [Settings.merge, merged.excluded]
  · rw [Overrides.lastGiven_snoc, ← merged.included]
    by_cases empty : last.included = [] <;> simp [Settings.merge, Overrides.included?, empty]
  · simp only [Settings.merge, Bool.and_eq_true, Bool.not_eq_true', merged.docstrings,
      List.forall_mem_append, List.forall_mem_singleton, and_assoc]
  · simp only [Settings.merge, Bool.and_eq_true, Bool.not_eq_true', merged.diagrams,
      List.forall_mem_append, List.forall_mem_singleton, and_assoc]
  · rw [provider, providerAfter_snoc]
  · rw [model]
    exact merged.model.snoc last

theorem Merged.refl (settings : Settings) : settings.Merged [] settings :=
  { directory := rfl, excluded := (List.append_nil _).symm, included := rfl, docstrings := by simp,
    diagrams := by simp, provider := rfl, model := .kept (.nil settings []), projectName := rfl,
    nested := rfl, apiUrl := rfl, timeout := rfl }

theorem Merged.isValid_iff (merged : settings.Merged overrides final) (valid : settings.IsValid) :
    final.IsValid ↔ Text.isBlankText final.service.model = false := by
  have included : final.analysis.included ≠ [] := by
    rw [merged.included]
    apply Overrides.lastGiven_of_given (· ≠ []) valid.1
    intro own included given
    unfold Overrides.included? at given
    split at given
    · cases given
    · rename_i some
      exact Option.some.inj given ▸ some
  have timeout : final.service.timeout ≠ some 0 := merged.timeout ▸ valid.2.2
  exact ⟨fun other => other.2.1, fun model => ⟨included, model, timeout⟩⟩

/-- Settings after any overrides, one after the other. A field has the last value that is given for
it, exclusions add up, and what is switched off stays so. The model is that of the last overrides
that name one or change the provider in force. Settings that can be used stay so, unless their model
becomes blank. -/
theorem merged_foldl (settings : Settings) (overrides : List Overrides) :
    settings.Merged overrides (overrides.foldl merge settings) ∧
      (settings.validate = .ok () → ((overrides.foldl merge settings).validate = .ok () ↔
        Text.isBlankText (overrides.foldl merge settings).service.model = false)) := by
  have merged : settings.Merged overrides (overrides.foldl merge settings) := by
    induction overrides using List.reverseRecOn with
    | nil => exact .refl settings
    | append_singleton before last ih =>
      rw [List.foldl_append]
      exact ih.merge last
  refine ⟨merged, fun valid => ?_⟩
  rw [validate_eq_ok_iff] at valid ⊢
  exact merged.isValid_iff valid

/-- The model of a provider does not come back with the provider. -/
theorem merged_there_and_back :
    let settings : Settings := { service := { model := "own" } }
    let overrides : List Overrides := [{ provider := some .openai }, { provider := some .gemini }]
    let final := overrides.foldl merge settings
    settings.Merged overrides final ∧ settings.validate = .ok () ∧ final.validate = .ok () ∧
      final.service.model = "gemini-1.5-flash" := by
  intro settings overrides final
  obtain ⟨merged, valid⟩ := merged_foldl settings overrides
  have usable : settings.validate = .ok () := by decide
  exact ⟨merged, usable, (valid usable).mpr (by decide), by decide⟩

end Settings

end PythonDocs
