import PythonDocs.Settings.Overrides
import PythonDocs.Source

namespace PythonDocs

open Toml

namespace Settings

def gives {α : Type} (fields : FieldReader α) (name : String) : Item → Bool
  | .table entries _ _ => entries.any (·.1.name = name)
  | .array items _ _ => (fields.take items.length).any (·.1 = name)
  | .scalar .. => false

def namesModel (source : String) : Bool :=
  ((Toml.read? source.toList).getD []).any fun entry =>
    entry.1.name = "llm" && gives serviceFields "model" entry.2

theorem located_eq_ok_iff {α : Type} {span : Option Span} {result : Except ShapeError α}
    {value : α} : located span result = .ok value ↔ result = .ok value := by
  cases result with
  | error problem => exact ⟨nofun, nofun⟩
  | ok other => exact Iff.rfl

section

variable {α : Type} {fields : FieldReader α} (kept : α → Prop) {first last : α}

theorem readEntries_keeps {entries : Entries} (read : readEntries fields first entries = .ok last)
    (holds : kept first)
    (keeps : ∀ entry ∈ entries, ∀ reader, fields.lookup entry.1.name = some reader →
      ∀ before after, reader before entry.2 = .ok after → kept before → kept after) :
    kept last := by
  induction entries generalizing first with
  | nil =>
    cases read
    exact holds
  | cons entry rest ih =>
    have later := fun other member => keeps other (List.mem_cons_of_mem entry member)
    rw [readEntries] at read
    cases known : fields.lookup entry.1.name with
    | none =>
      rw [known] at read
      exact ih read holds later
    | some reader =>
      rw [known] at read
      dsimp only at read
      cases changed : reader first entry.2 with
      | error problem =>
        rw [changed] at read
        cases read
      | ok next =>
        rw [changed] at read
        have still := keeps entry List.mem_cons_self reader known first next changed holds
        exact ih read still later

theorem readItems_keeps {items : List Item} (read : readItems fields first items = .ok last)
    (holds : kept first)
    (keeps : ∀ field ∈ fields.take items.length,
      ∀ before item after, field.2 before item = .ok after → kept before → kept after) :
    kept last := by
  induction items generalizing fields first with
  | nil =>
    cases fields <;>
    · cases read
      exact holds
  | cons item rest ih =>
    cases fields with
    | nil =>
      cases read
      exact holds
    | cons field fields =>
      rw [readItems] at read
      cases changed : field.2 first item with
      | error problem =>
        rw [changed] at read
        cases read
      | ok next =>
        rw [changed] at read
        refine ih read (keeps field (by simp) first item next changed holds) ?_
        intro other member
        exact keeps other (by simp [member])

/-- A table that does not give a field keeps what the readers of all other fields keep. -/
theorem readTable_keeps {name hidden : String} {item : Item}
    (read : readTable name fields first item = .ok last) (holds : kept first)
    (silent : gives fields hidden item = false)
    (keeps : ∀ field ∈ fields, field.1 ≠ hidden →
      ∀ before item after, field.2 before item = .ok after → kept before → kept after) :
    kept last := by
  cases item with
  | table entries span origin =>
    refine readEntries_keeps kept (located_eq_ok_iff.mp read) holds ?_
    intro entry member reader known before after changed
    obtain ⟨earlier, later, split, -⟩ := List.lookup_eq_some_iff.mp known
    have other : entry.1.name ≠ hidden := by
      have none := List.any_eq_false.mp silent entry member
      simpa using none
    exact keeps (entry.1.name, reader) (by simp [split]) other before entry.2 after changed
  | array items span ofTables =>
    refine readItems_keeps kept (located_eq_ok_iff.mp read) holds ?_
    intro field member
    have other : field.1 ≠ hidden := by
      have none := List.any_eq_false.mp silent field member
      simpa using none
    exact keeps field (List.mem_of_mem_take member) other
  | scalar value span =>
    cases value <;> cases read
    exact holds

end

theorem set_of_read {α β : Type} {found : Except ShapeError β} {set : β → α} {after : α}
    (read : (do return set (← found)) = Except.ok after) :
    ∃ value, found = .ok value ∧ after = set value := by
  cases found with
  | error problem => cases read
  | ok value =>
    cases read
    exact ⟨value, rfl, rfl⟩

theorem serviceFields_keep_model (field : String × (ServiceSettings → Item → _))
    (member : field ∈ serviceFields) (other : field.1 ≠ "model") (before : ServiceSettings)
    (item : Item) (after : ServiceSettings) (read : field.2 before item = .ok after) :
    after.model = before.model := by
  simp only [serviceFields, List.mem_cons, List.not_mem_nil, or_false] at member
  rcases member with rfl | rfl | rfl | rfl | rfl
  · obtain ⟨provider, -, rfl⟩ := set_of_read read
    rfl
  · exact absurd rfl other
  · obtain ⟨url, -, rfl⟩ := set_of_read read
    rfl
  · obtain ⟨key, -, rfl⟩ := set_of_read read
    rfl
  · obtain ⟨seconds, -, rfl⟩ := set_of_read read
    rfl

theorem fields_keep_model {entry : Key × Item}
    (silent : entry.1.name = "llm" → gives serviceFields "model" entry.2 = false)
    {reader : Settings → Item → Except ShapeError Settings}
    (known : fields.lookup entry.1.name = some reader) {before after : Settings}
    (read : reader before entry.2 = .ok after)
    (initial : before.service.model = Provider.gemini.defaultModel) :
    after.service.model = Provider.gemini.defaultModel := by
  obtain ⟨earlier, later, split, -⟩ := List.lookup_eq_some_iff.mp known
  have member : (entry.1.name, reader) ∈ fields := by simp [split]
  simp only [fields, List.mem_cons, List.not_mem_nil, or_false, Prod.mk.injEq] at member
  rcases member with ⟨-, rfl⟩ | ⟨-, rfl⟩ | ⟨-, rfl⟩ | ⟨named, rfl⟩
  · obtain ⟨projectName, -, rfl⟩ := set_of_read read
    exact initial
  · obtain ⟨analysis, -, rfl⟩ := set_of_read read
    exact initial
  · obtain ⟨output, -, rfl⟩ := set_of_read read
    exact initial
  · obtain ⟨service, found, rfl⟩ := set_of_read read
    refine readTable_keeps (fun made => made.model = Provider.gemini.defaultModel) found rfl
      (silent named) ?_
    intro field member other before item after changed same
    rw [serviceFields_keep_model field member other before item after changed, same]

theorem model_of_read {source : String} {settings : Settings}
    (read : Settings.read source = .ok settings) (unnamed : namesModel source = false) :
    settings.service.model = Provider.gemini.defaultModel := by
  unfold Settings.read at read
  split at read
  · cases read
  · rename_i entries document
    split at read
    · cases read
    · rename_i decoded made
      split at read
      · cases read
        refine readEntries_keeps
          (fun made : Settings => made.service.model = Provider.gemini.defaultModel) made rfl ?_
        intro entry member reader known before after changed initial
        refine fields_keep_model ?_ known changed initial
        intro named
        have silent := List.any_eq_false.mp unnamed entry
        simp only [document, Option.getD_some] at silent
        simpa [named] using silent member
      · cases read

end Settings

namespace ServiceSettings

theorem model_setProvider (settings : ServiceSettings) (provider : Option Provider) :
    (settings.setProvider provider).model =
      if (settings.setProvider provider).provider = settings.provider then settings.model
      else (settings.setProvider provider).provider.defaultModel := by
  cases provider with
  | none => simp [setProvider]
  | some provider =>
    by_cases same : provider = settings.provider
    · simp [setProvider, same]
    · simp [setProvider, same]

end ServiceSettings

theorem FileTree.read_of_settings {tree : FileTree} {path : FilePath} {source : String}
    {settings : Settings} (text : tree.readText path = .ok source)
    (loaded : tree.settings path = .ok settings) : Settings.read source = .ok settings := by
  unfold FileTree.settings at loaded
  rw [text] at loaded
  change (Settings.read source).mapError _ = _ at loaded
  cases read : Settings.read source with
  | error problem =>
    rw [read] at loaded
    cases loaded
  | ok other =>
    rw [read] at loaded
    cases loaded
    rfl

/-- The model of loaded settings that name none is the default of the first provider. Overrides
without a model make it the default of their provider where that is a change, and only then. So it
fits the provider exactly where the file names the first one, or none, or the overrides change it. -/
theorem FileTree.merge_model_of_unnamed {tree : FileTree} {path : FilePath} {source : String}
    {settings : Settings} {overrides : Overrides} (text : tree.readText path = .ok source)
    (loaded : tree.settings path = .ok settings) (unnamed : Settings.namesModel source = false)
    (silent : overrides.model = none) :
    let merged := (settings.merge overrides).service
    merged.model =
        (if merged.provider = settings.service.provider then Provider.gemini
          else merged.provider).defaultModel ∧
      (merged.model = merged.provider.defaultModel ↔
        settings.service.provider = .gemini ∨ merged.provider ≠ settings.service.provider) := by
  intro merged
  have initial := Settings.model_of_read (read_of_settings text loaded) unnamed
  have same : merged = settings.service.setProvider overrides.provider := by
    simp only [merged, Settings.merge, silent, ServiceSettings.setModel]
  have model := settings.service.model_setProvider overrides.provider
  rw [← same, initial] at model
  refine ⟨by rw [model]; split <;> rfl, ?_⟩
  rw [model]
  by_cases kept : merged.provider = settings.service.provider
  · rw [if_pos kept, kept]
    cases settings.service.provider <;> decide
  · simp [kept]

theorem eq_ok_of_toOption {ε α : Type} {result : Except ε α} {value : α}
    (given : result.toOption = some value) : result = .ok value := by
  cases result with
  | error problem => cases given
  | ok other => exact congrArg _ (Option.some.inj given)

def silentText : String := "[llm]\nprovider = 'ollama'\n"

def silentTree : FileTree where
  nodes := [(["c.toml"], .file (Text.encode silentText.toList))]

def silentSettings : Settings := { service := { provider := .ollama } }

theorem FileTree.settings_silentTree :
    silentTree.readText "c.toml" = .ok silentText ∧
      silentTree.settings "c.toml" = .ok silentSettings :=
  ⟨eq_ok_of_toOption (by decide +kernel), eq_ok_of_toOption (by decide +kernel)⟩

theorem FileTree.merge_model_of_changed :
    silentTree.readText "c.toml" = .ok silentText ∧
      silentTree.settings "c.toml" = .ok silentSettings ∧
      Settings.namesModel silentText = false ∧
      (silentSettings.merge { provider := some .openai }).service.model = "gpt-4o-mini" := by
  obtain ⟨text, loaded⟩ := settings_silentTree
  have unnamed : Settings.namesModel silentText = false := by decide +kernel
  have silent : ({ provider := some .openai } : Overrides).model = none := rfl
  exact ⟨text, loaded, unnamed, (merge_model_of_unnamed text loaded unnamed silent).1⟩

/-- Without a change of the provider, it is left with the model of another one. -/
theorem FileTree.model_of_other_provider :
    silentTree.settings "c.toml" = .ok silentSettings ∧
      Settings.namesModel silentText = false ∧
      (silentSettings.merge {}).service.provider = .ollama ∧
      (silentSettings.merge {}).service.model ≠ Provider.ollama.defaultModel :=
  ⟨settings_silentTree.2, by decide +kernel, rfl, by decide⟩

end PythonDocs
