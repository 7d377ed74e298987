import PythonDocs.Settings.Basic

namespace PythonDocs

structure Overrides where
  output : Option FilePath := none
  excluded : List String := []
  included : List String := []
  provider : Option Provider := none
  model : Option String := none
  noDocstrings : Bool := false
  noDiagrams : Bool := false
  deriving DecidableEq, Repr

namespace ServiceSettings

/-- A change of the provider drops the key, which belongs to the old one. -/
def setProvider (settings : ServiceSettings) (provider : Option Provider) : ServiceSettings :=
  match provider with
  | none => settings
  | some provider =>
    if provider = settings.provider then settings
    else { settings with provider, model := provider.defaultModel, apiKey := none }

def setModel (settings : ServiceSettings) (model : Option String) : ServiceSettings :=
  match model with
  | none => settings
  | some model => { settings with model }

end ServiceSettings

/-- Exclusions add up, inclusions replace each other, and switches only switch off. -/
def Settings.merge (settings : Settings) (overrides : Overrides) : Settings :=
  { settings with
    analysis :=
      { settings.analysis with
        excluded := settings.analysis.excluded ++ overrides.excluded
        included :=
          if overrides.included.isEmpty then settings.analysis.included else overrides.included }
    output :=
      { directory := overrides.output.getD settings.output.directory
        docstrings := settings.output.docstrings && !overrides.noDocstrings
        diagrams := settings.output.diagrams && !overrides.noDiagrams }
    service := (settings.service.setProvider overrides.provider).setModel overrides.model }

end PythonDocs
