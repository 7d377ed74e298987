import PythonDocs.Environment.Basic
import PythonDocs.Proofs.Client.Answers
import PythonDocs.Proofs.Settings.DefaultModel

namespace PythonDocs

def withoutSlashes (url : String) : String :=
  .ofList (url.toList.reverse.dropWhile (· = '/')).reverse

theorem Provider.defaultUrl_withoutSlashes (provider : Provider) :
    withoutSlashes provider.defaultUrl = provider.defaultUrl := by
  cases provider <;> decide +kernel

variable {settings : Settings} {overrides : Overrides} {provider : Provider}

theorem Settings.service_of_switch (named : overrides.provider = some provider)
    (switched : provider ≠ settings.service.provider) (environment : Environment) :
    ((settings.merge overrides).fillKey environment).service =
      { provider
        model := overrides.model.getD provider.defaultModel
        apiUrl := settings.service.apiUrl
        apiKey := (provider.keyVariable?.bind environment.get?).filter (· ≠ "")
        timeout := settings.service.timeout } := by
  have changed : settings.service.setProvider overrides.provider =
      { settings.service with
        provider
        model := provider.defaultModel
        apiKey := none } := by
    rw [named]
    exact if_neg switched
  cases given : overrides.model <;>
    simp [Settings.merge, Settings.fillKey, changed, given, ServiceSettings.setModel]

/-- After a switch, the key of the new provider and its model are used, but every request goes to
the address that the file has for the old provider, if it has one. -/
theorem Settings.endpoint_of_switch (named : overrides.provider = some provider)
    (switched : provider ≠ settings.service.provider) (environment : Environment) :
    let service := ((settings.merge overrides).fillKey environment).service
    service.provider = provider ∧
      service.apiKey = (provider.keyVariable?.bind environment.get?).filter (· ≠ "") ∧
      service.model = overrides.model.getD provider.defaultModel ∧
      (settings.service.apiUrl = none → service.baseUrl = provider.defaultUrl) ∧
      (∀ url, settings.service.apiUrl = some url → service.baseUrl = withoutSlashes url) ∧
      ∀ prompt request, service.request prompt = .ok request →
        Url.read? (service.baseUrl ++ provider.requestPath service.model) = some request.url ∧
        request.headers = (service.apiKey.bind provider.keyHeader?).toList ++
          [("content-type", "application/json")] := by
  intro service
  have same : service = _ := service_of_switch named switched environment
  have own : service.provider = provider := by rw [same]
  have url : service.apiUrl = settings.service.apiUrl := by rw [same]
  refine ⟨own, by rw [same], by rw [same], ?_, ?_, ?_⟩
  · intro missing
    rw [ServiceSettings.baseUrl, url, missing, own]
    exact provider.defaultUrl_withoutSlashes
  · intro address given
    rw [ServiceSettings.baseUrl, url, given]
    rfl
  · intro prompt request built
    obtain ⟨-, reaches, posted⟩ := ServiceSettings.request_eq_ok_iff.mp built
    refine ⟨own ▸ reaches.read, ?_⟩
    rw [posted, ← own]
    rfl

def boxText : String := "[llm]\nprovider = 'ollama'\napi_url = 'http://gpu-box:11434'\n"

def boxTree : FileTree where
  nodes := [(["c.toml"], .file (Text.encode boxText.toList))]

def boxSettings : Settings where
  service := { provider := .ollama, apiUrl := some "http://gpu-box:11434" }

theorem settings_boxTree : boxTree.settings "c.toml" = .ok boxSettings :=
  eq_ok_of_toOption (by decide +kernel)

theorem endpoint_of_boxSettings :
    boxTree.settings "c.toml" = .ok boxSettings ∧ Provider.openai ≠ boxSettings.service.provider ∧
      ((boxSettings.merge { provider := some .openai }).fillKey
        [("OPENAI_API_KEY", "secret")]).service.baseUrl = "http://gpu-box:11434" ∧
      ((silentSettings.merge { provider := some .openai }).fillKey
        [("OPENAI_API_KEY", "secret")]).service.baseUrl = "https://api.openai.com/v1" := by
  have switched : Provider.openai ≠ boxSettings.service.provider := nofun
  obtain ⟨-, -, -, -, given, -⟩ := @Settings.endpoint_of_switch boxSettings
    { provider := some .openai } _ rfl switched [("OPENAI_API_KEY", "secret")]
  obtain ⟨-, -, -, usual, -⟩ := @Settings.endpoint_of_switch silentSettings
    { provider := some .openai } .openai rfl nofun [("OPENAI_API_KEY", "secret")]
  exact ⟨settings_boxTree, switched, (given _ rfl).trans (by decide +kernel), usual rfl⟩

/-- The key of the new provider is sent to the address of the old one. -/
theorem key_at_other_endpoint :
    boxTree.settings "c.toml" = .ok boxSettings ∧
      let service := ((boxSettings.merge { provider := some .openai }).fillKey
        [("OPENAI_API_KEY", "secret")]).service
      service.provider = .openai ∧ service.baseUrl ≠ Provider.openai.defaultUrl ∧
        ∃ request, service.request "" = .ok request ∧
          request.url.host? = some (.name "gpu-box") ∧
          ("authorization", "Bearer secret") ∈ request.headers := by
  refine ⟨settings_boxTree, ?_⟩
  intro service
  let url : Url :=
    { scheme := "http", host? := some (.name "gpu-box"), number? := some 11434
      path := "/chat/completions" }
  have key : service.HasKey := .inr (by decide +kernel)
  have reaches : service.Reaches url :=
    ⟨by decide +kernel, by decide +kernel, .inl rfl, by decide +kernel⟩
  refine ⟨rfl, by decide +kernel, _, ServiceSettings.request_of_reaches key reaches "", rfl, ?_⟩
  decide +kernel

end PythonDocs
