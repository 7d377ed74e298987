import PythonDocs.Proofs.Client.Answers
import PythonDocs.Proofs.Run.Answers

namespace PythonDocs

def Provider.keyHeaderName? : Provider → Option String
  | gemini => some "x-goog-api-key"
  | ollama => none
  | openai => some "authorization"

def Provider.isKeyHeader (provider : Provider) (header : String × String) : Bool :=
  provider.keyHeaderName? = some header.1

namespace Request

def keyValues (provider : Provider) (request : Request) : List String :=
  (request.headers.filter provider.isKeyHeader).map Prod.snd

/-- Two requests that are the same but for the value of the header for the key. -/
structure AgreesButKey (provider : Provider) (first second : Request) : Prop where
  method : first.method = second.method
  url : first.url = second.url
  body : first.body = second.body
  names : first.headers.map Prod.fst = second.headers.map Prod.fst
  others : first.headers.filter (fun header => !provider.isKeyHeader header) =
    second.headers.filter fun header => !provider.isKeyHeader header

end Request

theorem Provider.keyHeader?_valid {provider : Provider} {key : String}
    (valid : isHeaderValue key = true) :
    ∀ header ∈ provider.keyHeader? key, isHeaderValue header.2 = true := by
  intro header given
  cases provider with
  | gemini =>
    cases given
    exact valid
  | ollama => cases given
  | openai =>
    cases given
    have bearer : isHeaderValue "Bearer " = true := by decide +kernel
    unfold isHeaderValue at bearer valid ⊢
    rw [String.toList_append, List.all_append, bearer, valid]
    rfl

/-- The network does the same for requests that differ in the key only. -/
def Network.IgnoresKey {σ : Type} (provider : Provider) (network : Network σ) : Prop :=
  ∀ first second, first.AgreesButKey provider second →
    ∀ state, network first state = network second state

namespace ServiceSettings

def withKey (settings : ServiceSettings) (key : Option String) : ServiceSettings :=
  { settings with apiKey := key }

variable {settings : ServiceSettings} {key other : String} {prompt : String}

@[simp] theorem endpoint_withKey (key : Option String) :
    (settings.withKey key).endpoint = settings.endpoint := rfl

theorem requestUrl_of_valid {headers : List (String × String)}
    (valid : ∀ header ∈ headers, isHeaderValue header.2 = true) (key : Option String) :
    (settings.withKey key).requestUrl headers = settings.requestUrl [] := by
  have all : (headers.all fun header => isHeaderValue header.2) = true := by simpa using valid
  unfold requestUrl
  dsimp only
  rw [endpoint_withKey, all, List.all_nil]

theorem request_withKey (valid : isHeaderValue key = true) (prompt : String) :
    (settings.withKey (some key)).request prompt =
      ((settings.requestUrl []).mapError .noResponse).map
        ((settings.withKey (some key)).posted prompt) := by
  have keyed : (settings.withKey (some key)).keyHeaders =
      .ok (settings.withKey (some key)).keyHeader?.toList :=
    keyHeaders_eq_ok_iff.mpr ⟨.inr nofun, rfl⟩
  have sent : ∀ header ∈ (settings.withKey (some key)).keyHeader?.toList,
      isHeaderValue header.2 = true := by
    intro header given
    rw [Option.mem_toList] at given
    exact settings.provider.keyHeader?_valid valid header given
  have reached := @requestUrl_of_valid settings _ sent (some key)
  simp only [ServiceSettings.request, keyed, reached, bind, Except.bind]
  generalize settings.requestUrl [] = url
  cases url with
  | error fault => rfl
  | ok url => rfl

theorem posted_agrees (url : Url) :
    ((settings.withKey (some key)).posted prompt url).AgreesButKey settings.provider
      ((settings.withKey (some other)).posted prompt url) := by
  obtain ⟨provider, model, apiUrl, apiKey, timeout⟩ := settings
  refine ⟨rfl, rfl, rfl, ?_, ?_⟩ <;> cases provider <;> rfl

theorem posted_keyValues (url : Url) :
    ((settings.withKey (some key)).posted prompt url).keyValues settings.provider =
      (settings.provider.keyHeader? key).toList.map Prod.snd := by
  obtain ⟨provider, model, apiUrl, apiKey, timeout⟩ := settings
  cases provider <;> rfl

/-- Two keys make a difference in the header for the key only. -/
structure KeepsKeyApart (settings : ServiceSettings) (key other : String) : Prop where
  requests : ∀ prompt,
    (∃ error, (settings.withKey (some key)).request prompt = .error error ∧
      (settings.withKey (some other)).request prompt = .error error) ∨
    ∃ first second, (settings.withKey (some key)).request prompt = .ok first ∧
      (settings.withKey (some other)).request prompt = .ok second ∧
      first.AgreesButKey settings.provider second ∧
      first.keyValues settings.provider =
        (settings.provider.keyHeader? key).toList.map Prod.snd ∧
      second.keyValues settings.provider =
        (settings.provider.keyHeader? other).toList.map Prod.snd
  /-- Two clients whose requests get the same reply give the same answer, be it a text or an
  error. -/
  answers : ∀ {σ τ : Type} (network : Network σ) (another : Network τ) (prompt : String) (state : σ)
    (elsewhere : τ),
    (∀ first second, (settings.withKey (some key)).request prompt = .ok first →
      (settings.withKey (some other)).request prompt = .ok second →
      (network first state).1 = (another second elsewhere).1) →
    ((settings.withKey (some key)).client network prompt state).1 =
      ((settings.withKey (some other)).client another prompt elsewhere).1
  /-- In a network that ignores the key, two runs make the same documents and the same report, and
  their requests are the same one by one, but for the key. -/
  runs : ∀ {σ : Type} (network : Network σ), network.IgnoresKey settings.provider →
    ∀ (plan : Plan) (root output : FilePath) (tree : FileTree) (state : σ) (sent : List Request),
      ∃ result after final first second,
        plan.run ((settings.withKey (some key)).client network.logged) root output tree
          (state, sent) = (result, after, final, sent ++ first) ∧
        plan.run ((settings.withKey (some other)).client network.logged) root output tree
          (state, sent) = (result, after, final, sent ++ second) ∧
        List.Forall₂ (Request.AgreesButKey settings.provider) first second

theorem requests_withKey (valid : isHeaderValue key = true) (others : isHeaderValue other = true)
    (prompt : String) :
    (∃ error, (settings.withKey (some key)).request prompt = .error error ∧
      (settings.withKey (some other)).request prompt = .error error) ∨
    ∃ url, (settings.withKey (some key)).request prompt =
        .ok ((settings.withKey (some key)).posted prompt url) ∧
      (settings.withKey (some other)).request prompt =
        .ok ((settings.withKey (some other)).posted prompt url) := by
  rw [request_withKey valid, request_withKey others]
  cases settings.requestUrl [] with
  | error fault => exact .inl ⟨_, rfl, rfl⟩
  | ok url => exact .inr ⟨url, rfl, rfl⟩

section

variable {σ τ : Type}

theorem client_withKey (valid : isHeaderValue key = true) (others : isHeaderValue other = true)
    (network : Network σ) (another : Network τ) (prompt : String) (state : σ) (elsewhere : τ)
    (same : ∀ first second, (settings.withKey (some key)).request prompt = .ok first →
      (settings.withKey (some other)).request prompt = .ok second →
      (network first state).1 = (another second elsewhere).1) :
    ((settings.withKey (some key)).client network prompt state).1 =
      ((settings.withKey (some other)).client another prompt elsewhere).1 := by
  rcases @requests_withKey settings key other valid others prompt with
    ⟨error, first, second⟩ | ⟨url, first, second⟩
  · rw [client_of_error first, client_of_error second]
    rfl
  · rw [client_of_request first, client_of_request second, same _ _ first second]
    rfl

/-- Two networks in the same state, to which requests were sent that agree but for the key. -/
def SentAlike (provider : Provider) (sent : List Request) (first second : σ × List Request) : Prop :=
  first.1 = second.1 ∧ ∃ requests others, first.2 = sent ++ requests ∧ second.2 = sent ++ others ∧
    List.Forall₂ (Request.AgreesButKey provider) requests others

theorem answersLike_withKey (valid : isHeaderValue key = true)
    (others : isHeaderValue other = true) {network : Network σ}
    (ignores : network.IgnoresKey settings.provider) (sent : List Request) :
    ((settings.withKey (some key)).client network.logged).AnswersLike
      ((settings.withKey (some other)).client network.logged)
      (SentAlike settings.provider sent) := by
  rintro prompt ⟨state, log⟩ ⟨-, -⟩ ⟨rfl, first, second, rfl, rfl, agree⟩
  rcases @requests_withKey settings key other valid others prompt with
    ⟨error, own, its⟩ | ⟨url, own, its⟩
  · rw [client_of_error own, client_of_error its]
    exact ⟨rfl, rfl, first, second, rfl, rfl, agree⟩
  · have agrees := @posted_agrees settings key other prompt url
    have same := ignores _ _ agrees state
    rw [client_of_request own, client_of_request its]
    simp only [Network.logged, same]
    refine ⟨rfl, rfl, _, _, List.append_assoc .., List.append_assoc .., ?_⟩
    exact List.rel_append agree (.cons agrees .nil)

theorem runs_withKey (valid : isHeaderValue key = true) (others : isHeaderValue other = true)
    {network : Network σ} (ignores : network.IgnoresKey settings.provider) (plan : Plan)
    (root output : FilePath) (tree : FileTree) (state : σ) (sent : List Request) :
    ∃ result after final first second,
      plan.run ((settings.withKey (some key)).client network.logged) root output tree
        (state, sent) = (result, after, final, sent ++ first) ∧
      plan.run ((settings.withKey (some other)).client network.logged) root output tree
        (state, sent) = (result, after, final, sent ++ second) ∧
      List.Forall₂ (Request.AgreesButKey settings.provider) first second := by
  have start : SentAlike settings.provider sent (state, sent) (state, sent) :=
    ⟨rfl, [], [], (List.append_nil _).symm, (List.append_nil _).symm, .nil⟩
  obtain ⟨result, after, ⟨final, log⟩, ⟨-, -⟩, own, its, rfl, first, second, rfl, rfl, agree⟩ :=
    (answersLike_withKey valid others ignores sent).run start plan root output tree
  exact ⟨result, after, final, first, second, own, its, agree⟩

end

theorem request_of_ollama (free : settings.provider = .ollama) (key : Option String)
    (prompt : String) :
    (settings.withKey key).request prompt =
      ((settings.requestUrl []).mapError .noResponse).map (settings.posted prompt) := by
  have keyed : (settings.withKey key).keyHeaders = .ok [] := by
    simp only [keyHeaders, withKey, free, Provider.keyVariable?]
  have reached := @requestUrl_of_valid settings [] (by simp) key
  have none : settings.keyHeader? = none := by
    cases given : settings.apiKey <;> simp [keyHeader?, given, free, Provider.keyHeader?]
  simp only [ServiceSettings.request, keyed, reached, bind, Except.bind]
  generalize settings.requestUrl [] = url
  cases url with
  | error fault => rfl
  | ok url =>
    simp only [Except.mapError, Except.map, posted, none]
    rfl

/-- Of two keys that can be sent, nothing but the header for the key tells which one was used, and
where there is no such header, nothing tells whether there is a key. -/
theorem keepsKeyApart (settings : ServiceSettings) :
    (∀ key other, isHeaderValue key = true → isHeaderValue other = true →
      settings.KeepsKeyApart key other) ∧
    (settings.provider = .ollama → ∀ key other,
      (∀ prompt, (settings.withKey key).request prompt = (settings.withKey other).request prompt) ∧
      ∀ {σ : Type} (network : Network σ),
        (settings.withKey key).client network = (settings.withKey other).client network) := by
  constructor
  · intro key other valid others
    refine ⟨fun prompt => ?_, fun network another prompt state elsewhere =>
      client_withKey valid others network another prompt state elsewhere, ?_⟩
    · rcases @requests_withKey settings key other valid others prompt with
        refused | ⟨url, first, second⟩
      · exact .inl refused
      · exact .inr ⟨_, _, first, second, posted_agrees url, posted_keyValues url,
          posted_keyValues url⟩
    · intro σ network ignores plan root output tree state sent
      exact runs_withKey valid others ignores plan root output tree state sent
  · intro free key other
    have same : ∀ prompt,
        (settings.withKey key).request prompt = (settings.withKey other).request prompt := by
      intro prompt
      rw [request_of_ollama free key, request_of_ollama free other]
    refine ⟨same, fun network => ?_⟩
    funext prompt state
    simp only [client, ask, same]
    rfl

def ollamaSettings : ServiceSettings := { provider := .ollama, model := "llama3" }

theorem keepsKeyApart_twoKeys :
    isHeaderValue "key" = true ∧ isHeaderValue "other key" = true ∧
      keyedSettings.KeepsKeyApart "key" "other key" ∧
      twoCandidatesServer.IgnoresKey keyedSettings.provider ∧
      (∃ first second, (keyedSettings.withKey (some "key")).request "What?" = .ok first ∧
        (keyedSettings.withKey (some "other key")).request "What?" = .ok second ∧
        first ≠ second) ∧
      ollamaSettings.provider = .ollama ∧
      ∀ prompt, (ollamaSettings.withKey (some "key")).request prompt =
        (ollamaSettings.withKey none).request prompt := by
  have valid : isHeaderValue "key" = true := by decide +kernel
  have others : isHeaderValue "other key" = true := by decide +kernel
  have apart := (keepsKeyApart keyedSettings).1 "key" "other key" valid others
  have free := (keepsKeyApart ollamaSettings).2 rfl (some "key") none
  refine ⟨valid, others, apart, fun _ _ _ _ => rfl, ?_, rfl, free.1⟩
  rcases apart.requests "What?" with ⟨error, refused, -⟩ | ⟨first, second, own, its, -, key, other⟩
  · have built : ((keyedSettings.withKey (some "key")).request "What?").isOk = true := by
      decide +kernel
    rw [refused] at built
    cases built
  · refine ⟨first, second, own, its, fun same => ?_⟩
    rw [same, other] at key
    exact absurd key (by decide)

end ServiceSettings

end PythonDocs
