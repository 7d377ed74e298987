import PythonDocs.Client
import PythonDocs.Proofs.Client.Replies
import PythonDocs.Proofs.Json.Bytes
import PythonDocs.Proofs.Json.RoundTrip

namespace PythonDocs

open Json

/-- The model that a body names: the requests to Gemini have it in their address. -/
def Provider.named? (provider : Provider) (model : String) : Option String :=
  if provider = gemini then none else some model

namespace ServiceSettings

def HasKey (settings : ServiceSettings) : Prop :=
  settings.provider.keyVariable? = none ∨ settings.apiKey ≠ none

def keyHeader? (settings : ServiceSettings) : Option (String × String) :=
  settings.apiKey.bind settings.provider.keyHeader?

structure Reaches (settings : ServiceSettings) (url : Url) : Prop where
  read : Url.read? settings.endpoint = some url
  host : url.hasHost = true
  scheme : url.scheme = "http" ∨ url.scheme = "https"
  header : ∀ header ∈ settings.keyHeader?, isHeaderValue header.2 = true

variable {settings : ServiceSettings} {url : Url} {prompt : String} {request : Request}

theorem keyHeaders_eq_ok_iff {headers : List (String × String)} :
    settings.keyHeaders = .ok headers ↔
      settings.HasKey ∧ headers = settings.keyHeader?.toList := by
  obtain ⟨provider, model, apiUrl, apiKey, timeout⟩ := settings
  cases provider <;> cases apiKey <;>
    simp [keyHeaders, HasKey, keyHeader?, Provider.keyVariable?, Provider.keyHeader?, eq_comm]

theorem requestUrl_eq_ok_iff :
    settings.requestUrl settings.keyHeader?.toList = .ok url ↔ settings.Reaches url := by
  constructor
  · intro reached
    unfold requestUrl at reached
    split at reached
    · cases reached
    · rename_i found read
      split at reached
      · cases reached
      · rename_i host
        split at reached
        · cases reached
        · rename_i valid
          split at reached
          · rename_i scheme
            cases reached
            exact ⟨read, by simpa using host, scheme, by simpa using valid⟩
          · cases reached
  · rintro ⟨read, host, scheme, header⟩
    unfold requestUrl
    rw [read]
    dsimp only
    rw [if_neg (by simp [host]), if_neg (by simpa using header), if_pos scheme]

def posted (settings : ServiceSettings) (prompt : String) (url : Url) : Request where
  method := "POST"
  url := url
  headers := settings.keyHeader?.toList ++ [("content-type", "application/json")]
  body := (settings.provider.question settings.model prompt).compact

theorem request_eq_ok_iff :
    settings.request prompt = .ok request ↔
      settings.HasKey ∧ settings.Reaches request.url ∧
        request = settings.posted prompt request.url := by
  constructor
  · intro built
    unfold ServiceSettings.request at built
    cases keyed : settings.keyHeaders with
    | error problem => simp [keyed, bind, Except.bind] at built
    | ok headers =>
      obtain ⟨key, rfl⟩ := keyHeaders_eq_ok_iff.mp keyed
      cases reached : settings.requestUrl settings.keyHeader?.toList with
      | error fault => simp [keyed, reached, bind, Except.bind, Except.mapError] at built
      | ok url =>
        simp only [keyed, reached, bind, Except.bind, Except.mapError] at built
        cases built
        exact ⟨key, requestUrl_eq_ok_iff.mp reached, rfl⟩
  · rintro ⟨key, reaches, same⟩
    rw [same, ServiceSettings.request, keyHeaders_eq_ok_iff.mpr ⟨key, rfl⟩]
    simp only [bind, Except.bind]
    rw [requestUrl_eq_ok_iff.mpr reaches]
    rfl

theorem request_of_reaches (key : settings.HasKey) (reaches : settings.Reaches url)
    (prompt : String) : settings.request prompt = .ok (settings.posted prompt url) :=
  request_eq_ok_iff.mpr ⟨key, reaches, rfl⟩

section

variable {σ : Type} {network : Network σ} {state : σ}

theorem client_of_error {error : ClientError} (refused : settings.request prompt = .error error) :
    settings.client network prompt state = (.error (error.told settings.provider), state) := by
  simp [client, ask, refused, Except.mapError]

theorem client_of_request (built : settings.request prompt = .ok request) :
    settings.client network prompt state =
      ((settings.provider.answer request.url (network request state).1).mapError
        (ClientError.told settings.provider), (network request state).2) := by
  simp [client, ask, built]

end

end ServiceSettings

def Network.logged {σ : Type} (network : Network σ) : Network (σ × List Request) :=
  fun request (state, sent) =>
    let (response, state) := network request state
    (response, state, sent ++ [request])

namespace ServiceSettings

variable {σ : Type} {settings : ServiceSettings} {network : Network σ} {prompt : String} {state : σ}

end ServiceSettings

def twoCandidates : Json :=
  let candidate (parts : List Json) : Json :=
    .object [("content", .object [("parts", .array parts), ("role", .string "model")])]
  .object [("candidates", .array [
    candidate [.object [("text", .string "é\n")], .object [], .object [("text", .string "b")]],
    candidate []])]

def twoCandidatesReply : Response := ⟨200, twoCandidates.compact⟩

def twoCandidatesServer : Network Unit := fun _ state => (some twoCandidatesReply, state)

def keyedSettings : ServiceSettings := { apiKey := some "key" }

end PythonDocs
