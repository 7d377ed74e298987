import PythonDocs.Client.Reply
import PythonDocs.Exchange
import PythonDocs.Json.Printer
import PythonDocs.Json.Reader
import PythonDocs.Service
import PythonDocs.Settings.Basic
import PythonDocs.Url.Reader

namespace PythonDocs

inductive RequestFault
  | malformed
  | unsupported (url : Url)
  | lost (url : Url)
  deriving DecidableEq, Repr

def RequestFault.message : RequestFault → String
  | malformed => "builder error"
  | unsupported url => "builder error for url (" ++ url.text ++ ")"
  | lost url => "error sending request for url (" ++ url.text ++ ")"

inductive ClientError
  | noKey (name : String)
  | noResponse (fault : RequestFault)
  | status (code : Nat)
  | unreadable (url : Url)
  | noText
  deriving DecidableEq, Repr

def ClientError.reason (provider : Provider) : ClientError → String
  | noKey name => "API key not configured (set " ++ name ++ ")"
  | noResponse fault => provider.label ++ " request failed: " ++ fault.message
  | status code => provider.label ++ " returned status " ++ statusText code
  | unreadable url =>
    "Failed to parse " ++ provider.label ++ " response: error decoding response body for url ("
      ++ url.text ++ ")"
  | noText =>
    match provider with
    | .gemini => "No candidates in Gemini response"
    | provider => "No response from " ++ provider.label

def ClientError.told (provider : Provider) (error : ClientError) : ServiceError :=
  ⟨LlmError.message ⟨error.reason provider⟩⟩

namespace Provider

def keyHeader? : Provider → String → Option (String × String)
  | gemini, key => some ("x-goog-api-key", key)
  | ollama, _ => none
  | openai, key => some ("authorization", "Bearer " ++ key)

def requestPath (model : String) : Provider → String
  | gemini => "/models/" ++ model ++ ":generateContent"
  | ollama => "/api/generate"
  | openai => "/chat/completions"

def question (model prompt : String) : Provider → Json
  | gemini =>
    let part : Json := .object [("text", .string prompt)]
    .object [("contents", .array [.object [("parts", .array [part])]])]
  | ollama =>
    .object [("model", .string model), ("prompt", .string prompt), ("stream", .bool false)]
  | openai =>
    .object [("model", .string model),
      ("messages", .array [.object [("role", .string "user"), ("content", .string prompt)]])]

def answer (provider : Provider) (url : Url) : Option Response → Except ClientError String
  | none => .error (.noResponse (.lost url))
  | some response =>
    if !response.isSuccess then .error (.status response.status)
    else
      match (Json.readBytes? response.content).bind provider.texts? with
      | none => .error (.unreadable url)
      | some [] => .error .noText
      | some (text :: _) => .ok text

end Provider

namespace ServiceSettings

def baseUrl (settings : ServiceSettings) : String :=
  let url := settings.apiUrl.getD settings.provider.defaultUrl
  .ofList (url.toList.reverse.dropWhile (· = '/')).reverse

def endpoint (settings : ServiceSettings) : String :=
  settings.baseUrl ++ settings.provider.requestPath settings.model

def keyHeaders (settings : ServiceSettings) : Except ClientError (List (String × String)) :=
  match settings.provider.keyVariable?, settings.apiKey with
  | none, _ => .ok []
  | some name, none => .error (.noKey name)
  | some _, some key => .ok (settings.provider.keyHeader? key).toList

def requestUrl (settings : ServiceSettings) (headers : List (String × String)) :
    Except RequestFault Url :=
  match Url.read? settings.endpoint with
  | none => .error .malformed
  | some url =>
    if !url.hasHost then .error (.unsupported url)
    else if !headers.all fun (_, value) => isHeaderValue value then .error .malformed
    else if url.scheme = "http" ∨ url.scheme = "https" then .ok url
    else .error (.unsupported url)

def request (settings : ServiceSettings) (prompt : String) : Except ClientError Request := do
  let headers ← settings.keyHeaders
  let url ← (settings.requestUrl headers).mapError .noResponse
  return {
    method := "POST", url
    headers := headers ++ [("content-type", "application/json")]
    body := (settings.provider.question settings.model prompt).compact }

variable {σ : Type}

def ask (settings : ServiceSettings) (network : Network σ) (prompt : String) (state : σ) :
    Except ClientError String × σ :=
  match settings.request prompt with
  | .error error => (.error error, state)
  | .ok request =>
    let (response, state) := network request state
    (settings.provider.answer request.url response, state)

def client (settings : ServiceSettings) (network : Network σ) : Service σ := fun prompt state =>
  let (answer, state) := settings.ask network prompt state
  (answer.mapError (ClientError.told settings.provider), state)

end ServiceSettings

end PythonDocs
