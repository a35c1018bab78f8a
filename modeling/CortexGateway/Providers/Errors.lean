import CortexGateway.Core.Json
import CortexGateway.Core.Text
import CortexGateway.Providers.Payloads
import CortexGateway.Providers.Registry

/-! # How the adapters report upstream errors

`_raise_from_status` of the Groq adapter, `_handle_http_error` of the Ollama
adapter and the exception handlers of the Gemini adapter.  The text Python
makes of a JSON value that is no string is a parameter. -/
set_option autoImplicit false
namespace CortexGateway

namespace GroqProvider

/-- `_raise_from_status`. -/
def raiseFromStatus (status : ℕ) (message : String) : Exc :=
  if status = 401 ∨ status = 403 then
    .provider .providerAuthError "Groq authentication failed. Check your API key."
  else if status = 429 then
    .provider .providerRateLimitError "Groq rate limit reached. Please try again later."
  else if status = 404 then .provider .invalidModelError ("Model not found on Groq: " ++ message)
  else if 500 ≤ status then .provider .providerUnavailableError "Groq is currently unavailable."
  else .provider .providerError ("Groq returned an error: " ++ message)

end GroqProvider

namespace OllamaProvider

/-- `response.json().get("error", body)`, or the body when that raises. -/
def errorMsg (body : String) (json : Option Json) : Json :=
  match json with
  | some (.object fields) => (fields.lookup "error").getD (.str body)
  | _ => .str body

/-- The message says that a model was not found. -/
def missesModel (message : String) : Bool :=
  textContains (lower message) "model" || textContains (lower message) "not found"

/-- `_handle_http_error`; a message that is no string has no `lower`. -/
def handleHttpError (str : Json → String) (status : ℕ) (body : String) (json : Option Json)
    (requestedModel : String) : Exc :=
  let message := errorMsg body json
  if status = 404 then
    match message with
    | .str text =>
        if missesModel text then
          .provider .invalidModelError ("Model '" ++ requestedModel ++ "' not found in Ollama.")
        else .provider .providerUnavailableError "Ollama endpoint not found (HTTP 404)."
    | _ => .attributeError "lower"
  else if 500 ≤ status then
    .provider .providerUnavailableError
      ("Ollama service returned server error (HTTP " ++ toString status ++ ").")
  else
    .provider .providerError ("Ollama returned HTTP " ++ toString status ++ ": " ++ str message)

end OllamaProvider

/-- The classes of `google.api_core.exceptions` the adapter tells apart. -/
inductive GoogleError
  | deadlineExceeded
  | unauthenticated
  | permissionDenied
  | resourceExhausted
  | serviceUnavailable
  | googleAPIError
  deriving DecidableEq, Repr

namespace GeminiProvider

def missesModel (text : String) : Bool :=
  textContains (lower text) "not found" || textContains (lower text) "invalid"

/-- The `except` branches of `chat`; `text` is `str(exc)`. -/
def translate (cls : GoogleError) (text model : String) : Exc :=
  match cls with
  | .deadlineExceeded => .provider .providerTimeoutError "Gemini request timed out."
  | .unauthenticated | .permissionDenied =>
      .provider .providerAuthError "Gemini authentication failed. Check your API key."
  | .resourceExhausted =>
      .provider .providerRateLimitError "Gemini rate limit reached. Please try again later."
  | .serviceUnavailable => .provider .providerUnavailableError "Gemini is currently unavailable."
  | .googleAPIError =>
      if missesModel text then .provider .invalidModelError ("Gemini model not found: " ++ model)
      else .provider .providerError "Gemini returned an error."

end GeminiProvider

/-! ## The registered adapters -/

inductive Adapter
  | gemini
  | groq
  | ollama
  deriving DecidableEq, Repr

/-- The adapter `registry.get` returns for a provider. -/
def adapterOf (provider : String) : Option Adapter :=
  match ProviderRegistry.key provider with
  | "gemini" => some .gemini
  | "groq" => some .groq
  | "ollama" => some .ollama
  | _ => none

/-- What upstream answers with an error: an HTTP status and body, which Ollama
also reads as JSON, or an exception of the Google SDK. -/
inductive Answer
  | http (status : ℕ) (body : String) (json : Option Json)
  | google (cls : GoogleError) (text : String)

namespace Answer

/-- A 4xx status; a `GoogleAPIError` of no class of its own can be one. -/
def isClientError : Answer → Bool
  | .http status _ _ => 400 ≤ status && status < 500
  | .google .deadlineExceeded _ => false
  | .google .serviceUnavailable _ => false
  | .google _ _ => true

/-- Status 429. -/
def isRateLimit : Answer → Bool
  | .http status _ _ => status = 429
  | .google cls _ => cls = .resourceExhausted

end Answer

namespace Adapter

/-- Gemini refuses a request without a user message before calling upstream. -/
def refuses (adapter : Adapter) (request : ChatCompletionRequest) : Option Exc :=
  match adapter, GeminiProvider.payload request with
  | .gemini, .error exc => some exc
  | _, _ => none

/-- The exception the adapter makes of an answer, if it can get such an answer. -/
def translate (str : Json → String) (adapter : Adapter) (model : String) : Answer → Option Exc
  | .http status body json =>
      match adapter with
      | .groq => some (GroqProvider.raiseFromStatus status body)
      | .ollama => some (OllamaProvider.handleHttpError str status body json model)
      | .gemini => none
  | .google cls text =>
      match adapter with
      | .gemini => some (GeminiProvider.translate cls text model)
      | _ => none

/-- The 4xx answers not taken for a failure of the provider.  Groq: 401, 403,
404 and 429.  Ollama: a 404 whose message names a model or is no text.  Gemini:
the three classes with a handler of their own, and a text that says "not found"
or "invalid". -/
def Translates : Adapter → Answer → Prop
  | .groq, .http status _ _ => status ∈ [401, 403, 404, 429]
  | .ollama, .http status body json =>
      status = 404 ∧ ∀ text, OllamaProvider.errorMsg body json = .str text →
        OllamaProvider.missesModel text = true
  | .gemini, .google cls text =>
      cls ∈ [.unauthenticated, .permissionDenied, .resourceExhausted] ∨
        (cls = .googleAPIError ∧ GeminiProvider.missesModel text = true)
  | _, _ => False

end Adapter

end CortexGateway
