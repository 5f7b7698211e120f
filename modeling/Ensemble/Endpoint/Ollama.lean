/-
# Ollama servers

A server is asked for a completion by a prompt, perhaps with an image, and for its version. Its
settings are checked once, when the endpoint is made. An answer counts when its status is one of
success and its body is exactly one JSON document with the expected member.
-/

import Ensemble.Endpoint.Error
import Ensemble.Endpoint.Http
import Ensemble.Endpoint.Settings
import Ensemble.Json.Reader
import Ensemble.Text.Base64
import Ensemble.Text.Blank
import Ensemble.Text.Utf8

namespace Ensemble

/-- A server with settings that have been checked. -/
structure OllamaServer where
  /-- The address without blanks around it and slashes at its end. -/
  baseUrl : String
  port : UInt16
  model : String
  temperature : Binary32
  timeoutSeconds : UInt64
deriving DecidableEq, Repr

namespace OllamaServer

/-- An address without blanks around it and slashes at its end. -/
def plainUrl (url : String) : String :=
  String.ofList (((Text.trimChars url.toList).reverse.dropWhile fun c => c == '/').reverse)

/-- The sentence for a temperature that is out of range. -/
def temperatureProblem (temperature : Binary32) : String :=
  "Temperature must be between 0 and 1, got " ++ temperature.text .plain

/-- The server of some settings, or the first thing that is wrong with them. -/
def ofSettings (settings : EndpointSettings) : Except EndpointError OllamaServer :=
  let baseUrl := plainUrl settings.url
  let model := Text.trim settings.model
  if baseUrl.isEmpty then .error (.invalidConfig "URL must be a non-empty string")
  else if settings.port = 0 then .error (.invalidConfig "Port must be a valid port number")
  else if model.isEmpty then .error (.invalidConfig "Model must be a non-empty string")
  else if settings.temperature.inUnitInterval then
    .ok ⟨baseUrl, settings.port, model, settings.temperature, settings.timeoutSeconds⟩
  else .error (.invalidConfig (temperatureProblem settings.temperature))

/-- The address for an action. -/
def url (server : OllamaServer) (action : String) : String :=
  server.baseUrl ++ ":" ++ toString server.port.toNat ++ "/api/" ++ action

/-- What is sent to ask for a completion. -/
def completionBody (server : OllamaServer) (prompt : String) (image : Option (List UInt8)) :
    Value :=
  .record ([("model", .text server.model), ("prompt", .text (Text.trim prompt)),
      ("stream", .boolean false),
      ("options", .record [("temperature", encodeSingle server.temperature)])] ++
    Value.optionalMember "images" (fun bytes => .list [.text (Text.base64 bytes)]) image)

/-- The request for a completion; a blank prompt is refused. -/
def completionRequest (server : OllamaServer) (prompt : String) (image : Option (List UInt8)) :
    Except EndpointError HttpRequest :=
  if Text.isBlankText prompt then
    .error (.invalidRequest "Prompt must be a non-empty string")
  else
    .ok ⟨.post, server.url "generate", some (Json.compact (server.completionBody prompt image)),
      server.timeoutSeconds.toNat⟩

/-- The request for the version. -/
def versionRequest (server : OllamaServer) : HttpRequest :=
  ⟨.get, server.url "version", none, server.timeoutSeconds.toNat⟩

/-- The text that is the only member with a name, or the only item, of a document as written. -/
def soleText? (key : String) : Value → Option String
  | .record members =>
    match members.filter fun member => member.1 == key with
    | [(_, .text text)] => some text
    | _ => none
  | .list [.text text] => some text
  | _ => none

/-- The text under a name in a body, if the body is one JSON document that has it. -/
def answerText? (key : String) (body : ByteArray) : Option String :=
  match String.fromUTF8? body with
  | none => none
  | some text =>
    match Json.readWritten text.toList with
    | .ok value => soleText? key value
    | .error _ => none

/-- What came of a request, as the text under a name. -/
def readOutcome (server : OllamaServer) (key : String) (request : HttpRequest) :
    HttpOutcome → Except EndpointError String
  | .answer status body =>
    if 200 ≤ status ∧ status ≤ 299 then
      match answerText? key body with
      | some text => .ok text
      | none => .error (.malformedResponse "error decoding response body")
    else .error (.status status (Text.lossy body))
  | .timedOut => .error (.timeout server.timeoutSeconds.toNat)
  | .unreachable => .error (.transport ("error sending request for url (" ++ request.url ++ ")"))

end OllamaServer

end Ensemble
