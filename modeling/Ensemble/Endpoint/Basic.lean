/-
# Endpoints

An endpoint answers prompts. Settings make one: a server, or an echo, which needs no valid
settings because it calls nobody.
-/

import Ensemble.Endpoint.Ollama

namespace Ensemble

/-- What answers prompts. -/
inductive Endpoint where
  | ollama (server : OllamaServer)
  | echo
deriving DecidableEq, Repr

namespace Endpoint

/-- The endpoint of some settings. -/
def ofSettings (settings : EndpointSettings) : Except EndpointError Endpoint :=
  match settings.provider with
  | .ollama => (OllamaServer.ofSettings settings).map ollama
  | .echo => .ok echo

/-- The name of the model that answers. -/
def modelName : Endpoint → String
  | ollama server => server.model
  | echo => "mock"

/-- Ask for a completion over a transport, whose state is threaded through. -/
def send {σ : Type} (transport : HttpRequest → σ → HttpOutcome × σ) (endpoint : Endpoint)
    (prompt : String) (image : Option (List UInt8)) (state : σ) :
    Except EndpointError String × σ :=
  match endpoint with
  | echo => (.ok prompt, state)
  | ollama server =>
    match server.completionRequest prompt image with
    | .error error => (.error error, state)
    | .ok request =>
      let exchange := transport request state
      (server.readOutcome "response" request exchange.1, exchange.2)

/-- Ask a server for its version over a transport. -/
def version {σ : Type} (transport : HttpRequest → σ → HttpOutcome × σ) (server : OllamaServer)
    (state : σ) : Except EndpointError String × σ :=
  let request := server.versionRequest
  let exchange := transport request state
  (server.readOutcome "version" request exchange.1, exchange.2)

end Endpoint

end Ensemble
