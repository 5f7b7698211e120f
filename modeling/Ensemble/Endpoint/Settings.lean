/-
# Endpoint settings

How an endpoint is reached and what is asked of it. What a document leaves out has a default.
-/

import Ensemble.Document.Decoding

namespace Ensemble

/-- What kind of endpoint answers. -/
inductive Provider where
  /-- A server that speaks the Ollama protocol. -/
  | ollama
  /-- No server: every prompt is its own completion. -/
  | echo
deriving DecidableEq, Repr, Inhabited

namespace Provider

/-- The name of a provider. -/
def name : Provider → String
  | ollama => "ollama"
  | echo => "echo"

/-- Every provider under its name. -/
def named : List (String × Provider) :=
  [("ollama", ollama), ("echo", echo)]

/-- Read a provider. -/
def decode (origin : Origin) : Value → Decoded Provider :=
  Value.decodeVariant named origin

end Provider

/-- A number in single precision as a value; null if it is not finite. -/
def encodeSingle (number : Binary32) : Value :=
  if number.isFinite then .number (.single number) else .null

/-- Settings of an endpoint. -/
structure EndpointSettings where
  provider : Provider
  /-- The address with its scheme and without the port. -/
  url : String
  port : UInt16
  model : String
  /-- How freely the model answers, between zero and one. -/
  temperature : Binary32
  timeoutSeconds : UInt64
deriving DecidableEq, Repr

namespace EndpointSettings

/-- The settings when nothing is said. -/
def standard : EndpointSettings :=
  ⟨.ollama, "http://localhost", 11434, "llama3", .zero false, 120⟩

instance : Inhabited EndpointSettings := ⟨standard⟩

/-- The settings with another model or temperature. -/
def withOverrides (settings : EndpointSettings) (model : Option String)
    (temperature : Option Binary32) : EndpointSettings :=
  { settings with
    model := model.getD settings.model
    temperature := temperature.getD settings.temperature }

/-- Whether two settings say the same; a negative zero is zero. -/
def agrees (left right : EndpointSettings) : Bool :=
  left.provider == right.provider && left.url == right.url && left.port == right.port &&
    left.model == right.model && left.temperature.numericEq right.temperature &&
    left.timeoutSeconds == right.timeoutSeconds

/-- Settings as a record. -/
def encode (settings : EndpointSettings) : Value :=
  .record [("provider", .text settings.provider.name), ("url", .text settings.url),
    ("port", .number (.integer settings.port.toNat)), ("model", .text settings.model),
    ("temperature", encodeSingle settings.temperature),
    ("timeout-secs", .number (.integer settings.timeoutSeconds.toNat))]

/-- The fields of settings. -/
def fields (origin : Origin) : Fields EndpointSettings :=
  (Fields.none EndpointSettings.mk)
    |>.both (.optional "provider" (Provider.decode origin) standard.provider)
    |>.both (.optional "url" Value.decodeText standard.url)
    |>.both (.optional "port"
      (fun value => (value.decodeWhole UInt16.size "u16").map UInt16.ofNat) standard.port)
    |>.both (.optional "model" Value.decodeText standard.model)
    |>.both (.optional "temperature" Value.decodeSingle standard.temperature)
    |>.both (.optional "timeout-secs"
      (fun value => (value.decodeWhole UInt64.size "u64").map UInt64.ofNat) standard.timeoutSeconds)

/-- Read settings from an origin. -/
def decodeFrom (origin : Origin) : Value → Decoded EndpointSettings :=
  (fields origin).decode "struct EndpointConfig" origin

/-- Read settings. -/
def decode : Value → Decoded EndpointSettings :=
  decodeFrom .direct

end EndpointSettings

end Ensemble
