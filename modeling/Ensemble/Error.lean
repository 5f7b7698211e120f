/-
# Orchestration errors

Why a task could not be run. Mistakes of the caller are kept apart from endpoints that fail.
-/

import Ensemble.Coordination.Report
import Ensemble.Endpoint.Error

namespace Ensemble

/-- The kinds of orchestration errors. -/
inductive ErrorKind where
  | agentNotFound
  | duplicateName
  | invalidAgentName
  | endpoint
  | invalidStrategy
  | synthesis
deriving DecidableEq, Repr

namespace ErrorKind

/-- The kind as a reader sees it. -/
def title : ErrorKind → String
  | agentNotFound => "agent not found"
  | duplicateName => "duplicate name"
  | invalidAgentName => "invalid agent name"
  | endpoint => "endpoint error"
  | invalidStrategy => "invalid strategy"
  | synthesis => "synthesis failed"

/-- The kind as documents name it. -/
def code : ErrorKind → String
  | agentNotFound => "AGENT_NOT_FOUND"
  | duplicateName => "DUPLICATE_NAME"
  | invalidAgentName => "INVALID_AGENT_NAME"
  | endpoint => "ENDPOINT"
  | invalidStrategy => "INVALID_STRATEGY"
  | synthesis => "SYNTHESIS"

/-- Every kind under its code. -/
def coded : List (String × ErrorKind) :=
  [agentNotFound, duplicateName, invalidAgentName, endpoint, invalidStrategy, synthesis].map
    fun kind => (kind.code, kind)

/-- Read a kind. -/
def decode (origin : Origin) : Value → Decoded ErrorKind :=
  Value.decodeVariant coded origin

end ErrorKind

/-- Why a task could not be run. -/
inductive OrchestrationError where
  | agentNotFound (name : String)
  | duplicateName (name : String)
  | invalidAgentName (reason : String)
  | endpoint (agent : String) (source : EndpointError)
  | invalidStrategy (reason : String)
  /-- The contributions are all there, but the agent that should have combined them failed. -/
  | synthesisFailed (synthesizer : String) (contributions : CoordinationReport)
      (source : EndpointError)
deriving DecidableEq, Repr

namespace OrchestrationError

/-- The sentence for an error. -/
def message : OrchestrationError → String
  | agentNotFound name => "Agent '" ++ name ++ "' not found in registry"
  | duplicateName name => "Agent '" ++ name ++ "' is already registered"
  | invalidAgentName reason => "Invalid agent name: " ++ reason
  | endpoint agent source =>
    "Endpoint call failed for agent '" ++ agent ++ "': " ++ source.message
  | invalidStrategy reason => "Invalid strategy configuration: " ++ reason
  | synthesisFailed synthesizer contributions source =>
    "Synthesis by '" ++ synthesizer ++ "' failed after " ++ toString contributions.size ++
      " contributions: " ++ source.message

/-- The kind of an error. -/
def kind : OrchestrationError → ErrorKind
  | agentNotFound _ => .agentNotFound
  | duplicateName _ => .duplicateName
  | invalidAgentName _ => .invalidAgentName
  | endpoint _ _ => .endpoint
  | invalidStrategy _ => .invalidStrategy
  | synthesisFailed _ _ _ => .synthesis

end OrchestrationError

end Ensemble
