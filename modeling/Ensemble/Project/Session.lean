/-
# The session of a project

Every agent of a project is registered. One that asks for a model or a temperature of its own gets
an endpoint of its own; the others share the default one.
-/

import Ensemble.Endpoint.Basic
import Ensemble.Project.Basic
import Ensemble.Session.Basic

namespace Ensemble

/-- An endpoint and whose it is: an agent's, or everyone's. -/
structure Binding where
  owner : Option String
  endpoint : Endpoint
deriving DecidableEq, Repr

/-- Why a project has no session. -/
inductive SessionFault where
  | endpoint (error : EndpointError)
  | agent (error : OrchestrationError)
deriving DecidableEq, Repr

/-- The sentence for a fault. -/
def SessionFault.message : SessionFault → String
  | endpoint error => error.message
  | agent error => error.message

/-- How bound endpoints answer over a transport. -/
def Binding.responder {σ : Type} (transport : HttpRequest → σ → HttpOutcome × σ) :
    Responder Binding σ :=
  fun binding prompt image state => binding.endpoint.send transport prompt image state

namespace Project

variable {σ : Type}

/-- The endpoint of an agent's own, if it asks for one. -/
def ownEndpoint? (settings : EndpointSettings) (profile : AgentProfile) :
    Except EndpointError (Option Binding) :=
  if profile.overridesEndpoint then
    match Endpoint.ofSettings (settings.withOverrides profile.model profile.temperature) with
    | .ok endpoint => .ok (some ⟨some profile.name, endpoint⟩)
    | .error error => .error error
  else .ok none

/-- Register agents, up to the first that fails. -/
def registerAgents (settings : EndpointSettings) (session : Session Binding σ) :
    List AgentProfile → Except SessionFault (Session Binding σ)
  | [] => .ok session
  | profile :: rest =>
    match ownEndpoint? settings profile with
    | .error error => .error (.endpoint error)
    | .ok binding =>
      match session.addAgent profile.name profile.role profile.instructions binding with
      | (.error error, _) => .error (.agent error)
      | (.ok _, registered) => registerAgents settings registered rest

/-- The session of a project. -/
def session (project : Project) (world : σ) : Except SessionFault (Session Binding σ) :=
  let settings := project.settings.endpoint
  match Endpoint.ofSettings settings with
  | .error error => .error (.endpoint error)
  | .ok endpoint =>
    let start := (Session.start (⟨none, endpoint⟩ : Binding) world).withLimit
      project.settings.coordination.parallelLimit.toNat
    registerAgents settings start project.agents

end Project

end Ensemble
