/-
# Coordinated tasks of a session

A session runs a request with agents of its registry. All of them are looked up before the first
call is made. A collaboration is a sequential run whose results one agent then combines.
-/

import Ensemble.Coordination.ResultKeys
import Ensemble.Coordination.Run
import Ensemble.Coordination.Synthesis

namespace Ensemble

/-- What came of a collaboration. -/
structure Collaboration where
  contributions : CoordinationReport
  synthesizer : String
  synthesis : String
deriving DecidableEq, Repr

namespace Session

variable {ε σ : Type}

/-- The sentence for a request without agents. -/
def noAgents : String := "at least one agent is required"

/-- Look up an agent for every name and key. -/
def takeSeats (registry : Registry ε) :
    List (String × String) → Except OrchestrationError (List (Seat ε))
  | [] => .ok []
  | (name, key) :: rest =>
    match registry.require name with
    | .error error => .error error
    | .ok agent => (takeSeats registry rest).map (⟨key, agent⟩ :: ·)

/-- The seats for agent names. -/
def seats (registry : Registry ε) (names : List String) :
    Except OrchestrationError (List (Seat ε)) :=
  if names.isEmpty then .error (.invalidStrategy noAgents)
  else takeSeats registry (names.zip (resultKeys names))

/-- Run a request. -/
def coordinate (responder : Responder ε σ) (request : CoordinationRequest)
    (session : Session ε σ) : Result ε σ CoordinationReport :=
  match seats session.registry request.agentNames with
  | .error error => (.error error, session)
  | .ok taken =>
    match Coordination.run responder request session.parallelLimit taken session with
    | (.error error, after) => (.error error, after)
    | (.ok entries, after) => (.ok ⟨request.strategy, request.task, entries⟩, after)

/-- The agent that combines contributions: the one that is named, or else the first. -/
def synthesizerOf (registry : Registry ε) (names : List String) (synthesizer : Option String) :
    Except OrchestrationError (Agent ε) :=
  match synthesizer, names with
  | some name, _ => registry.require name
  | none, name :: _ => registry.require name
  | none, [] => .error (.invalidStrategy noAgents)

/-- The request behind a collaboration. -/
def collaborationRequest (task : String) (names : List String) (context : Option Context) :
    CoordinationRequest :=
  { CoordinationRequest.new task names .sequential with context := context }

/-- The error of a synthesis that failed, which keeps the contributions. -/
def synthesisError (synthesizer : String) (contributions : CoordinationReport) :
    OrchestrationError → OrchestrationError
  | .endpoint _ source => .synthesisFailed synthesizer contributions source
  | other => other

/-- Gather contributions one after another, then have one agent combine them. -/
def collaborate (responder : Responder ε σ) (task : String) (names : List String)
    (context : Option Context) (synthesizer : Option String) (session : Session ε σ) :
    Result ε σ Collaboration :=
  match synthesizerOf session.registry names synthesizer with
  | .error error => (.error error, session)
  | .ok agent =>
    match session.coordinate responder (collaborationRequest task names context) with
    | (.error error, after) => (.error error, after)
    | (.ok contributions, after) =>
      match after.execute responder agent (synthesisTask task contributions) context none with
      | (.ok synthesis, last) => (.ok ⟨contributions, agent.name, synthesis⟩, last)
      | (.error error, last) => (.error (synthesisError agent.name contributions error), last)

end Session

end Ensemble
