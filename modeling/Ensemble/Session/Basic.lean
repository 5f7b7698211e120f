/-
# Sessions

A session holds a registry of agents, the endpoint of agents without one of their own, how many
calls may be under way at once, and the calls that were made so far, in order. How endpoints
answer is a parameter: a function that may look at and change a state of its own, so that an
answer may depend on all earlier calls.
-/

import Ensemble.Agent.Registry
import Ensemble.Agent.Subtask

namespace Ensemble

/-- How endpoints answer a prompt, which may come with an image. -/
abbrev Responder (ε σ : Type) :=
  ε → String → Option (List UInt8) → σ → Except EndpointError String × σ

/-- A call that was made, and its answer. -/
structure Call (ε : Type) where
  endpoint : ε
  prompt : String
  image : Option (List UInt8)
  answer : Except EndpointError String

/-- Agents at work. -/
structure Session (ε σ : Type) where
  defaultEndpoint : ε
  parallelLimit : Nat
  registry : Registry ε
  /-- The calls so far, the last made at the end. -/
  calls : List (Call ε)
  /-- The state of the endpoints. -/
  world : σ

/-- What comes of an activity, and the session after it. -/
abbrev Result (ε σ α : Type) := Except OrchestrationError α × Session ε σ

namespace Session

variable {ε σ : Type}

/-- How many calls may be under way at once when nothing is said. -/
def standardLimit : Nat := 4

/-- A session without agents. -/
def start (defaultEndpoint : ε) (world : σ) : Session ε σ :=
  ⟨defaultEndpoint, standardLimit, .empty, [], world⟩

/-- The session with another limit; zero counts as one. -/
def withLimit (session : Session ε σ) (limit : Nat) : Session ε σ :=
  { session with parallelLimit := max limit 1 }

/-- Add an agent. Nothing changes when it is refused. -/
def register (agent : Agent ε) (session : Session ε σ) : Result ε σ (Agent ε) :=
  match session.registry.register agent with
  | .ok registry => (.ok agent, { session with registry := registry })
  | .error error => (.error error, session)

/-- Make an agent and add it. Without an endpoint of its own it has the default one. -/
def addAgent (name role instructions : String) (endpoint : Option ε) (session : Session ε σ) :
    Result ε σ (Agent ε) :=
  session.register (.new name role instructions (endpoint.getD session.defaultEndpoint))

/-- Remove the agent with a name, if there is one. -/
def removeAgent (name : String) (session : Session ε σ) : Option (Agent ε) × Session ε σ :=
  (session.registry.find? name, { session with registry := session.registry.remove name })

/-- The agent with a name remembers a value. -/
def remember (name key : String) (value : Datum) (session : Session ε σ) : Session ε σ :=
  { session with
    registry := session.registry.update name (·.remember key value) fun _ => rfl }

/-- The agent with a name forgets a key. -/
def forget (name key : String) (session : Session ε σ) : Session ε σ :=
  { session with registry := session.registry.update name (·.forget key) fun _ => rfl }

/-- The agent with a name forgets everything. -/
def clearMemory (name : String) (session : Session ε σ) : Session ε σ :=
  { session with registry := session.registry.update name Agent.clearMemory fun _ => rfl }

/-- The agent with a name keeps so many calls in its history. -/
def capHistory (name : String) (cap : Nat) (session : Session ε σ) : Session ε σ :=
  { session with registry := session.registry.update name (·.capHistory cap) fun _ => rfl }

/-- The agent with a name records a successful call. -/
def record (name : String) (entry : HistoryEntry) (session : Session ε σ) : Session ε σ :=
  { session with registry := session.registry.update name (·.record entry) fun _ => rfl }

/-- Send a prompt to an endpoint. -/
def send (responder : Responder ε σ) (endpoint : ε) (prompt : String)
    (image : Option (List UInt8)) (session : Session ε σ) :
    Except EndpointError String × Session ε σ :=
  let exchange := responder endpoint prompt image session.world
  (exchange.1, { session with
    calls := session.calls ++ [⟨endpoint, prompt, image, exchange.1⟩]
    world := exchange.2 })

/-- What one agent is asked: the kind of the request, the task as it was given, the task as it
is sent, and what comes with it. -/
structure Assignment where
  kind : HistoryKind
  task : String
  sentTask : String
  context : Option Context
  image : Option (List UInt8)

/-- One agent carries out an assignment with a single call, which goes into its history when it
succeeds. -/
def carryOut (responder : Responder ε σ) (agent : Agent ε) (assignment : Assignment)
    (session : Session ε σ) : Result ε σ String :=
  match session.send responder agent.endpoint
      (agent.prompt assignment.sentTask assignment.context) assignment.image with
  | (.ok result, after) =>
    (.ok result, after.record agent.name ⟨assignment.kind, assignment.task, result⟩)
  | (.error source, after) => (.error (.endpoint agent.name source), after)

/-- A task as it is, perhaps with an image. -/
def execute (responder : Responder ε σ) (agent : Agent ε) (task : String)
    (context : Option Context) (image : Option (List UInt8)) (session : Session ε σ) :
    Result ε σ String :=
  session.carryOut responder agent ⟨.task, task, task, context, image⟩

/-- A task in a shape. -/
def executeShaped (responder : Responder ε σ) (agent : Agent ε) (shape : Shape) (task : String)
    (context : Option Context) (session : Session ε σ) : Result ε σ String :=
  session.carryOut responder agent ⟨.task, task, shape.apply task, context, none⟩

/-- A problem to be broken down into steps before the answer. -/
def think (responder : Responder ε σ) (agent : Agent ε) (problem : String) (steps : Nat)
    (session : Session ε σ) : Result ε σ String :=
  session.carryOut responder agent
    ⟨.reasoning, problem, (Shape.stepByStep steps).apply problem, none, none⟩

/-- An answer to be revised. -/
def correct (responder : Responder ε σ) (agent : Agent ε) (answer feedback : String)
    (session : Session ε σ) : Result ε σ String :=
  session.carryOut responder agent
    ⟨.correction, answer, (Shape.selfCorrection feedback).apply answer, none, none⟩

/-- A task to be split into subtasks. -/
def decompose (responder : Responder ε σ) (agent : Agent ε) (task : String) (limit : Nat)
    (session : Session ε σ) : Result ε σ (List Subtask) :=
  match session.carryOut responder agent
      ⟨.decomposition, task, (Shape.decomposition limit).apply task, none, none⟩ with
  | (.ok answer, after) => (.ok (Subtask.ofAnswer answer task limit), after)
  | (.error error, after) => (.error error, after)

/-- A task for the agent with a name. Without such an agent nobody is called. -/
def assign (responder : Responder ε σ) (name task : String) (context : Option Context)
    (session : Session ε σ) : Result ε σ String :=
  match session.registry.require name with
  | .ok agent => session.execute responder agent task context none
  | .error error => (.error error, session)

end Session

end Ensemble
