/-
# Exchanges of a session

An exchange is one call that an agent makes. Whatever a session does to let its agents work comes
down to a list of exchanges: the calls are appended in their order, every one is answered in the
state that the ones before it leave, each successful one is noted in the history of its agent,
and nothing else changes. This module names that relation between two sessions, `Conducts`, shows
how it composes, and reads off what it says about the registry.
-/

import Ensemble.Session.Basic

namespace Ensemble

variable {ε σ : Type}

/-- Endpoints that answer by the prompt alone, whatever was asked before. -/
def Responder.Answers (responder : Responder ε σ)
    (answer : ε → String → Option (List UInt8) → Except EndpointError String) : Prop :=
  ∀ endpoint prompt image world,
    (responder endpoint prompt image world).1 = answer endpoint prompt image

/-- One call of the agent with a name, for a task as it was given. -/
structure Exchange (ε : Type) where
  agent : String
  kind : HistoryKind
  task : String
  call : Call ε

namespace Exchange

/-- The exchange in which an agent carries out an assignment and gets an answer. -/
def of (agent : Agent ε) (assignment : Session.Assignment)
    (answer : Except EndpointError String) : Exchange ε :=
  ⟨agent.name, assignment.kind, assignment.task,
    ⟨agent.endpoint, agent.prompt assignment.sentTask assignment.context, assignment.image,
      answer⟩⟩

/-- The exchange in which an agent runs a task as it is. -/
def ofTask (agent : Agent ε) (task : String) (context : Option Context)
    (answer : Except EndpointError String) : Exchange ε :=
  of agent ⟨.task, task, task, context, none⟩ answer

/-- What an exchange leaves in a history: the call, if it succeeded. -/
def note? (exchange : Exchange ε) : Option HistoryEntry :=
  match exchange.call.answer with
  | .ok result => some ⟨exchange.kind, exchange.task, result⟩
  | .error _ => none

/-- What exchanges leave in the history of the agent with a name. -/
def entriesFor (name : String) (exchanges : List (Exchange ε)) : List HistoryEntry :=
  exchanges.filterMap fun exchange => if exchange.agent = name then exchange.note? else none

@[simp] theorem entriesFor_append (name : String) (first second : List (Exchange ε)) :
    entriesFor name (first ++ second) = entriesFor name first ++ entriesFor name second :=
  List.filterMap_append

end Exchange

/-- The history after several more successful calls. -/
def History.pushAll (history : History) (entries : List HistoryEntry) : History :=
  entries.foldl History.push history

@[simp] theorem History.pushAll_nil (history : History) : history.pushAll [] = history := rfl

@[simp] theorem History.pushAll_append (history : History) (first second : List HistoryEntry) :
    history.pushAll (first ++ second) = (history.pushAll first).pushAll second :=
  List.foldl_append

/-- Of the entries that a history had and those that it got, the newest are kept. -/
theorem History.entries_pushAll (history : History) (entries : List HistoryEntry) :
    (history.pushAll entries).entries = newest history.cap (history.entries ++ entries) := by
  induction entries generalizing history with
  | nil => rw [pushAll_nil, List.append_nil, newest_of_length_le history.length_le_cap]
  | cons entry rest ih =>
      have hpushed := ih (history.push entry)
      rw [push, newest_append_newest, List.append_assoc, List.singleton_append] at hpushed
      exact hpushed

theorem History.cap_pushAll (history : History) (entries : List HistoryEntry) :
    (history.pushAll entries).cap = history.cap := by
  induction entries generalizing history with
  | nil => rfl
  | cons entry rest ih => exact ih (history.push entry)

namespace Agent

/-- The agent after exchanges, of which it notes its own. -/
def noted (exchanges : List (Exchange ε)) (agent : Agent ε) : Agent ε :=
  { agent with history := agent.history.pushAll (Exchange.entriesFor agent.name exchanges) }

@[simp] theorem noted_nil : noted ([] : List (Exchange ε)) = id := rfl

@[simp] theorem noted_append (first second : List (Exchange ε)) (agent : Agent ε) :
    agent.noted (first ++ second) = (agent.noted first).noted second := by
  simp [noted]

/-- From one agent to another some notes were added to the history. It keeps its cap, and the newest
of what it had and what it got; the agent is otherwise the same. -/
structure Notes (notes : List HistoryEntry) (before after : Agent ε) : Prop where
  same : after = { before with history := after.history }
  cap : after.history.cap = before.history.cap
  entries : after.history.entries = newest before.history.cap (before.history.entries ++ notes)

theorem notes_noted (exchanges : List (Exchange ε)) (agent : Agent ε) :
    agent.Notes (Exchange.entriesFor agent.name exchanges) (agent.noted exchanges) :=
  ⟨rfl, History.cap_pushAll _ _, History.entries_pushAll _ _⟩

/-- A successful exchange is recorded by its agent and by nobody else. -/
theorem noted_of_ok {exchange : Exchange ε} {entry : HistoryEntry}
    (h : exchange.note? = some entry) (agent : Agent ε) :
    agent.noted [exchange] = if agent.name = exchange.agent then agent.record entry else agent := by
  by_cases hname : exchange.agent = agent.name
  · simp [noted, Exchange.entriesFor, hname, h, record, History.pushAll]
  · rw [if_neg (Ne.symm hname)]
    simp [noted, Exchange.entriesFor, hname]

/-- A failed exchange is not recorded. -/
theorem noted_of_error {exchange : Exchange ε} (h : exchange.note? = none) :
    noted [exchange] = id := by
  funext agent
  simp [noted, Exchange.entriesFor, h]

/-- An agent without an exchange of its own stays as it is. -/
theorem noted_of_silent {exchanges : List (Exchange ε)} {agent : Agent ε}
    (h : Exchange.entriesFor agent.name exchanges = []) : agent.noted exchanges = agent := by
  rw [noted, h, History.pushAll_nil]

end Agent

/-- Calls get their answers in turn: each is answered in the state that the ones before it
leave. -/
inductive Answered (responder : Responder ε σ) : σ → List (Call ε) → σ → Prop
  | done (world : σ) : Answered responder world [] world
  | call {world middle last : σ} {call : Call ε} {rest : List (Call ε)}
      (answer : responder call.endpoint call.prompt call.image world = (call.answer, middle))
      (later : Answered responder middle rest last) : Answered responder world (call :: rest) last

theorem Answered.append {responder : Responder ε σ} {world middle last : σ}
    {first second : List (Call ε)} (hfirst : Answered responder world first middle)
    (hsecond : Answered responder middle second last) :
    Answered responder world (first ++ second) last := by
  induction hfirst with
  | done world => exact hsecond
  | call answer later ih => exact .call answer (ih hsecond)

/-- From one session to another exactly the given exchanges took place, in their order. -/
structure Session.Conducts (responder : Responder ε σ) (before : Session ε σ)
    (exchanges : List (Exchange ε)) (after : Session ε σ) : Prop where
  calls : after.calls = before.calls ++ exchanges.map Exchange.call
  answered : Answered responder before.world (exchanges.map Exchange.call) after.world
  agents : after.registry.agents = before.registry.agents.map (Agent.noted exchanges)
  defaultEndpoint : after.defaultEndpoint = before.defaultEndpoint
  parallelLimit : after.parallelLimit = before.parallelLimit

/-- The agent that is found under a name has that name. -/
theorem Registry.name_of_find? {registry : Registry ε} {name : String} {agent : Agent ε}
    (h : registry.find? name = some agent) : agent.name = name := by
  simpa using List.find?_some h

namespace Session.Conducts

variable {responder : Responder ε σ} {before middle after : Session ε σ}
  {exchanges first second : List (Exchange ε)}

theorem refl (session : Session ε σ) : session.Conducts responder [] session where
  calls := by simp
  answered := .done _
  agents := by simp
  defaultEndpoint := rfl
  parallelLimit := rfl

/-- Exchanges follow on exchanges. -/
theorem trans (hfirst : before.Conducts responder first middle)
    (hsecond : middle.Conducts responder second after) :
    before.Conducts responder (first ++ second) after where
  calls := by rw [hsecond.calls, hfirst.calls, List.map_append, List.append_assoc]
  answered := by
    rw [List.map_append]
    exact hfirst.answered.append hsecond.answered
  agents := by
    rw [hsecond.agents, hfirst.agents, List.map_map]
    refine List.map_congr_left fun agent _ => ?_
    rw [Function.comp_apply, Agent.noted_append]
  defaultEndpoint := hsecond.defaultEndpoint.trans hfirst.defaultEndpoint
  parallelLimit := hsecond.parallelLimit.trans hfirst.parallelLimit

/-- The same agents are registered, each with its own exchanges noted. -/
theorem find? (h : before.Conducts responder exchanges after) (name : String) :
    after.registry.find? name = (before.registry.find? name).map (Agent.noted exchanges) := by
  rw [Registry.find?, h.agents, List.find?_map]
  rfl

/-- An agent that notes nothing is found as before. -/
theorem find?_of_silent (h : before.Conducts responder exchanges after) {name : String}
    (hsilent : Exchange.entriesFor name exchanges = []) :
    after.registry.find? name = before.registry.find? name := by
  rw [h.find?]
  cases hfind : before.registry.find? name with
  | none => rfl
  | some agent =>
      rw [← Registry.name_of_find? hfind] at hsilent
      rw [Option.map_some, Agent.noted_of_silent hsilent]

end Session.Conducts

namespace Session

variable (responder : Responder ε σ)

/-- The answer that an agent gets for an assignment. -/
def answerTo (agent : Agent ε) (assignment : Assignment) (session : Session ε σ) :
    Except EndpointError String :=
  (responder agent.endpoint (agent.prompt assignment.sentTask assignment.context)
    assignment.image session.world).1

/-- An agent carries out an assignment with a single exchange, whose answer is what comes of
it. -/
theorem conducts_carryOut (agent : Agent ε) (assignment : Assignment) (session : Session ε σ) :
    (session.carryOut responder agent assignment).1 =
        (session.answerTo responder agent assignment).mapError (.endpoint agent.name) ∧
      session.Conducts responder
        [.of agent assignment (session.answerTo responder agent assignment)]
        (session.carryOut responder agent assignment).2 := by
  obtain ⟨answer, world, hresponse⟩ : ∃ answer world,
      responder agent.endpoint (agent.prompt assignment.sentTask assignment.context)
        assignment.image session.world = (answer, world) := ⟨_, _, rfl⟩
  have hanswer : session.answerTo responder agent assignment = answer := by
    rw [answerTo, hresponse]
  rw [hanswer]
  cases answer with
  | ok result =>
      have hran : session.carryOut responder agent assignment = (.ok result,
          Session.record agent.name ⟨assignment.kind, assignment.task, result⟩
            { session with
              calls := session.calls ++ [(Exchange.of agent assignment (.ok result)).call]
              world := world }) := by
        simp only [carryOut, send, hresponse]
        rfl
      have hnote : (Exchange.of agent assignment (.ok result)).note? =
          some ⟨assignment.kind, assignment.task, result⟩ := rfl
      rw [hran]
      refine ⟨rfl, rfl, .call hresponse (.done _), ?_, rfl, rfl⟩
      exact List.map_congr_left fun other _ => (Agent.noted_of_ok hnote other).symm
  | error source =>
      have hran : session.carryOut responder agent assignment =
          (.error (.endpoint agent.name source),
            { session with
              calls := session.calls ++ [(Exchange.of agent assignment (.error source)).call]
              world := world }) := by
        simp only [carryOut, send, hresponse]
        rfl
      rw [hran]
      refine ⟨rfl, rfl, .call hresponse (.done _), ?_, rfl, rfl⟩
      rw [Agent.noted_of_error rfl, List.map_id]

/-- An agent that runs a task as it is makes one exchange, and comes to what it is answered. -/
theorem conducts_execute (agent : Agent ε) (task : String) (context : Option Context)
    (session : Session ε σ) :
    ∃ after,
      session.execute responder agent task context none =
        ((session.answerTo responder agent ⟨.task, task, task, context, none⟩).mapError
          (.endpoint agent.name), after) ∧
      session.Conducts responder [.ofTask agent task context
        (session.answerTo responder agent ⟨.task, task, task, context, none⟩)] after := by
  obtain ⟨hresult, hconducts⟩ :=
    session.conducts_carryOut responder agent ⟨.task, task, task, context, none⟩
  exact ⟨_, Prod.ext hresult rfl, hconducts⟩

/-- What an agent noted does not matter when it runs a task. -/
theorem execute_noted (agent : Agent ε) (exchanges : List (Exchange ε)) (task : String)
    (context : Option Context) (image : Option (List UInt8)) (session : Session ε σ) :
    session.execute responder (agent.noted exchanges) task context image =
      session.execute responder agent task context image := rfl

end Session

end Ensemble
