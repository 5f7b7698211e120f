/-
# Operations of a session

Everything that can be asked of a session, in one type, and what is answered. An operation on an
agent names it; when nobody has that name, this is the answer and nothing happens. A run performs
operations one after another.
-/

import Ensemble.Proofs.Session.Conduct
import Ensemble.Proofs.Session.Inertness
import Ensemble.Proofs.Session.Roster

namespace Ensemble

variable {ε σ : Type}

/-- What an agent can be called for. -/
inductive AgentCall where
  | execute (task : String) (context : Option Context) (image : Option (List UInt8))
  | shaped (shape : Shape) (task : String) (context : Option Context)
  | think (problem : String) (steps : Nat)
  | correct (answer feedback : String)
  | decompose (task : String) (limit : Nat)

/-- What the agent with a name is called for. -/
def AgentCall.errand (name : String) : AgentCall → Errand
  | execute task _ _ => ⟨name, .task, task⟩
  | shaped _ task _ => ⟨name, .task, task⟩
  | think problem _ => ⟨name, .reasoning, problem⟩
  | correct answer _ => ⟨name, .correction, answer⟩
  | decompose task _ => ⟨name, .decomposition, task⟩

/-- The assignment that an agent gets with a call. -/
def AgentCall.assignment : AgentCall → Session.Assignment
  | execute task context image => ⟨.task, task, task, context, image⟩
  | shaped shape task context => ⟨.task, task, shape.apply task, context, none⟩
  | think problem steps => ⟨.reasoning, problem, (Shape.stepByStep steps).apply problem, none, none⟩
  | correct answer feedback =>
    ⟨.correction, answer, (Shape.selfCorrection feedback).apply answer, none, none⟩
  | decompose task limit =>
    ⟨.decomposition, task, (Shape.decomposition limit).apply task, none, none⟩

/-- A change of what an agent remembers. -/
inductive MemoryEdit where
  | remember (key : String) (value : Datum)
  | forget (key : String)
  | clear

/-- What can be asked of a session. -/
inductive Operation (ε : Type) where
  | enroll (call : RosterCall ε)
  | find (name : String)
  | has (name : String)
  | list
  | limit
  | setLimit (limit : Nat)
  | call (name : String) (call : AgentCall)
  | showPrompt (name task : String) (context : Option Context)
  | assign (name task : String) (context : Option Context)
  | coordinate (request : CoordinationRequest)
  | collaborate (task : String) (names : List String) (context : Option Context)
      (synthesizer : Option String)
  | run (workflow : Workflow) (stamp : RunStamp) (listener : Listener)
  | history (name : String)
  | historyCap (name : String)
  | capHistory (name : String) (cap : Nat)
  | edit (name : String) (edit : MemoryEdit)
  | lookUp (name key : String)
  | memoryKeys (name : String)

/-- What is answered. -/
inductive Answer (ε : Type) where
  | done
  /-- No agent has the name. -/
  | nobody
  | enrolled (result : Except OrchestrationError (Option (Agent ε)))
  | agent (found : Option (Agent ε))
  | truth (value : Bool)
  | number (value : Nat)
  | names (names : List String)
  | prompt (text : String)
  | text (result : Except OrchestrationError String)
  | subtasks (result : Except OrchestrationError (List Subtask))
  | report (result : Except OrchestrationError CoordinationReport)
  | collaboration (result : Except OrchestrationError Collaboration)
  | workflow (result : Except OrchestrationError WorkflowReport) (listener : Listener)
  | entries (entries : List HistoryEntry)
  | datum (value : Option Datum)

/-- What is answered to a call of which this has come. -/
def AgentCall.reply (result : Except OrchestrationError String) : AgentCall → Answer ε
  | decompose task limit => .subtasks (result.map fun text => Subtask.ofAnswer text task limit)
  | _ => .text result

namespace MemoryEdit

/-- The memory after a change. -/
def apply (memory : Dictionary Datum) : MemoryEdit → Dictionary Datum
  | remember key value => memory.insert key value
  | forget key => memory.erase key
  | clear => ∅

/-- What a change answers: the value that is forgotten. -/
def answer (agent : Agent ε) : MemoryEdit → Answer ε
  | forget key => .datum (agent.remembered? key)
  | _ => .done

end MemoryEdit

namespace Session

variable (responder : Responder ε σ)

/-- Do something with the agent with a name. -/
def consult (name : String) (act : Agent ε → Answer ε × Session ε σ) (session : Session ε σ) :
    Answer ε × Session ε σ :=
  match session.registry.find? name with
  | some agent => act agent
  | none => (.nobody, session)

/-- Call an agent. -/
def answerCall (agent : Agent ε) (call : AgentCall) (session : Session ε σ) :
    Answer ε × Session ε σ :=
  match call with
  | .execute task context image =>
    (session.execute responder agent task context image).map .text id
  | .shaped shape task context =>
    (session.executeShaped responder agent shape task context).map .text id
  | .think problem steps => (session.think responder agent problem steps).map .text id
  | .correct answer feedback => (session.correct responder agent answer feedback).map .text id
  | .decompose task limit => (session.decompose responder agent task limit).map .subtasks id

/-- To call an agent is to have it carry out one assignment. -/
theorem answerCall_eq (agent : Agent ε) (call : AgentCall) (session : Session ε σ) :
    session.answerCall responder agent call =
      (session.carryOut responder agent call.assignment).map call.reply id := by
  cases call with
  | decompose task limit =>
      rw [answerCall, decompose_eq]
      rfl
  | _ => rfl

/-- What is told of a call of the agent with a name: what comes of its one exchange, or else that
there is no such agent. -/
def TellsCall (registry : Registry ε) (name : String) (call : AgentCall) (absent : Answer ε)
    (exchanges : List (Exchange ε)) (answer : Answer ε) : Prop :=
  match registry.find? name with
  | some agent => ∃ given : Except EndpointError String,
      exchanges = [.of agent call.assignment given] ∧
        answer = call.reply (given.mapError (.endpoint name))
  | none => exchanges = [] ∧ answer = absent

/-- A registered agent that is called does its one errand. -/
theorem serves_answerCall {agent : Agent ε} (call : AgentCall) (absent : Answer ε)
    {session : Session ε σ} (hfound : session.registry.find? agent.name = some agent) :
    ∃ exchanges, session.Serves responder [call.errand agent.name] exchanges
        (session.answerCall responder agent call).2 ∧
      TellsCall session.registry agent.name call absent exchanges
        (session.answerCall responder agent call).1 := by
  obtain ⟨given, hresult, hserves⟩ := serves_carryOut responder call.assignment hfound
  have herrand : call.errand agent.name =
      ⟨agent.name, call.assignment.kind, call.assignment.task⟩ := by
    cases call <;> rfl
  rw [answerCall_eq, herrand]
  refine ⟨_, hserves, ?_⟩
  rw [TellsCall, hfound]
  exact ⟨given, rfl, congrArg call.reply hresult⟩

/-- An agent that gets a task is called for it, if it is registered. -/
theorem serves_assign (name task : String) (context : Option Context) (session : Session ε σ) :
    ∃ exchanges, session.Serves responder [⟨name, .task, task⟩] exchanges
        (session.assign responder name task context).2 ∧
      TellsCall session.registry name (.execute task context none)
        (.text (.error (.agentNotFound name))) exchanges
        (.text (session.assign responder name task context).1) := by
  cases hfound : session.registry.find? name with
  | none =>
      rw [assign_of_missing responder task context hfound]
      refine ⟨[], .none _ session, ?_⟩
      rw [TellsCall, hfound]
      exact ⟨rfl, rfl⟩
  | some agent =>
      obtain rfl := Registry.name_of_find? hfound
      rw [assign_of_found responder task context hfound]
      exact serves_answerCall responder (.execute task context none) _ hfound

/-- Change what the agent with a name remembers. -/
def edit (name : String) (edit : MemoryEdit) (session : Session ε σ) : Session ε σ :=
  match edit with
  | .remember key value => session.remember name key value
  | .forget key => session.forget name key
  | .clear => session.clearMemory name

/-- Perform an operation. -/
def perform (operation : Operation ε) (session : Session ε σ) : Answer ε × Session ε σ :=
  match operation with
  | .enroll call => (session.enroll call).map .enrolled id
  | .find name => (.agent (session.registry.find? name), session)
  | .has name => (.truth (session.registry.has name), session)
  | .list => (.names session.registry.names, session)
  | .limit => (.number session.parallelLimit, session)
  | .setLimit limit => (.done, session.withLimit limit)
  | .call name call => session.consult name fun agent => session.answerCall responder agent call
  | .showPrompt name task context =>
    session.consult name fun agent => (.prompt (agent.prompt task context), session)
  | .assign name task context => (session.assign responder name task context).map .text id
  | .coordinate request => (session.coordinate responder request).map .report id
  | .collaborate task names context synthesizer =>
    (session.collaborate responder task names context synthesizer).map .collaboration id
  | .run workflow stamp listener =>
    let ran := workflow.run responder stamp listener session
    (.workflow ran.1 ran.2.1, ran.2.2)
  | .history name => session.consult name fun agent => (.entries agent.history.entries, session)
  | .historyCap name => session.consult name fun agent => (.number agent.history.cap, session)
  | .capHistory name cap => session.consult name fun _ => (.done, session.capHistory name cap)
  | .edit name edit => session.consult name fun agent => (edit.answer agent, session.edit name edit)
  | .lookUp name key => session.consult name fun agent => (.datum (agent.remembered? key), session)
  | .memoryKeys name => session.consult name fun agent => (.names agent.memory.keys, session)

/-- Perform operations, one after another. -/
def performAll : List (Operation ε) → Session ε σ → List (Answer ε) × Session ε σ
  | [], session => ([], session)
  | operation :: rest, session =>
    let performed := session.perform responder operation
    let later := performAll rest performed.2
    (performed.1 :: later.1, later.2)

end Session

end Ensemble
