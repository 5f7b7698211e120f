/-
# Histories of a session

Every operation of a session tells which calls it would make; the calls that it makes are the first
of these, and its answer tells what came of them. So the calls of a run, each put to its errand,
tell for every agent which of its calls succeeded, for what, and with which answer: this is the log
of the agent. Its history shows the end of that log after every run, whoever asked for the calls.
-/

import Ensemble.Proofs.Agent.History
import Ensemble.Proofs.Session.Operation

namespace Ensemble

variable {ε σ : Type}

/-! ## Exchanges in a history -/

namespace Exchange

/-- What an exchange is for the history of its agent. -/
def event (exchange : Exchange ε) : HistoryEvent :=
  match exchange.note? with
  | some entry => .succeeded entry
  | none => .failed

/-- What exchanges are for the history of the agent with a name. -/
def eventsFor (name : String) (exchanges : List (Exchange ε)) : List HistoryEvent :=
  exchanges.filterMap fun exchange => if exchange.agent = name then some exchange.event else none

/-- Calls that were made for the first of some errands, as exchanges. -/
def ofErrands (errands : List Errand) (calls : List (Call ε)) : List (Exchange ε) :=
  List.zipWith (fun errand call => ⟨errand.agent, errand.kind, errand.task, call⟩) errands calls

/-- An agent notes what its exchanges are for its history. -/
theorem foldl_eventsFor (name : String) (exchanges : List (Exchange ε)) (history : History) :
    (eventsFor name exchanges).foldl History.after history =
      history.pushAll (entriesFor name exchanges) := by
  induction exchanges generalizing history with
  | nil => rfl
  | cons exchange rest ih =>
      rw [eventsFor, entriesFor, List.filterMap_cons, List.filterMap_cons]
      by_cases hagent : exchange.agent = name
      · rw [if_pos hagent, if_pos hagent, event]
        cases exchange.note? with
        | none => exact ih history
        | some entry => exact ih (history.push entry)
      · rw [if_neg hagent, if_neg hagent]
        exact ih history

/-- What counts as a success for the history of an agent is what the agent notes. -/
theorem filterMap_eventsFor (name : String) (exchanges : List (Exchange ε)) :
    (eventsFor name exchanges).filterMap HistoryEvent.entry? = entriesFor name exchanges := by
  rw [eventsFor, entriesFor, List.filterMap_filterMap]
  congr 1
  funext exchange
  split
  · rw [Option.bind_some, event]
    cases exchange.note? <;> rfl
  · rfl

/-- Exchanges that were made for the first of some errands are told by their calls. -/
theorem ofErrands_map_call {errands : List Errand} {exchanges : List (Exchange ε)}
    (h : exchanges.map errand <+: errands) :
    ofErrands errands (exchanges.map call) = exchanges := by
  induction exchanges generalizing errands with
  | nil => exact List.zipWith_nil_right
  | cons exchange rest ih =>
      obtain ⟨more, rfl⟩ := h
      rw [List.map_cons, List.map_cons, List.cons_append, ofErrands, List.zipWith_cons_cons]
      congr 1
      exact ih (List.prefix_append _ more)

end Exchange

/-! ## What operations ask for -/

namespace Operation

variable (responder : Responder ε σ)

/-- What agents are called for by an operation, as long as no call fails. -/
def errands (session : Session ε σ) : Operation ε → List Errand
  | .call name asked => if session.registry.has name then [asked.errand name] else []
  | .assign name task _ => [⟨name, .task, task⟩]
  | .coordinate request => request.agentNames.map request.errand
  | .collaborate task names context synthesizer =>
    session.collaborationErrands responder task names context synthesizer
  | .run workflow _ _ => Workflow.errands session.registry workflow.steps
  | _ => []

/-- What an operation says about the cap of the history of the agent with a name. -/
def capEvents (name : String) : Operation ε → List HistoryEvent
  | .capHistory other cap => if other = name then [.capped cap] else []
  | _ => []

theorem filterMap_capEvents (name : String) (operation : Operation ε) :
    (operation.capEvents name).filterMap HistoryEvent.entry? = [] := by
  cases operation with
  | capHistory other cap =>
      rw [capEvents]
      split <;> rfl
  | _ => rfl

/-- Whether an operation removes the agent with a name. -/
def removes (name : String) : Operation ε → Bool
  | .enroll (.remove other) => other == name
  | _ => false

end Operation

namespace Session

/-- The history of the agent with a name, if there is one. -/
def historyOf? (session : Session ε σ) (name : String) : Option History :=
  (session.registry.find? name).map Agent.history

variable (responder : Responder ε σ)

/-- The exchanges of an operation: the calls that it makes, each for its errand. -/
def exchangesOf (operation : Operation ε) (session : Session ε σ) : List (Exchange ε) :=
  Exchange.ofErrands (operation.errands responder session)
    ((session.perform responder operation).2.calls.drop session.calls.length)

/-- The exchanges of operations that are performed one after another. -/
def exchangesOfAll : List (Operation ε) → Session ε σ → List (Exchange ε)
  | [], _ => []
  | operation :: rest, session =>
    session.exchangesOf responder operation ++
      exchangesOfAll rest (session.perform responder operation).2

/-- What an operation is for the history of the agent with a name. -/
def eventsOf (name : String) (operation : Operation ε) (session : Session ε σ) :
    List HistoryEvent :=
  Exchange.eventsFor name (session.exchangesOf responder operation) ++ operation.capEvents name

/-- What operations are for the history of the agent with a name. -/
def eventsOfAll (name : String) : List (Operation ε) → Session ε σ → List HistoryEvent
  | [], _ => []
  | operation :: rest, session =>
    session.eventsOf responder name operation ++
      eventsOfAll name rest (session.perform responder operation).2

/-! ## One operation -/

/-- What is told of an operation with some errands and exchanges. Of a call, direct or assigned, it
is what comes of the one exchange that it is. A report, and a collaboration with a result, have the
answers to all errands; the results in the records of a workflow are those of the exchanges that
succeeded. -/
def Tells (registry : Registry ε) (errands : List Errand) (exchanges : List (Exchange ε)) :
    Operation ε → Answer ε → Prop
  | .call name call, answer => TellsCall registry name call .nobody exchanges answer
  | .assign name task context, answer =>
    TellsCall registry name (.execute task context none) (.text (.error (.agentNotFound name)))
      exchanges answer
  | .coordinate _, .report (.ok report) =>
    Exchange.Fulfil errands exchanges (report.entries.map CoordinationEntry.output)
  | .collaborate _ _ _ _, .collaboration (.ok collaboration) =>
    Exchange.Fulfil errands exchanges
      (collaboration.contributions.entries.map CoordinationEntry.output ++
        [collaboration.synthesis])
  | .run workflow _ _, .workflow (.ok report) _ =>
    exchanges.filterMap Exchange.result? = Workflow.results workflow.steps report.steps
  | _, _ => True

/-- From one session to another an operation was performed by some exchanges, and answered: its
calls are theirs, in their order and each answered by its endpoint, they are made for the first of
its errands by registered agents, the answer tells what came of them, and to the history of an agent
that stays happens what they say. -/
structure Performs (operation : Operation ε) (before : Session ε σ) (exchanges : List (Exchange ε))
    (answer : Answer ε) (after : Session ε σ) : Prop where
  calls : after.calls = before.calls ++ exchanges.map Exchange.call
  answered : Answered responder before.world (exchanges.map Exchange.call) after.world
  errands_prefix : exchanges.map Exchange.errand <+: operation.errands responder before
  isBy : ∀ exchange ∈ exchanges, exchange.IsBy before.registry
  tells : Tells before.registry (operation.errands responder before) exchanges operation answer
  histories : ∀ name history, operation.removes name = false →
    before.historyOf? name = some history → after.historyOf? name =
      some ((Exchange.eventsFor name exchanges ++ operation.capEvents name).foldl History.after
        history)

variable {responder} {operation : Operation ε} {answer : Answer ε}
  {session before after : Session ε σ}

/-- An operation that is nothing but errands. -/
theorem performs_of_serves {exchanges : List (Exchange ε)}
    (hserves : before.Serves responder (operation.errands responder before) exchanges after)
    (htells : Tells before.registry (operation.errands responder before) exchanges operation answer)
    (hcap : ∀ name, operation.capEvents name = []) :
    before.Performs responder operation exchanges answer after := by
  refine ⟨hserves.conducts.calls, hserves.conducts.answered, hserves.errands_prefix, hserves.isBy,
    htells, fun name history _ hhistory => ?_⟩
  obtain ⟨agent, hfound, rfl⟩ := Option.map_eq_some_iff.1 hhistory
  obtain rfl := Registry.name_of_find? hfound
  rw [historyOf?, hserves.conducts.find?, hfound, hcap, List.append_nil, Exchange.foldl_eventsFor]
  rfl

/-- An operation that calls nobody. -/
theorem performs_of_silent
    (htells : Tells before.registry (operation.errands responder before) [] operation answer)
    (hcalls : after.calls = before.calls) (hworld : after.world = before.world)
    (hhistories : ∀ name history, operation.removes name = false →
      before.historyOf? name = some history →
      after.historyOf? name = some ((operation.capEvents name).foldl History.after history)) :
    before.Performs responder operation [] answer after :=
  ⟨by rw [hcalls, List.map_nil, List.append_nil], hworld ▸ .done _, List.nil_prefix, by simp,
    htells, hhistories⟩

/-- An operation that changes nothing. -/
theorem performs_of_idle
    (htells : Tells before.registry (operation.errands responder before) [] operation answer)
    (hcap : ∀ name, operation.capEvents name = []) :
    before.Performs responder operation [] answer before :=
  performs_of_silent htells rfl rfl fun name history _ hhistory => by rw [hcap, hhistory]; rfl

/-- An operation that asks something of an agent. -/
theorem performs_of_consult (name : String) (inspect : Agent ε → Answer ε)
    (htells : ∀ answer,
      Tells before.registry (operation.errands responder before) [] operation answer)
    (hcap : ∀ name, operation.capEvents name = []) :
    before.Performs responder operation []
      (before.consult name fun agent => (inspect agent, before)).1
      (before.consult name fun agent => (inspect agent, before)).2 := by
  rw [consult]
  split <;> exact performs_of_idle (htells _) hcap

theorem historyOf?_update (name other : String) {change : Agent ε → Agent ε}
    (hname : ∀ agent, (change agent).name = agent.name) :
    ({ session with registry := session.registry.update name change hname } :
        Session ε σ).historyOf? other =
      (session.registry.find? other).map fun agent =>
        if other = name then (change agent).history else agent.history :=
  session.registry.map_find?_update name other hname Agent.history

/-- An edit of a memory leaves all histories as they are. -/
theorem historyOf?_edit (name other : String) (edit : MemoryEdit) :
    (session.edit name edit).historyOf? other = session.historyOf? other := by
  have hedited : (session.edit name edit).historyOf? other =
      (session.registry.find? other).map fun agent =>
        if other = name then agent.history else agent.history := by
    cases edit with
    | remember key value => exact historyOf?_update name other _
    | forget key => exact historyOf?_update name other _
    | clear => exact historyOf?_update name other _
  simp only [ite_self] at hedited
  exact hedited

/-- Whoever is not removed keeps its history when others join or leave. -/
theorem historyOf?_enroll {call : RosterCall ε} {name : String} {history : History}
    (hstays : (Operation.enroll call).removes name = false)
    (h : session.historyOf? name = some history) :
    (session.enroll call).2.historyOf? name = some history := by
  have henrolls := session.enrolls_enroll call
  by_cases hsubject : name = call.subject
  · obtain ⟨agent, hfound, -⟩ := Option.map_eq_some_iff.1 h
    cases hnewcomer : call.newcomer? session.defaultEndpoint with
    | none =>
        cases call with
        | remove other =>
            rw [Operation.removes, beq_eq_false_iff_ne] at hstays
            exact absurd hsubject.symm hstays
        | _ => simp [RosterCall.newcomer?] at hnewcomer
    | some newcomer =>
        have htaken : newcomer.name ∈ session.registry.names := by
          rw [← RosterCall.subject_of_newcomer hnewcomer, ← hsubject]
          exact Registry.mem_names_iff_exists.2 ⟨agent, hfound, Registry.name_of_find? hfound⟩
        obtain ⟨error, hrefused⟩ := henrolls.turnedAway newcomer hnewcomer (Or.inr htaken)
        rw [henrolls.refused error hrefused, h]
  · rw [historyOf?, henrolls.others name hsubject]
    exact h

variable (responder)

/-- An agent that is called does its errand, and nobody is called for a name that no agent has. -/
theorem performs_call (name : String) (call : AgentCall) (session : Session ε σ) :
    ∃ exchanges, session.Performs responder (.call name call) exchanges
      (session.perform responder (.call name call)).1
      (session.perform responder (.call name call)).2 := by
  rw [perform, consult]
  split
  next agent hfound =>
    obtain rfl := Registry.name_of_find? hfound
    obtain ⟨exchanges, hserves, htells⟩ := serves_answerCall responder call .nobody hfound
    refine ⟨exchanges, performs_of_serves ?_ htells fun _ => rfl⟩
    rw [Operation.errands, Registry.has_eq_isSome, hfound]
    exact hserves
  next hmissing =>
    refine ⟨[], performs_of_idle ?_ fun _ => rfl⟩
    rw [Tells, TellsCall, hmissing]
    exact ⟨rfl, rfl⟩

theorem performs_assign (name task : String) (context : Option Context) (session : Session ε σ) :
    ∃ exchanges, session.Performs responder (.assign name task context) exchanges
      (session.perform responder (.assign name task context)).1
      (session.perform responder (.assign name task context)).2 := by
  obtain ⟨exchanges, hserves, htells⟩ := session.serves_assign responder name task context
  exact ⟨exchanges, performs_of_serves hserves htells fun _ => rfl⟩

theorem performs_coordinate (request : CoordinationRequest) (session : Session ε σ) :
    ∃ exchanges, session.Performs responder (.coordinate request) exchanges
      (session.perform responder (.coordinate request)).1
      (session.perform responder (.coordinate request)).2 := by
  obtain ⟨exchanges, hserves, hfulfil⟩ := session.serves_coordinate responder request
  refine ⟨exchanges, performs_of_serves hserves ?_ fun _ => rfl⟩
  rw [perform]
  rcases hran : session.coordinate responder request with ⟨result, after⟩
  rw [hran] at hfulfil
  cases result with
  | error error => trivial
  | ok report => exact hfulfil report rfl

theorem performs_collaborate (task : String) (names : List String) (context : Option Context)
    (synthesizer : Option String) (session : Session ε σ) :
    ∃ exchanges, session.Performs responder (.collaborate task names context synthesizer) exchanges
      (session.perform responder (.collaborate task names context synthesizer)).1
      (session.perform responder (.collaborate task names context synthesizer)).2 := by
  obtain ⟨exchanges, hserves, hfulfil⟩ :=
    session.serves_collaborate responder task names context synthesizer
  refine ⟨exchanges, performs_of_serves hserves ?_ fun _ => rfl⟩
  rw [perform]
  rcases hran : session.collaborate responder task names context synthesizer with ⟨result, after⟩
  rw [hran] at hfulfil
  cases result with
  | error error => trivial
  | ok collaboration => exact hfulfil collaboration rfl

theorem performs_run (workflow : Workflow) (stamp : RunStamp) (listener : Listener)
    (session : Session ε σ) :
    ∃ exchanges, session.Performs responder (.run workflow stamp listener) exchanges
      (session.perform responder (.run workflow stamp listener)).1
      (session.perform responder (.run workflow stamp listener)).2 := by
  obtain ⟨exchanges, hserves, hresults⟩ := workflow.serves_run responder stamp listener session
  refine ⟨exchanges, performs_of_serves hserves ?_ fun _ => rfl⟩
  rw [perform]
  rcases hran : workflow.run responder stamp listener session with ⟨result, heard, after⟩
  rw [hran] at hresults
  cases result with
  | error error => trivial
  | ok report => exact hresults report rfl

/-- A cap is set for the agent that is named. -/
theorem performs_capHistory (name : String) (cap : Nat) (session : Session ε σ) :
    session.Performs responder (.capHistory name cap) []
      (session.perform responder (.capHistory name cap)).1
      (session.perform responder (.capHistory name cap)).2 := by
  rw [perform, consult]
  split
  next agent _ =>
    refine performs_of_silent trivial rfl rfl fun other history _ hhistory => ?_
    have hcapped : (session.capHistory name cap).historyOf? other =
        (session.registry.find? other).map fun agent =>
          if other = name then (agent.capHistory cap).history else agent.history :=
      historyOf?_update name other _
    obtain ⟨found, hfound, rfl⟩ := Option.map_eq_some_iff.1 hhistory
    refine hcapped.trans ?_
    rw [hfound, Operation.capEvents]
    by_cases heq : other = name
    · rw [if_pos heq.symm, Option.map_some, if_pos heq]
      rfl
    · rw [if_neg (Ne.symm heq), Option.map_some, if_neg heq]
      rfl
  next hmissing =>
    refine performs_of_silent trivial rfl rfl fun other history _ hhistory => ?_
    have hother : name ≠ other := by
      rintro rfl
      rw [historyOf?, hmissing] at hhistory
      cases hhistory
    rw [Operation.capEvents, if_neg hother, hhistory]
    rfl

theorem performs_edit (name : String) (edit : MemoryEdit) (session : Session ε σ) :
    session.Performs responder (.edit name edit) []
      (session.perform responder (.edit name edit)).1
      (session.perform responder (.edit name edit)).2 := by
  have hkept : (session.edit name edit).calls = session.calls ∧
      (session.edit name edit).world = session.world := by
    cases edit <;> exact ⟨rfl, rfl⟩
  rw [perform, consult]
  split
  next =>
    refine performs_of_silent trivial hkept.1 hkept.2 fun other history _ hhistory => ?_
    rw [historyOf?_edit, hhistory]
    rfl
  next => exact performs_of_idle trivial fun _ => rfl

theorem performs_enroll (call : RosterCall ε) (session : Session ε σ) :
    session.Performs responder (.enroll call) [] (session.perform responder (.enroll call)).1
      (session.perform responder (.enroll call)).2 := by
  have hcalls : (session.enroll call).2.calls = session.calls := by rw [enroll_eq]
  have hworld : (session.enroll call).2.world = session.world := by rw [enroll_eq]
  exact performs_of_silent trivial hcalls hworld fun _ _ hstays => historyOf?_enroll hstays

/-- Every operation is performed by some exchanges. -/
theorem exists_performs (operation : Operation ε) (session : Session ε σ) :
    ∃ exchanges, session.Performs responder operation exchanges
      (session.perform responder operation).1 (session.perform responder operation).2 := by
  cases operation with
  | call name call => exact session.performs_call responder name call
  | assign name task context => exact session.performs_assign responder name task context
  | coordinate request => exact session.performs_coordinate responder request
  | collaborate task names context synthesizer =>
      exact session.performs_collaborate responder task names context synthesizer
  | run workflow stamp listener => exact session.performs_run responder workflow stamp listener
  | enroll call => exact ⟨[], session.performs_enroll responder call⟩
  | capHistory name cap => exact ⟨[], session.performs_capHistory responder name cap⟩
  | edit name edit => exact ⟨[], session.performs_edit responder name edit⟩
  | showPrompt name task context =>
      exact ⟨[], performs_of_consult name _ (fun _ => trivial) fun _ => rfl⟩
  | history name => exact ⟨[], performs_of_consult name _ (fun _ => trivial) fun _ => rfl⟩
  | historyCap name => exact ⟨[], performs_of_consult name _ (fun _ => trivial) fun _ => rfl⟩
  | lookUp name key => exact ⟨[], performs_of_consult name _ (fun _ => trivial) fun _ => rfl⟩
  | memoryKeys name => exact ⟨[], performs_of_consult name _ (fun _ => trivial) fun _ => rfl⟩
  | setLimit limit => exact ⟨[], performs_of_silent trivial rfl rfl fun _ _ _ h => h⟩
  | _ => exact ⟨[], performs_of_idle trivial fun _ => rfl⟩

/-- Every operation is performed by the exchanges that its calls tell. -/
theorem performs (operation : Operation ε) (session : Session ε σ) :
    session.Performs responder operation (session.exchangesOf responder operation)
      (session.perform responder operation).1 (session.perform responder operation).2 := by
  obtain ⟨exchanges, hperforms⟩ := session.exists_performs responder operation
  have hexchanges : session.exchangesOf responder operation = exchanges := by
    rw [exchangesOf, hperforms.calls, List.drop_left,
      Exchange.ofErrands_map_call hperforms.errands_prefix]
  rwa [hexchanges]

/-- A registered agent that is called takes one step of its history: with a success the entry is
added that tells of it, and without one nothing changes. The answer is a success just when the call
is. -/
theorem step_call {agent : Agent ε} (call : AgentCall)
    (hfound : session.registry.find? agent.name = some agent) :
    ∃ given later, (session.perform responder (.call agent.name call)).1 =
        call.reply (given.mapError (.endpoint agent.name)) ∧
      (session.perform responder (.call agent.name call)).2.historyOf? agent.name = some later ∧
      agent.history.Step (Exchange.of agent call.assignment given).event later := by
  have hperforms := session.performs responder (.call agent.name call)
  have htells := hperforms.tells
  rw [Tells, TellsCall, hfound] at htells
  obtain ⟨given, hexchanges, hanswer⟩ := htells
  have hbefore : session.historyOf? agent.name = some agent.history := by
    rw [historyOf?, hfound]
    rfl
  have hhistory := hperforms.histories agent.name agent.history rfl hbefore
  have hevents : Exchange.eventsFor agent.name [Exchange.of agent call.assignment given] =
      [(Exchange.of agent call.assignment given).event] :=
    List.filterMap_cons_some (if_pos rfl)
  rw [hexchanges, hevents] at hhistory
  exact ⟨given, _, hanswer, hhistory, History.step_after _ _⟩

/-! ## Runs -/

theorem calls_performAll (operations : List (Operation ε)) (session : Session ε σ) :
    (session.performAll responder operations).2.calls =
      session.calls ++ (session.exchangesOfAll responder operations).map Exchange.call := by
  induction operations generalizing session with
  | nil => exact (List.append_nil session.calls).symm
  | cons operation rest ih =>
      rw [performAll, ih, (session.performs responder operation).calls, exchangesOfAll,
        List.map_append, List.append_assoc]

theorem answered_performAll (operations : List (Operation ε)) (session : Session ε σ) :
    Answered responder session.world
      ((session.exchangesOfAll responder operations).map Exchange.call)
      (session.performAll responder operations).2.world := by
  induction operations generalizing session with
  | nil => exact .done session.world
  | cons operation rest ih =>
      rw [exchangesOfAll, List.map_append]
      exact (session.performs responder operation).answered.append (ih _)

/-- To the history of an agent that stays happens what the operations of a run are for it. -/
theorem historyOf?_performAll {operations : List (Operation ε)} {session : Session ε σ}
    {name : String} {history : History} (h : session.historyOf? name = some history)
    (hstays : ∀ operation ∈ operations, operation.removes name = false) :
    (session.performAll responder operations).2.historyOf? name =
      some ((session.eventsOfAll responder name operations).foldl History.after history) := by
  induction operations generalizing session history with
  | nil => exact h
  | cons operation rest ih =>
      have hnext := (session.performs responder operation).histories name history
        (hstays operation List.mem_cons_self) h
      rw [eventsOfAll, List.foldl_append]
      exact ih hnext fun other hother => hstays other (List.mem_cons_of_mem _ hother)

/-- The log of an agent consists of its calls that succeeded. -/
theorem filterMap_eventsOfAll (name : String) (operations : List (Operation ε))
    (session : Session ε σ) :
    (session.eventsOfAll responder name operations).filterMap HistoryEvent.entry? =
      Exchange.entriesFor name (session.exchangesOfAll responder operations) := by
  induction operations generalizing session with
  | nil => rfl
  | cons operation rest ih =>
      rw [eventsOfAll, eventsOf, exchangesOfAll, List.filterMap_append, List.filterMap_append,
        Exchange.filterMap_eventsFor, Operation.filterMap_capEvents, List.append_nil, ih,
        Exchange.entriesFor_append]

/-- Every operation is performed by exchanges, which its calls and its errands tell, and its answer
tells what came of them. A registered agent that is called takes one step of its history, which is
decided by what the caller is told. In any run the calls are those of all exchanges, and an agent
that is not removed lives through what the exchanges and the caps are for its history: a success
makes the history longer by one until it is full, a failure changes nothing, and a cap of at least
one makes it as short as it says. After the run the history still shows the log of all calls of the
agent that succeeded, within its cap, and entries that were dropped stay dropped. -/
theorem history_shows_log (responder : Responder ε σ) :
    (∀ (operation : Operation ε) (session : Session ε σ),
      session.Performs responder operation (session.exchangesOf responder operation)
        (session.perform responder operation).1 (session.perform responder operation).2) ∧
    (∀ (session : Session ε σ) (agent : Agent ε) (call : AgentCall),
      session.registry.find? agent.name = some agent →
      ∃ given later, (session.perform responder (.call agent.name call)).1 =
          call.reply (given.mapError (.endpoint agent.name)) ∧
        (session.perform responder (.call agent.name call)).2.historyOf? agent.name = some later ∧
        agent.history.Step (Exchange.of agent call.assignment given).event later) ∧
    ∀ (operations : List (Operation ε)) (session : Session ε σ),
      (session.performAll responder operations).2.calls =
        session.calls ++ (session.exchangesOfAll responder operations).map Exchange.call ∧
      Answered responder session.world
        ((session.exchangesOfAll responder operations).map Exchange.call)
        (session.performAll responder operations).2.world ∧
      ∀ (name : String) (history : History) (log : List HistoryEntry) (dropped : Nat),
        session.historyOf? name = some history → history.Shows log dropped →
        (∀ operation ∈ operations, operation.removes name = false) →
        ∃ (later : History) (droppedLater : Nat),
          (session.performAll responder operations).2.historyOf? name = some later ∧
          history.Lives (session.eventsOfAll responder name operations) later ∧
          later.Shows
            (log ++ Exchange.entriesFor name (session.exchangesOfAll responder operations))
            droppedLater ∧
          dropped ≤ droppedLater ∧ 1 ≤ later.cap ∧ later.entries.length ≤ later.cap := by
  refine ⟨performs responder, fun session agent call => step_call responder call, ?_⟩
  intro operations session
  refine ⟨session.calls_performAll responder operations,
    session.answered_performAll responder operations, ?_⟩
  intro name history log dropped hhistory hshows hstays
  have hlater := historyOf?_performAll responder hhistory hstays
  have hlives := History.lives_foldl (session.eventsOfAll responder name operations) history
  obtain ⟨droppedLater, hdropped, hlaterShows⟩ := hlives.shows hshows
  rw [filterMap_eventsOfAll] at hlaterShows
  exact ⟨_, droppedLater, hlater, hlives, hlaterShows, hdropped, History.one_le_cap _,
    History.length_le_cap _⟩

/-- Endpoints of which the third call gets no answer. -/
def losesThird : Responder Unit Nat := fun _ _ _ calls =>
  (if calls = 2 then .error (.timeout 30) else .ok "done", calls + 1)

/-- One agent, which did nothing yet. -/
def loneAgent : Session Unit Nat :=
  ((start () 0).perform losesThird (.enroll (.add "a" "" "" none))).2

/-- The agent is called directly and by others, its cap is lowered, set to nothing and raised, and
its third call fails. -/
def mixedCalls : List (Operation Unit) :=
  [.call "a" (.think "one" 3), .assign "a" "two" none, .capHistory "a" 0,
    .coordinate (.new "three" ["a"] .parallel), .capHistory "a" 5,
    .call "a" (.decompose "four" 2)]

/-- A correction that is answered is the first entry of the history. In the run the second and the
fourth task are left; the first was dropped, and does not return. -/
theorem history_shows_log_mixedCalls :
    loneAgent.historyOf? "a" = some .empty ∧ History.empty.Shows [] 0 ∧
      (∀ operation ∈ mixedCalls, operation.removes "a" = false) ∧
      (∃ agent corrected, loneAgent.registry.find? "a" = some agent ∧ agent.name = "a" ∧
        (loneAgent.perform losesThird (.call "a" (.correct "draft" "shorter"))).2.historyOf? "a" =
          some corrected ∧
        History.empty.Step (.succeeded ⟨.correction, "draft", "done"⟩) corrected) ∧
      Exchange.entriesFor "a" (loneAgent.exchangesOfAll losesThird mixedCalls) =
        [⟨.reasoning, "one", "done"⟩, ⟨.task, "two", "done"⟩, ⟨.decomposition, "four", "done"⟩] ∧
      ∃ later, (loneAgent.performAll losesThird mixedCalls).2.historyOf? "a" = some later ∧
        later.Shows [⟨.reasoning, "one", "done"⟩, ⟨.task, "two", "done"⟩,
          ⟨.decomposition, "four", "done"⟩] 1 ∧ later.cap = 5 := by
  have hhistory : loneAgent.historyOf? "a" = some .empty := by rfl
  have hstays : ∀ operation ∈ mixedCalls, operation.removes "a" = false := by
    simp [mixedCalls, Operation.removes]
  obtain ⟨-, hcall, hrun⟩ := history_shows_log losesThird
  have hfound : loneAgent.registry.find? "a" = some (.new "a" "" "" ()) := by rfl
  have hcorrected : ∃ corrected,
      (loneAgent.perform losesThird (.call "a" (.correct "draft" "shorter"))).2.historyOf? "a" =
          some corrected ∧
        History.empty.Step (.succeeded ⟨.correction, "draft", "done"⟩) corrected := by
    obtain ⟨given, corrected, hanswer, hafter, hstep⟩ :=
      hcall loneAgent (.new "a" "" "" ()) (.correct "draft" "shorter") hfound
    refine ⟨corrected, hafter, ?_⟩
    have htold : (Answer.text (.ok "done") : Answer Unit) =
        .text (given.mapError (.endpoint "a")) := hanswer
    cases given with
    | error source => cases htold
    | ok output =>
        obtain rfl : "done" = output := Except.ok.inj (Answer.text.inj htold)
        exact hstep
  obtain ⟨corrected, hcorrected, hstep⟩ := hcorrected
  have hlog : Exchange.entriesFor "a" (loneAgent.exchangesOfAll losesThird mixedCalls) =
      [⟨.reasoning, "one", "done"⟩, ⟨.task, "two", "done"⟩, ⟨.decomposition, "four", "done"⟩] := by
    decide +kernel
  obtain ⟨-, -, hshown⟩ := hrun mixedCalls loneAgent
  obtain ⟨later, droppedLater, hlater, -, hshows, -⟩ :=
    hshown "a" .empty [] 0 hhistory History.empty_shows hstays
  rw [hlog, List.nil_append] at hshows
  have hend : ((loneAgent.performAll losesThird mixedCalls).2.historyOf? "a").map
      (fun history => (history.entries.length, history.cap)) = some (2, 5) := by
    decide +kernel
  rw [hlater, Option.map_some] at hend
  obtain ⟨hlength, hcap⟩ := Prod.mk.inj (Option.some.inj hend)
  -- A log of three entries of which two are shown has lost one.
  have hdropped := congrArg List.length hshows.entries
  rw [hlength, List.length_drop] at hdropped
  obtain rfl : droppedLater = 1 := by
    simp only [List.length_cons, List.length_nil] at hdropped
    omega
  exact ⟨hhistory, History.empty_shows, hstays, ⟨_, corrected, hfound, rfl, hcorrected, hstep⟩,
    hlog, later, hlater, hshows, hcap⟩

end Session

end Ensemble
