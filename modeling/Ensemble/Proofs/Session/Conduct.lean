/-
# Every task is made of exchanges

Whatever comes of a task, a result or an error, the session behind it is the one before it after
some exchanges. A task tells beforehand which calls it would make: whom it would call, for what kind
of call, and with which task. The exchanges are the first of these, in their order, made by agents
that were registered; a task that has a result made all of them. An exchange leaves everything but
histories, calls and the state of the endpoints as it is.
-/

import Mathlib.Data.List.Forall2
import Ensemble.Proofs.Agent.Registry
import Ensemble.Proofs.Coordination.Alignment
import Ensemble.Proofs.Session.Collaboration
import Ensemble.Proofs.Workflow.Account

namespace Ensemble

variable {ε σ : Type}

/-- What an agent is called for: its name, the kind of the call, and the task as it is given. -/
structure Errand where
  agent : String
  kind : HistoryKind
  task : String
deriving DecidableEq, Repr

namespace Exchange

/-- What the agent of an exchange was called for. -/
def errand (exchange : Exchange ε) : Errand :=
  ⟨exchange.agent, exchange.kind, exchange.task⟩

/-- What an exchange brought that succeeded: the output, and the errand that it is for. -/
def result? (exchange : Exchange ε) : Option (Errand × String) :=
  match exchange.call.answer with
  | .ok output => some (exchange.errand, output)
  | .error _ => none

/-- All of some errands were done, and each of the exchanges was answered with its output. -/
structure Fulfil (errands : List Errand) (exchanges : List (Exchange ε)) (outputs : List String) :
    Prop where
  errands_eq : exchanges.map errand = errands
  answers_eq : exchanges.map (·.call.answer) = outputs.map .ok

/-- Errands are fulfilled one after another. -/
theorem Fulfil.append {errands more : List Errand} {first second : List (Exchange ε)}
    {outputs others : List String} (hfirst : Fulfil errands first outputs)
    (hsecond : Fulfil more second others) :
    Fulfil (errands ++ more) (first ++ second) (outputs ++ others) where
  errands_eq := by rw [List.map_append, hfirst.errands_eq, hsecond.errands_eq]
  answers_eq := by rw [List.map_append, hfirst.answers_eq, hsecond.answers_eq, List.map_append]

/-- An exchange is made by a registered agent, over its endpoint and with a prompt of its own. -/
def IsBy (registry : Registry ε) (exchange : Exchange ε) : Prop :=
  ∃ agent assignment, registry.find? agent.name = some agent ∧
    exchange = .of agent assignment exchange.call.answer

end Exchange

/-- A registered agent may as well be the one from before some exchanges. -/
theorem Session.Conducts.isBy {responder : Responder ε σ} {before after : Session ε σ}
    {made : List (Exchange ε)} {exchange : Exchange ε} (h : before.Conducts responder made after)
    (hby : exchange.IsBy after.registry) : exchange.IsBy before.registry := by
  obtain ⟨agent, assignment, hfound, hexchange⟩ := hby
  rw [h.find?] at hfound
  obtain ⟨earlier, hearlier, rfl⟩ := Option.map_eq_some_iff.1 hfound
  exact ⟨earlier, assignment, hearlier, hexchange⟩

/-- The same names are registered after exchanges. -/
theorem Session.Conducts.has {responder : Responder ε σ} {before after : Session ε σ}
    {made : List (Exchange ε)} (h : before.Conducts responder made after) (name : String) :
    after.registry.has name = before.registry.has name := by
  rw [Registry.has_eq_isSome, Registry.has_eq_isSome, h.find?, Option.isSome_map]

/-- From one session to another exactly the given exchanges took place, which are the first of some
errands, done by registered agents. -/
structure Session.Serves (responder : Responder ε σ) (errands : List Errand)
    (before : Session ε σ) (exchanges : List (Exchange ε)) (after : Session ε σ) : Prop where
  conducts : before.Conducts responder exchanges after
  errands_prefix : exchanges.map Exchange.errand <+: errands
  isBy : ∀ exchange ∈ exchanges, exchange.IsBy before.registry

namespace Session

variable {responder : Responder ε σ} {before middle after : Session ε σ}

/-- What the agent with a name remembers, if there is one. -/
def memoryOf? (session : Session ε σ) (name : String) : Option (Dictionary Datum) :=
  (session.registry.find? name).map Agent.memory

/-- The same agents are registered, and each remembers what it did. -/
theorem Conducts.memoryOf? {exchanges : List (Exchange ε)}
    (h : before.Conducts responder exchanges after) (name : String) :
    after.memoryOf? name = before.memoryOf? name := by
  rw [Session.memoryOf?, Session.memoryOf?, h.find?, Option.map_map]
  rfl

namespace Serves

variable {errands more : List Errand} {exchanges first second : List (Exchange ε)}

theorem none (errands : List Errand) (session : Session ε σ) :
    session.Serves responder errands [] session :=
  ⟨.refl session, List.nil_prefix, by simp⟩

/-- Errands that are done are the first of those and others. -/
theorem widen (h : before.Serves responder errands exchanges after) (more : List Errand) :
    before.Serves responder (errands ++ more) exchanges after :=
  ⟨h.conducts, h.errands_prefix.trans (List.prefix_append _ _), h.isBy⟩

/-- Errands follow on errands that are all done. -/
theorem append (hfirst : before.Serves responder errands first middle)
    (hdone : first.map Exchange.errand = errands)
    (hsecond : middle.Serves responder more second after) :
    before.Serves responder (errands ++ more) (first ++ second) after where
  conducts := hfirst.conducts.trans hsecond.conducts
  errands_prefix := by
    rw [List.map_append, hdone]
    exact (List.prefix_append_right_inj _).2 hsecond.errands_prefix
  isBy := by
    intro exchange hmem
    rcases List.mem_append.1 hmem with hmem | hmem
    · exact hfirst.isBy exchange hmem
    · exact hfirst.conducts.isBy (hsecond.isBy exchange hmem)

end Serves

variable (responder)

/-- A registered agent carries out an assignment by doing the one errand that it is, and comes to
what it is answered. -/
theorem serves_carryOut {agent : Agent ε} (assignment : Assignment) {session : Session ε σ}
    (hfound : session.registry.find? agent.name = some agent) :
    ∃ given, (session.carryOut responder agent assignment).1 =
        given.mapError (.endpoint agent.name) ∧
      session.Serves responder [⟨agent.name, assignment.kind, assignment.task⟩]
        [.of agent assignment given] (session.carryOut responder agent assignment).2 := by
  obtain ⟨hresult, hconducts⟩ := session.conducts_carryOut responder agent assignment
  refine ⟨_, hresult, hconducts, List.prefix_rfl, fun exchange hmem => ?_⟩
  rw [List.mem_singleton.1 hmem]
  exact ⟨agent, assignment, hfound, rfl⟩

/-- To decompose a task is to carry out an assignment and to look at its answer. -/
theorem decompose_eq (agent : Agent ε) (task : String) (limit : Nat) (session : Session ε σ) :
    session.decompose responder agent task limit =
      (session.carryOut responder agent
        ⟨.decomposition, task, (Shape.decomposition limit).apply task, .none, .none⟩).map
          (Except.map fun answer => Subtask.ofAnswer answer task limit) id := by
  rw [decompose]
  split
  next hran => rw [hran]; rfl
  next hran => rw [hran]; rfl

theorem assign_of_missing {name : String} (task : String) (context : Option Context)
    {session : Session ε σ} (hmissing : session.registry.find? name = Option.none) :
    session.assign responder name task context = (.error (.agentNotFound name), session) := by
  rw [assign, Registry.require, hmissing]

/-- To assign a task to a registered agent is to have it run the task as it is. -/
theorem assign_of_found {agent : Agent ε} (task : String) (context : Option Context)
    {session : Session ε σ} (hfound : session.registry.find? agent.name = some agent) :
    session.assign responder agent.name task context =
      session.carryOut responder agent ⟨.task, task, task, context, .none⟩ := by
  rw [assign, Registry.require, hfound]
  rfl

end Session

/-! ## Coordinated tasks -/

/-- What the agent at a seat is called for. -/
def CoordinationRequest.errand (request : CoordinationRequest) (name : String) : Errand :=
  ⟨name, .task, request.task⟩

namespace Coordination

variable (responder : Responder ε σ) (request : CoordinationRequest)

/-- In an exchange the agent at a seat is asked to run the task of a request. -/
def Asks (seat : Seat ε) (exchange : Exchange ε) : Prop :=
  ∃ base answer, exchange =
    .ofTask seat.agent request.task (some (request.contextFor seat.agent.name base)) answer

/-- From one session to another the first of some seats made their calls, in their order. -/
structure Attempts (before : Session ε σ) (seats : List (Seat ε)) (exchanges : List (Exchange ε))
    (after : Session ε σ) : Prop where
  called : ∃ called, called <+: seats ∧ List.Forall₂ (Asks request) called exchanges
  conducts : before.Conducts responder exchanges after

variable {responder request} {before middle after : Session ε σ} {seats : List (Seat ε)}
  {exchanges : List (Exchange ε)}

theorem Attempts.none (seats : List (Seat ε)) (session : Session ε σ) :
    Attempts responder request session seats [] session :=
  ⟨⟨[], List.nil_prefix, .nil⟩, .refl session⟩

theorem Attempts.cons {seat : Seat ε} {exchange : Exchange ε} (hasks : Asks request seat exchange)
    (hfirst : before.Conducts responder [exchange] middle)
    (h : Attempts responder request middle seats exchanges after) :
    Attempts responder request before (seat :: seats) (exchange :: exchanges) after := by
  obtain ⟨called, hfront, hcalled⟩ := h.called
  exact ⟨⟨seat :: called, (List.prefix_cons_inj _).2 hfront, .cons hasks hcalled⟩,
    hfirst.trans h.conducts⟩

/-- What the first of the seats do, the first of more seats do. -/
theorem Attempts.widen {others : List (Seat ε)}
    (h : Attempts responder request before seats exchanges after) (hfront : seats <+: others) :
    Attempts responder request before others exchanges after := by
  obtain ⟨called, hcalled, hasks⟩ := h.called
  exact ⟨⟨called, hcalled.trans hfront, hasks⟩, h.conducts⟩

/-- Seats that all took their turns come before those that make their calls next. -/
theorem Takes.attempts_append {turns : List (Turn ε)} {entries : List CoordinationEntry}
    {others : List (Seat ε)} (hfirst : Takes responder request before seats turns entries middle)
    (h : Attempts responder request middle others exchanges after) :
    Attempts responder request before (seats ++ others)
      (turns.map (Turn.exchange request) ++ exchanges) after := by
  obtain ⟨called, hfront, hcalled⟩ := h.called
  have hturns : List.Forall₂ (Asks request) seats (turns.map (Turn.exchange request)) := by
    rw [← hfirst.seats_eq, List.forall₂_map_left_iff, List.forall₂_map_right_iff,
      List.forall₂_same]
    exact fun turn _ => ⟨turn.base, .ok turn.output, rfl⟩
  exact ⟨⟨seats ++ called, (List.prefix_append_right_inj _).2 hfront,
    List.rel_append hturns hcalled⟩, hfirst.conducts.trans h.conducts⟩

variable (responder request)

theorem asks_runSeat (base : Context) (seat : Seat ε) (session : Session ε σ) :
    ∃ exchange, Asks request seat exchange ∧
      session.Conducts responder [exchange] (runSeat responder request base seat session).2 := by
  obtain ⟨after, hexecuted, hconducts⟩ := session.conducts_execute responder seat.agent
    request.task (some (request.contextFor seat.agent.name base))
  generalize session.answerTo responder seat.agent _ = answer at hexecuted hconducts
  refine ⟨_, ⟨base, answer, rfl⟩, ?_⟩
  rw [runSeat, hexecuted]
  cases answer <;> exact hconducts

theorem attempts_runInTurn (base : Context) (seats : List (Seat ε)) (session : Session ε σ) :
    ∃ exchanges, Attempts responder request session seats exchanges
      (runInTurn responder request base seats session).2 := by
  induction seats generalizing session with
  | nil => exact ⟨[], .none _ session⟩
  | cons seat rest ih =>
      obtain ⟨exchange, hasks, hseat⟩ := asks_runSeat responder request base seat session
      rw [runInTurn]
      split
      next error after hran =>
        rw [hran] at hseat
        exact ⟨[exchange], .cons hasks hseat (.none rest after)⟩
      next entry after hran =>
        rw [hran] at hseat
        obtain ⟨exchanges, hrest⟩ := ih after
        have hboth := hrest.cons hasks hseat
        split
        next hlater => exact ⟨_, by rwa [hlater] at hboth⟩
        next hlater => exact ⟨_, by rwa [hlater] at hboth⟩

theorem attempts_runWindow (base : Context) (limit : Nat)
    (started : List (Except OrchestrationError CoordinationEntry)) (seats : List (Seat ε))
    (session : Session ε σ) :
    ∃ exchanges, Attempts responder request session seats exchanges
      (runWindow responder request base limit started seats session).2 := by
  induction seats generalizing started session with
  | nil => cases started <;> exact ⟨[], .none _ session⟩
  | cons seat rest ih =>
      obtain ⟨exchange, hasks, hseat⟩ := asks_runSeat responder request base seat session
      cases started with
      | nil =>
          obtain ⟨exchanges, hrest⟩ := ih [(runSeat responder request base seat session).1] _
          rw [runWindow]
          exact ⟨_, hrest.cons hasks hseat⟩
      | cons first started =>
          rw [runWindow.eq_def]
          simp only
          split
          next =>
            obtain ⟨exchanges, hrest⟩ := ih _ _
            exact ⟨_, hrest.cons hasks hseat⟩
          next =>
            cases first with
            | error error => exact ⟨[], .none _ session⟩
            | ok entry =>
                obtain ⟨exchanges, hrest⟩ := ih (started ++
                  [(runSeat responder request base seat session).1]) _
                have hboth := hrest.cons hasks hseat
                simp only
                split
                next hlater => exact ⟨_, by rwa [hlater] at hboth⟩
                next hlater => exact ⟨_, by rwa [hlater] at hboth⟩

theorem attempts_runGroups (limit : Nat) (sizes : List Nat) (base : Context)
    (seats : List (Seat ε)) (session : Session ε σ) :
    ∃ exchanges, Attempts responder request session seats exchanges
      (runGroups responder request limit sizes base seats session).2 := by
  induction sizes generalizing base seats session with
  | nil => exact ⟨[], .none _ session⟩
  | cons size sizes ih =>
      rw [runGroups]
      split
      next => exact ⟨[], .none _ session⟩
      next =>
        split
        next error after hran =>
          obtain ⟨exchanges, hgroup⟩ := attempts_runWindow responder request base (max limit 1) []
            (seats.take size) session
          rw [runAtOnce] at hran
          rw [hran] at hgroup
          exact ⟨exchanges, hgroup.widen (List.take_prefix size seats)⟩
        next entries after hran =>
          obtain ⟨turns, hturns, -⟩ := runAtOnce_ok hran
          obtain ⟨exchanges, hrest⟩ := ih (withOutputs base entries) (seats.drop size) after
          have hboth := hturns.attempts_append hrest
          rw [List.take_append_drop] at hboth
          split
          next hlater => exact ⟨_, by rwa [hlater] at hboth⟩
          next hlater => exact ⟨_, by rwa [hlater] at hboth⟩

theorem attempts_run (limit : Nat) (seats : List (Seat ε)) (session : Session ε σ) :
    ∃ exchanges, Attempts responder request session seats exchanges
      (run responder request limit seats session).2 := by
  rw [run]
  split
  next => exact attempts_runInTurn responder request _ seats session
  next => exact attempts_runWindow responder request _ _ [] seats session
  next =>
    split
    next => exact ⟨[], .none _ session⟩
    next sizes _ => exact attempts_runGroups responder request limit sizes _ seats session

variable {responder request}

/-- The first of the seats of registered agents do the first of the errands. -/
theorem Attempts.serves {names : List String} (hseats : SeatsFor before.registry names seats)
    (h : Attempts responder request before seats exchanges after) :
    before.Serves responder (names.map request.errand) exchanges after := by
  obtain ⟨called, hfront, hcalled⟩ := h.called
  refine ⟨h.conducts, ?_, fun exchange hmem => ?_⟩
  · have herrands : exchanges.map Exchange.errand =
        called.map fun seat => request.errand seat.agent.name := by
      clear hfront h
      induction hcalled with
      | nil => rfl
      | cons hasks _ ih =>
          obtain ⟨base, answer, rfl⟩ := hasks
          rw [List.map_cons, List.map_cons, ih]
          rfl
    have hnames : names.map request.errand =
        seats.map fun seat => request.errand seat.agent.name := by
      rw [← hseats.names_eq, List.map_map]
      rfl
    rw [herrands, hnames]
    exact hfront.map _
  · obtain ⟨seat, hseat, base, answer, rfl⟩ : ∃ seat ∈ called, Asks request seat exchange := by
      clear hfront h
      induction hcalled with
      | nil => simp at hmem
      | cons hasks _ ih =>
          rcases List.mem_cons.1 hmem with rfl | hmem
          · exact ⟨_, List.mem_cons_self, hasks⟩
          · obtain ⟨seat, hseat, hask⟩ := ih hmem
            exact ⟨seat, List.mem_cons_of_mem _ hseat, hask⟩
    exact ⟨seat.agent, _, hseats.found seat (hfront.subset hseat), rfl⟩

end Coordination

namespace Session

variable (responder : Responder ε σ)

/-- A coordinated task does the first of its errands; when it has a report, it has done all of them,
and the outputs of the report are their answers. -/
theorem serves_coordinate (request : CoordinationRequest) (session : Session ε σ) :
    ∃ exchanges, session.Serves responder (request.agentNames.map request.errand) exchanges
        (session.coordinate responder request).2 ∧
      ∀ report, (session.coordinate responder request).1 = .ok report →
        Exchange.Fulfil (request.agentNames.map request.errand) exchanges
          (report.entries.map CoordinationEntry.output) := by
  rw [coordinate]
  split
  next => exact ⟨[], .none _ session, by simp⟩
  next taken htaken =>
    have hseats := seats_ok htaken
    split
    next error after hrun =>
      obtain ⟨exchanges, hattempts⟩ :=
        Coordination.attempts_run responder request session.parallelLimit taken session
      rw [hrun] at hattempts
      exact ⟨exchanges, hattempts.serves hseats, by simp⟩
    next entries after hrun =>
      obtain ⟨turns, hturns⟩ := Coordination.run_ok hseats.length hrun
      have hattempts := hturns.attempts_append (.none [] after)
      rw [List.append_nil, List.append_nil] at hattempts
      refine ⟨_, hattempts.serves hseats, fun report hreport => ?_⟩
      obtain rfl := Except.ok.inj hreport
      constructor
      · rw [← hseats.names_eq, ← hturns.seats_eq, List.map_map, List.map_map, List.map_map]
        rfl
      · rw [← hturns.entries_eq, List.map_map, List.map_map, List.map_map]
        rfl

/-- What agents are called for in a collaboration: the task, and then one of them the synthesis of
what was contributed. -/
def collaborationErrands (session : Session ε σ) (task : String) (names : List String)
    (context : Option Context) (synthesizer : Option String) : List Errand :=
  let request := collaborationRequest task names context
  names.map request.errand ++
    match synthesizerOf session.registry names synthesizer,
      (session.coordinate responder request).1 with
    | .ok agent, .ok contributions => [⟨agent.name, .task, synthesisTask task contributions⟩]
    | _, _ => []

/-- A collaboration does the first of its errands; when it has a result, it has done all of them,
and the last answer is the synthesis of the others. -/
theorem serves_collaborate (task : String) (names : List String) (context : Option Context)
    (synthesizer : Option String) (session : Session ε σ) :
    ∃ exchanges, session.Serves responder
        (session.collaborationErrands responder task names context synthesizer) exchanges
        (session.collaborate responder task names context synthesizer).2 ∧
      ∀ collaboration,
        (session.collaborate responder task names context synthesizer).1 = .ok collaboration →
        Exchange.Fulfil (session.collaborationErrands responder task names context synthesizer)
          exchanges (collaboration.contributions.entries.map CoordinationEntry.output ++
            [collaboration.synthesis]) := by
  rw [collaborationErrands]
  cases hchosen : synthesizerOf session.registry names synthesizer with
  | error error =>
      rw [collaborate_of_unchosen hchosen]
      exact ⟨[], .none _ session, by simp⟩
  | ok combiner =>
      obtain ⟨first, hfirst, hfulfil⟩ :=
        session.serves_coordinate responder (collaborationRequest task names context)
      rcases hcoordinated : session.coordinate responder (collaborationRequest task names context)
        with ⟨result, middle⟩
      rw [hcoordinated] at hfirst hfulfil
      cases result with
      | error error =>
          rw [collaborate_of_error hchosen hcoordinated]
          exact ⟨first, hfirst.widen _, by simp⟩
      | ok contributions =>
          have hdone := hfulfil contributions rfl
          obtain ⟨given, after, hcombined, hcollaborated⟩ :=
            collaborate_of_ok hchosen hcoordinated
          rw [hcollaborated]
          refine ⟨_, ⟨hfirst.conducts.trans hcombined, ?_, fun exchange hmem => ?_⟩, ?_⟩
          · rw [List.map_append, hdone.errands_eq]
            exact List.prefix_rfl
          · rcases List.mem_append.1 hmem with hmem | hmem
            · exact hfirst.isBy exchange hmem
            · rw [List.mem_singleton.1 hmem]
              exact ⟨combiner, _, (synthesizerOf_eq_ok_iff.1 hchosen).2, rfl⟩
          · intro collaboration hresult
            cases given with
            | error source => cases hresult
            | ok synthesis =>
                obtain rfl := Except.ok.inj hresult
                exact hdone.append ⟨rfl, rfl⟩

end Session

/-! ## Workflows -/

namespace Workflow

/-- What agents are called for by steps: those of them that are registered, for their steps. -/
def errands (registry : Registry ε) (steps : List WorkflowStep) : List Errand :=
  (steps.filter fun step => registry.has step.agent).map fun step => ⟨step.agent, .task, step.task⟩

/-- The results that records tell of, each for the errand of its step. -/
def results (steps : List WorkflowStep) (records : List StepRecord) : List (Errand × String) :=
  (steps.zip records).filterMap fun done =>
    done.2.outcome.value?.map fun value => (⟨done.1.agent, .task, done.1.task⟩, value)

theorem results_cons (step : WorkflowStep) (record : StepRecord) (steps : List WorkflowStep)
    (records : List StepRecord) :
    results (step :: steps) (record :: records) =
      results [step] [record] ++ results steps records := by
  rw [results, results, results, ← List.filterMap_append]
  rfl

/-- Steps that are skipped have no results. -/
theorem results_skipSteps (runId : RunId) (index : Nat) (steps : List WorkflowStep)
    (listener : Listener) : results steps (skipSteps runId index steps listener).1 = [] := by
  induction steps generalizing index listener with
  | nil => rfl
  | cons step rest ih => exact ih _ _

/-- A step that is reached does its errand, if it has one, and its result is that of the errand. -/
theorem StepTakes.errands_eq {registry : Registry ε} {step : WorkflowStep} {known : Context}
    {outcome : StepOutcome} {exchanges : List (Exchange ε)}
    (h : StepTakes registry step known outcome exchanges) :
    exchanges.map Exchange.errand = errands registry [step] ∧
      (∀ exchange ∈ exchanges, exchange.IsBy registry) ∧
      ∀ name, exchanges.filterMap Exchange.result? =
        results [step] [⟨name, step.agent, outcome⟩] := by
  cases h with
  | missing absent =>
      exact ⟨by simp [errands, Registry.has_eq_isSome, absent], by simp, fun _ => rfl⟩
  | @called agent found given =>
      have hname := Registry.name_of_find? found
      refine ⟨?_, fun exchange hmem => ?_, fun _ => ?_⟩
      · rw [errands, List.filter_cons_of_pos (by simp [Registry.has_eq_isSome, found])]
        show [(⟨agent.name, .task, step.task⟩ : Errand)] = [⟨step.agent, .task, step.task⟩]
        rw [hname]
      · rw [List.mem_singleton.1 hmem]
        exact ⟨agent, _, hname.symm ▸ found, rfl⟩
      · cases given with
        | error source => rfl
        | ok output =>
            show [((⟨agent.name, .task, step.task⟩ : Errand), output)] =
              [(⟨step.agent, .task, step.task⟩, output)]
            rw [hname]

theorem errands_cons (registry : Registry ε) (step : WorkflowStep) (rest : List WorkflowStep) :
    errands registry (step :: rest) = errands registry [step] ++ errands registry rest := by
  rw [errands, errands, errands, ← List.map_append, ← List.filter_append, List.singleton_append]

variable (responder : Responder ε σ)

/-- Steps do the first of their errands, and their results are those of the errands that
succeed. -/
theorem serves_runSteps (failFast : Bool) (runId : RunId) (index : Nat)
    (steps : List WorkflowStep) (known : Context) (listener : Listener) (session : Session ε σ) :
    ∃ exchanges, session.Serves responder (errands session.registry steps) exchanges
        (runSteps responder failFast runId index steps known listener session).session ∧
      exchanges.filterMap Exchange.result? =
        results steps (runSteps responder failFast runId index steps known listener
          session).records := by
  induction steps generalizing index known listener session with
  | nil => exact ⟨[], .none _ session, rfl⟩
  | cons step rest ih =>
      obtain ⟨first, htakes, hconducts⟩ := conducts_runStep responder step known session
      obtain ⟨hdone, hby, hresult⟩ := htakes.errands_eq
      have hfirst : session.Serves responder (errands session.registry [step]) first
          (runStep responder step known session).2 := ⟨hconducts, hdone ▸ List.prefix_rfl, hby⟩
      rw [errands_cons]
      simp only [runSteps]
      split
      next =>
        refine ⟨first, hfirst.widen _, ?_⟩
        rw [results_cons, results_skipSteps, List.append_nil]
        exact hresult _
      next =>
        obtain ⟨exchanges, hrest, hresults⟩ :=
          ih (index + 1) _ _ (runStep responder step known session).2
        have hsame : errands (runStep responder step known session).2.registry rest =
            errands session.registry rest := by
          simp only [errands, hconducts.has]
        rw [hsame] at hrest
        refine ⟨_, hfirst.append hdone hrest, ?_⟩
        rw [List.filterMap_append, hresult (step.resolvedName index), hresults]
        exact (results_cons step _ rest _).symm

theorem serves_run (workflow : Workflow) (stamp : RunStamp) (listener : Listener)
    (session : Session ε σ) :
    ∃ exchanges, session.Serves responder (errands session.registry workflow.steps) exchanges
        (workflow.run responder stamp listener session).2.2 ∧
      ∀ report, (workflow.run responder stamp listener session).1 = .ok report →
        exchanges.filterMap Exchange.result? = results workflow.steps report.steps := by
  rw [run]
  split
  next => exact ⟨[], .none _ session, by simp⟩
  next =>
    obtain ⟨exchanges, hserves, hresults⟩ := serves_runSteps responder workflow.failFast
      stamp.runId 0 workflow.steps ∅ _ session
    refine ⟨exchanges, hserves, fun report hreport => ?_⟩
    obtain rfl := Except.ok.inj hreport
    exact hresults

end Workflow

end Ensemble
