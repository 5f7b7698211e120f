/-
# What agents remember is not looked at

No task looks at a memory or writes to one. To give all agents other memories before a task, or
after it, is therefore the same: `withMemories` may be moved across every activity of a session. The
equations below say so, from a single call up to whole workflows, and each follows the recursion of
its activity. That a task also leaves all memories as they are is the case in which every agent is
given the memory that it has.
-/

import Ensemble.Proofs.Agent.Registry
import Ensemble.Session.Coordinate
import Ensemble.Workflow.Run

namespace Ensemble

variable {ε σ : Type}

/-! ## Other memories -/

/-- The agent with the memory that is given under its name. -/
def Agent.withMemories (memories : String → Dictionary Datum) (agent : Agent ε) : Agent ε :=
  { agent with memory := memories agent.name }

/-- The agents with the memories that are given under their names. -/
def Registry.withMemories (memories : String → Dictionary Datum) (registry : Registry ε) :
    Registry ε :=
  ⟨registry.agents.map (Agent.withMemories memories), by
    rw [List.map_map]
    exact registry.distinct, by
    intro agent hagent
    obtain ⟨other, hother, rfl⟩ := List.mem_map.1 hagent
    exact registry.named other hother⟩

/-- The session in which the agents have the memories that are given under their names. -/
def Session.withMemories (memories : String → Dictionary Datum) (session : Session ε σ) :
    Session ε σ :=
  { session with registry := session.registry.withMemories memories }

/-- The seat whose agent has the memory that is given under its name. -/
def Seat.withMemories (memories : String → Dictionary Datum) (seat : Seat ε) : Seat ε :=
  { seat with agent := seat.agent.withMemories memories }

namespace Registry

variable (memories : String → Dictionary Datum) (registry : Registry ε)

@[simp] theorem names_withMemories : (registry.withMemories memories).names = registry.names := by
  rw [names, names, withMemories, List.map_map]
  rfl

theorem find?_withMemories (name : String) :
    (registry.withMemories memories).find? name =
      (registry.find? name).map (Agent.withMemories memories) := by
  rw [find?, withMemories, List.find?_map]
  rfl

theorem require_withMemories (name : String) :
    (registry.withMemories memories).require name =
      (registry.require name).map (Agent.withMemories memories) := by
  rw [require, require, find?_withMemories]
  cases registry.find? name <;> rfl

/-- A change that does not look at memories can be made before or after they are given. -/
theorem update_withMemories (name : String) {change : Agent ε → Agent ε}
    (hname : ∀ agent, (change agent).name = agent.name)
    (hblind : ∀ agent, change (agent.withMemories memories) =
      (change agent).withMemories memories) :
    (registry.withMemories memories).update name change hname =
      (registry.update name change hname).withMemories memories := by
  apply ext_agents
  simp only [update, withMemories, List.map_map]
  apply List.map_congr_left
  intro agent _
  simp only [Function.comp_apply]
  by_cases hagent : agent.name = name
  · rw [if_pos hagent, if_pos (show (agent.withMemories memories).name = name from hagent), hblind]
  · rw [if_neg hagent, if_neg (show ¬ (agent.withMemories memories).name = name from hagent)]

end Registry

/-! ## Single tasks -/

namespace Session

variable (memories : String → Dictionary Datum) (responder : Responder ε σ)
  (session : Session ε σ)

theorem record_withMemories (name : String) (entry : HistoryEntry) :
    (session.withMemories memories).record name entry =
      (session.record name entry).withMemories memories := by
  have hname : ∀ agent : Agent ε, (agent.record entry).name = agent.name := fun _ => rfl
  have hregistry := session.registry.update_withMemories memories name hname fun _ => rfl
  rw [record, record, withMemories, withMemories, hregistry]

theorem send_withMemories (endpoint : ε) (prompt : String) (image : Option (List UInt8)) :
    (session.withMemories memories).send responder endpoint prompt image =
      (session.send responder endpoint prompt image).map id (withMemories memories) := rfl

/-- An agent carries out an assignment whatever it and the others remember. -/
theorem carryOut_withMemories (agent : Agent ε) (assignment : Assignment) :
    (session.withMemories memories).carryOut responder (agent.withMemories memories) assignment =
      (session.carryOut responder agent assignment).map id (withMemories memories) := by
  have hagent : (session.withMemories memories).carryOut responder (agent.withMemories memories)
      assignment = (session.withMemories memories).carryOut responder agent assignment := rfl
  rw [hagent, carryOut, carryOut, send_withMemories]
  rcases session.send responder agent.endpoint
    (agent.prompt assignment.sentTask assignment.context) assignment.image
    with ⟨_ | result, after⟩
  · rfl
  · simp only [Prod.map_apply, id, record_withMemories]

theorem execute_withMemories (agent : Agent ε) (task : String) (context : Option Context)
    (image : Option (List UInt8)) :
    (session.withMemories memories).execute responder (agent.withMemories memories) task context
        image =
      (session.execute responder agent task context image).map id (withMemories memories) :=
  carryOut_withMemories memories responder session agent _

theorem decompose_withMemories (agent : Agent ε) (task : String) (limit : Nat) :
    (session.withMemories memories).decompose responder (agent.withMemories memories) task limit =
      (session.decompose responder agent task limit).map id (withMemories memories) := by
  rw [decompose, decompose, carryOut_withMemories]
  rcases session.carryOut responder agent _ with ⟨_ | answer, after⟩ <;> rfl

theorem assign_withMemories (name task : String) (context : Option Context) :
    (session.withMemories memories).assign responder name task context =
      (session.assign responder name task context).map id (withMemories memories) := by
  have hfound : (session.withMemories memories).registry.require name =
      (session.registry.require name).map (Agent.withMemories memories) :=
    session.registry.require_withMemories memories name
  rw [assign, assign, hfound]
  cases session.registry.require name with
  | error error => rfl
  | ok agent => exact execute_withMemories memories responder session agent task context none

end Session

/-! ## Coordinated tasks -/

namespace Coordination

variable (memories : String → Dictionary Datum) (responder : Responder ε σ)
  (request : CoordinationRequest)

theorem runSeat_withMemories (base : Context) (seat : Seat ε) (session : Session ε σ) :
    runSeat responder request base (seat.withMemories memories) (session.withMemories memories) =
      (runSeat responder request base seat session).map id (Session.withMemories memories) := by
  have hexecuted := session.execute_withMemories memories responder seat.agent request.task
    (some (request.contextFor seat.agent.name base)) none
  simp only [runSeat]
  rw [show (seat.withMemories memories).agent = seat.agent.withMemories memories from rfl,
    show (seat.agent.withMemories memories).name = seat.agent.name from rfl, hexecuted]
  rcases session.execute responder seat.agent request.task _ none
    with ⟨_ | output, after⟩ <;> rfl

theorem runInTurn_withMemories (base : Context) (seats : List (Seat ε)) (session : Session ε σ) :
    runInTurn responder request base (seats.map (Seat.withMemories memories))
        (session.withMemories memories) =
      (runInTurn responder request base seats session).map id
        (Session.withMemories memories) := by
  induction seats generalizing session with
  | nil => rfl
  | cons seat rest ih =>
      rw [List.map_cons, runInTurn, runInTurn, runSeat_withMemories]
      rcases runSeat responder request base seat session with ⟨_ | entry, after⟩
      · rfl
      · simp only [Prod.map_apply, id, ih]
        rcases runInTurn responder request base rest after with ⟨_ | entries, last⟩ <;> rfl

theorem runWindow_withMemories (base : Context) (limit : Nat)
    (started : List (Except OrchestrationError CoordinationEntry)) (seats : List (Seat ε))
    (session : Session ε σ) :
    runWindow responder request base limit started (seats.map (Seat.withMemories memories))
        (session.withMemories memories) =
      (runWindow responder request base limit started seats session).map id
        (Session.withMemories memories) := by
  induction seats generalizing started session with
  | nil => cases started <;> rfl
  | cons seat rest ih =>
      rw [List.map_cons]
      cases started with
      | nil =>
          rw [runWindow, runWindow, runSeat_withMemories]
          exact ih _ _
      | cons first started =>
          rw [runWindow.eq_def, runWindow.eq_def]
          simp only [runSeat_withMemories]
          split
          · exact ih _ _
          · cases first with
            | error error => rfl
            | ok entry =>
                simp only [Prod.map_fst, Prod.map_snd, id, ih]
                rcases runWindow responder request base limit _ rest _
                  with ⟨_ | entries, last⟩ <;> rfl

theorem runAtOnce_withMemories (base : Context) (limit : Nat) (seats : List (Seat ε))
    (session : Session ε σ) :
    runAtOnce responder request base limit (seats.map (Seat.withMemories memories))
        (session.withMemories memories) =
      (runAtOnce responder request base limit seats session).map id
        (Session.withMemories memories) :=
  runWindow_withMemories memories responder request base (max limit 1) [] seats session

theorem runGroups_withMemories (limit : Nat) (sizes : List Nat) (base : Context)
    (seats : List (Seat ε)) (session : Session ε σ) :
    runGroups responder request limit sizes base (seats.map (Seat.withMemories memories))
        (session.withMemories memories) =
      (runGroups responder request limit sizes base seats session).map id
        (Session.withMemories memories) := by
  induction sizes generalizing base seats session with
  | nil => rfl
  | cons size sizes ih =>
      rw [runGroups, runGroups, List.length_map]
      split
      · rfl
      · rw [← List.map_take, ← List.map_drop, runAtOnce_withMemories]
        rcases runAtOnce responder request base limit (seats.take size) session
          with ⟨_ | entries, after⟩
        · rfl
        · simp only [Prod.map_apply, id, ih]
          rcases runGroups responder request limit sizes _ (seats.drop size) after
            with ⟨_ | others, last⟩ <;> rfl

theorem run_withMemories (limit : Nat) (seats : List (Seat ε)) (session : Session ε σ) :
    run responder request limit (seats.map (Seat.withMemories memories))
        (session.withMemories memories) =
      (run responder request limit seats session).map id (Session.withMemories memories) := by
  rw [run, run]
  cases request.strategy with
  | sequential => exact runInTurn_withMemories memories responder request _ seats session
  | parallel => exact runAtOnce_withMemories memories responder request _ limit seats session
  | hybrid =>
      cases request.groupSizes with
      | error error => rfl
      | ok sizes =>
          exact runGroups_withMemories memories responder request limit sizes _ seats session

end Coordination

namespace Session

variable (memories : String → Dictionary Datum) (responder : Responder ε σ)
  (session : Session ε σ)

theorem takeSeats_withMemories (registry : Registry ε) (pairs : List (String × String)) :
    takeSeats (registry.withMemories memories) pairs =
      (takeSeats registry pairs).map (List.map (Seat.withMemories memories)) := by
  induction pairs with
  | nil => rfl
  | cons pair rest ih =>
      rw [takeSeats, takeSeats, registry.require_withMemories, ih]
      cases registry.require pair.1 with
      | error error => rfl
      | ok agent => cases takeSeats registry rest <;> rfl

theorem seats_withMemories (registry : Registry ε) (names : List String) :
    seats (registry.withMemories memories) names =
      (seats registry names).map (List.map (Seat.withMemories memories)) := by
  rw [seats, seats]
  split
  · rfl
  · exact takeSeats_withMemories memories registry _

theorem coordinate_withMemories (request : CoordinationRequest) :
    (session.withMemories memories).coordinate responder request =
      (session.coordinate responder request).map id (withMemories memories) := by
  have hseats : seats (session.withMemories memories).registry request.agentNames =
      (seats session.registry request.agentNames).map (List.map (Seat.withMemories memories)) :=
    seats_withMemories memories session.registry request.agentNames
  have hlimit : (session.withMemories memories).parallelLimit = session.parallelLimit := rfl
  rw [coordinate, coordinate, hseats, hlimit]
  cases seats session.registry request.agentNames with
  | error error => rfl
  | ok taken =>
      simp only [Except.map, Coordination.run_withMemories]
      rcases Coordination.run responder request session.parallelLimit taken session
        with ⟨_ | entries, after⟩ <;> rfl

theorem synthesizerOf_withMemories (registry : Registry ε) (names : List String)
    (synthesizer : Option String) :
    synthesizerOf (registry.withMemories memories) names synthesizer =
      (synthesizerOf registry names synthesizer).map (Agent.withMemories memories) := by
  cases synthesizer with
  | some name => exact registry.require_withMemories memories name
  | none =>
      cases names with
      | nil => rfl
      | cons name rest => exact registry.require_withMemories memories name

theorem collaborate_withMemories (task : String) (names : List String)
    (context : Option Context) (synthesizer : Option String) :
    (session.withMemories memories).collaborate responder task names context synthesizer =
      (session.collaborate responder task names context synthesizer).map id
        (withMemories memories) := by
  have hchosen : synthesizerOf (session.withMemories memories).registry names synthesizer =
      (synthesizerOf session.registry names synthesizer).map (Agent.withMemories memories) :=
    synthesizerOf_withMemories memories session.registry names synthesizer
  rw [collaborate, collaborate, hchosen, coordinate_withMemories]
  cases synthesizerOf session.registry names synthesizer with
  | error error => rfl
  | ok agent =>
      simp only [Except.map]
      rcases session.coordinate responder (collaborationRequest task names context)
        with ⟨_ | contributions, after⟩
      · rfl
      · simp only [Prod.map_apply, id, execute_withMemories]
        rcases after.execute responder agent (synthesisTask task contributions) context none
          with ⟨_ | synthesis, last⟩ <;> rfl

end Session

/-! ## Workflows -/

namespace Workflow

variable (memories : String → Dictionary Datum) (responder : Responder ε σ)

/-- What steps lead to, with other memories. -/
def Progress.withMemories (progress : Progress ε σ) : Progress ε σ :=
  { progress with session := progress.session.withMemories memories }

theorem runStep_withMemories (step : WorkflowStep) (known : Context) (session : Session ε σ) :
    runStep responder step known (session.withMemories memories) =
      (runStep responder step known session).map id (Session.withMemories memories) := by
  rw [runStep, runStep, Session.assign_withMemories]
  rcases session.assign responder step.agent step.task _ with ⟨_ | value, after⟩ <;> rfl

theorem runSteps_withMemories (failFast : Bool) (runId : RunId) (index : Nat)
    (steps : List WorkflowStep) (known : Context) (listener : Listener) (session : Session ε σ) :
    runSteps responder failFast runId index steps known listener
        (session.withMemories memories) =
      (runSteps responder failFast runId index steps known listener session).withMemories
        memories := by
  induction steps generalizing index known listener session with
  | nil => rfl
  | cons step rest ih =>
      simp only [runSteps, runStep_withMemories, Prod.map_fst, Prod.map_snd, id, ih]
      split <;> rfl

theorem run_withMemories (workflow : Workflow) (stamp : RunStamp) (listener : Listener)
    (session : Session ε σ) :
    workflow.run responder stamp listener (session.withMemories memories) =
      (workflow.run responder stamp listener session).map id
        (Prod.map id (Session.withMemories memories)) := by
  rw [run, run]
  split
  · rfl
  · simp only [runSteps_withMemories]
    rfl

end Workflow

end Ensemble
