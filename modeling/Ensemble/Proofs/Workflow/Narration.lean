/-
# What a listener is told

A run tells its listener how it proceeds and takes nothing from it. So the events of a run are a
matter of its workflow and its report alone: the start, for every step its start unless the step is
skipped and then its finish, and the totals. Whoever heard them can write the records of the report
down again.
-/

import Ensemble.Proofs.Workflow.Truncation

namespace Ensemble

variable {ε σ : Type}

/-! ## Listeners -/

namespace Listener

/-- Tell a listener several events, one after another. -/
def tellAll (listener : Listener) (events : List Event) : Listener :=
  events.foldl tell listener

@[simp] theorem tellAll_append (listener : Listener) (first second : List Event) :
    listener.tellAll (first ++ second) = (listener.tellAll first).tellAll second :=
  List.foldl_append

/-- A listener that listens hears everything, in order. -/
@[simp] theorem tellAll_listening (heard events : List Event) :
    (listening heard).tellAll events = listening (heard ++ events) := by
  induction events generalizing heard with
  | nil => rw [List.append_nil]; rfl
  | cons event rest ih =>
      rw [← List.singleton_append, ← List.append_assoc]
      exact ih (heard ++ [event])

/-- Nobody hears nothing. -/
@[simp] theorem tellAll_absent (events : List Event) : absent.tellAll events = absent := by
  induction events with
  | nil => rfl
  | cons event rest ih => exact ih

/-- A listener that has gone hears nothing. -/
@[simp] theorem tellAll_closed (events : List Event) : closed.tellAll events = closed := by
  induction events with
  | nil => rfl
  | cons event rest ih => exact ih

end Listener

namespace Workflow

/-! ## The events of a report -/

/-- The events of the step at a position with its outcome. A step that is skipped never starts. -/
def stepEvents (runId : RunId) (index : Nat) (step : WorkflowStep) (outcome : StepOutcome) :
    List Event :=
  (if outcome.isSkipped then []
    else [.stepStarted runId index (step.resolvedName index) step.agent]) ++
    [.stepFinished runId index (step.resolvedName index) outcome]

/-- The events of the steps from a position on, with their records. -/
def eventsFrom (runId : RunId) : Nat → List WorkflowStep → List StepRecord → List Event
  | index, step :: steps, record :: records =>
    stepEvents runId index step record.outcome ++ eventsFrom runId (index + 1) steps records
  | _, _, _ => []

/-- The events of a run with a report. -/
def eventsOf (workflow : Workflow) (report : WorkflowReport) : List Event :=
  .workflowStarted report.runId workflow.name workflow.steps.length ::
    eventsFrom report.runId 0 workflow.steps report.steps ++
    [.workflowCompleted report.runId report.succeeded report.failed report.skipped]

/-- The record that an event gives, if a step of the workflow finishes with it. -/
def recordOf? (workflow : Workflow) : Event → Option StepRecord
  | .stepFinished _ index name outcome =>
    workflow.steps[index]?.map fun step => ⟨name, step.agent, outcome⟩
  | _ => none

/-- The records that events give. -/
def recordsOf (workflow : Workflow) (events : List Event) : List StepRecord :=
  events.filterMap workflow.recordOf?

theorem runId_of_mem_stepEvents {runId : RunId} {index : Nat} {step : WorkflowStep}
    {outcome : StepOutcome} {event : Event} (h : event ∈ stepEvents runId index step outcome) :
    event.runId = runId := by
  rw [stepEvents] at h
  rcases List.mem_append.1 h with hstarted | hfinished
  · split at hstarted
    · simp at hstarted
    · rw [List.mem_singleton.1 hstarted]
      rfl
  · rw [List.mem_singleton.1 hfinished]
    rfl

theorem runId_of_mem_eventsFrom {runId : RunId} {index : Nat} {steps : List WorkflowStep}
    {records : List StepRecord} {event : Event} (h : event ∈ eventsFrom runId index steps records) :
    event.runId = runId := by
  induction steps generalizing index records with
  | nil => simp [eventsFrom] at h
  | cons step steps ih =>
      cases records with
      | nil => simp [eventsFrom] at h
      | cons record records =>
          rcases List.mem_append.1 h with hstep | hrest
          · exact runId_of_mem_stepEvents hstep
          · exact ih hrest

/-- All events carry the run of the report. -/
theorem runId_of_mem_eventsOf {workflow : Workflow} {report : WorkflowReport} {event : Event}
    (h : event ∈ workflow.eventsOf report) : event.runId = report.runId := by
  rcases List.mem_append.1 h with hfront | hcompleted
  · rcases List.mem_cons.1 hfront with rfl | hstep
    · rfl
    · exact runId_of_mem_eventsFrom hstep
  · rw [List.mem_singleton.1 hcompleted]
    rfl

/-- The events of a step give back its record and nothing else. -/
theorem filterMap_stepEvents {workflow : Workflow} {index : Nat} {step : WorkflowStep}
    (hstep : workflow.steps[index]? = some step) (runId : RunId) (outcome : StepOutcome) :
    (stepEvents runId index step outcome).filterMap workflow.recordOf? =
      [⟨step.resolvedName index, step.agent, outcome⟩] := by
  rw [stepEvents, List.filterMap_append]
  split <;> simp [recordOf?, hstep]

/-- The events of steps that are accounted for give back their records. -/
theorem filterMap_eventsFrom {workflow : Workflow} {index : Nat} {steps : List WorkflowStep}
    {records : List StepRecord} (hsteps : workflow.steps.drop index = steps)
    (hlength : records.length = steps.length)
    (hlabels : ∀ position : Nat,
      (records.map fun record => (record.name, record.agent))[position]? =
        steps[position]?.map fun step => (step.resolvedName (index + position), step.agent))
    (runId : RunId) :
    (eventsFrom runId index steps records).filterMap workflow.recordOf? = records := by
  induction steps generalizing index records with
  | nil =>
      obtain rfl := List.length_eq_zero_iff.1 hlength
      rfl
  | cons step steps ih =>
      obtain ⟨record, others, rfl⟩ := List.exists_cons_of_length_eq_add_one hlength
      have hstep : workflow.steps[index]? = some step := by
        rw [← Nat.add_zero index, ← List.getElem?_drop, hsteps]
        rfl
      have hrest : workflow.steps.drop (index + 1) = steps := by
        rw [← List.drop_drop, hsteps]
        rfl
      have hhead : (record.name, record.agent) = (step.resolvedName index, step.agent) :=
        Option.some.inj (hlabels 0)
      obtain ⟨hname, hagent⟩ := Prod.mk.inj hhead
      have hothers := ih hrest (Nat.succ.inj hlength) fun position => by
        rw [Nat.add_right_comm, Nat.add_assoc]
        exact hlabels (position + 1)
      rw [eventsFrom, List.filterMap_append, filterMap_stepEvents hstep, hothers, ← hname,
        ← hagent]
      rfl

/-- The events of a report whose records are those of its workflow's steps give back the
records. -/
theorem recordsOf_eventsOf {workflow : Workflow} {report : WorkflowReport}
    (hlength : report.steps.length = workflow.steps.length)
    (hlabels : ∀ position : Nat,
      (report.steps.map fun record => (record.name, record.agent))[position]? =
        workflow.steps[position]?.map fun step => (step.resolvedName (0 + position), step.agent)) :
    workflow.recordsOf (workflow.eventsOf report) = report.steps := by
  have hsteps := filterMap_eventsFrom List.drop_zero hlength hlabels report.runId
  rw [recordsOf, eventsOf, List.filterMap_append, List.filterMap_cons_none rfl, hsteps]
  exact List.append_nil _

/-! ## What a run tells -/

/-- The events that skipping steps tells, and its records whoever listens. -/
theorem skipSteps_told (runId : RunId) (index : Nat) (steps : List WorkflowStep)
    (listener : Listener) :
    (skipSteps runId index steps listener).2 =
      listener.tellAll (eventsFrom runId index steps (skipSteps runId index steps listener).1) := by
  induction steps generalizing index listener with
  | nil => rfl
  | cons step rest ih =>
      simp only [skipSteps]
      rw [ih, eventsFrom, Listener.tellAll_append]
      rfl

/-- A step that runs is not skipped. -/
theorem isSkipped_runStep (responder : Responder ε σ) (step : WorkflowStep) (known : Context)
    (session : Session ε σ) : (runStep responder step known session).1.isSkipped = false := by
  obtain ⟨exchanges, htakes, -⟩ := conducts_runStep responder step known session
  exact htakes.not_skipped

/-- Running steps tells the events of the records that it leads to. -/
theorem runSteps_told (responder : Responder ε σ) (failFast : Bool) (runId : RunId) (index : Nat)
    (steps : List WorkflowStep) (known : Context) (listener : Listener) (session : Session ε σ) :
    let progress := runSteps responder failFast runId index steps known listener session
    progress.listener = listener.tellAll (eventsFrom runId index steps progress.records) := by
  induction steps generalizing index known listener session with
  | nil => rfl
  | cons step rest ih =>
      have hevents : ∀ listener : Listener, listener.tellAll (stepEvents runId index step
          (runStep responder step known session).1) =
          (listener.tell (.stepStarted runId index (step.resolvedName index) step.agent)).tell
            (.stepFinished runId index (step.resolvedName index)
              (runStep responder step known session).1) := fun listener => by
        rw [stepEvents, isSkipped_runStep]
        rfl
      simp only [runSteps]
      split
      next =>
        rw [skipSteps_told, eventsFrom, Listener.tellAll_append, hevents]
      next =>
        rw [ih, eventsFrom, Listener.tellAll_append, hevents]

/-- Skipping steps leads to the same records whoever listens. -/
theorem skipSteps_unheard (runId runId' : RunId) (index : Nat) (steps : List WorkflowStep)
    (listener listener' : Listener) :
    (skipSteps runId index steps listener).1 = (skipSteps runId' index steps listener').1 := by
  apply List.ext_getElem?
  intro position
  rw [getElem?_skipSteps, getElem?_skipSteps]

/-- Running steps leads to the same records and the same session whoever listens. -/
theorem runSteps_unheard (responder : Responder ε σ) (failFast : Bool) (runId runId' : RunId)
    (index : Nat) (steps : List WorkflowStep) (known : Context) (listener listener' : Listener)
    (session : Session ε σ) :
    let progress := runSteps responder failFast runId index steps known listener session
    let progress' := runSteps responder failFast runId' index steps known listener' session
    progress.records = progress'.records ∧ progress.session = progress'.session := by
  induction steps generalizing index known listener listener' session with
  | nil => exact ⟨rfl, rfl⟩
  | cons step rest ih =>
      simp only [runSteps]
      split
      next => exact ⟨congrArg (List.cons _) (skipSteps_unheard _ _ _ _ _ _), rfl⟩
      next => exact ⟨congrArg (List.cons _) (ih _ _ _ _ _).1, (ih _ _ _ _ _).2⟩

/-- Every step has succeeded, failed or been skipped. -/
theorem total_statuses (report : WorkflowReport) :
    report.succeeded + report.failed + report.skipped = report.steps.length := by
  have hone : ∀ outcome : StepOutcome, (if outcome.isSuccess = true then 1 else 0) +
      (if outcome.isFailed = true then 1 else 0) +
      (if outcome.isSkipped = true then 1 else 0) = 1 := by
    rintro (_ | _ | _) <;> rfl
  simp only [WorkflowReport.succeeded, WorkflowReport.failed, WorkflowReport.skipped]
  induction report.steps with
  | nil => rfl
  | cons record rest ih =>
      have hrecord := hone record.outcome
      simp only [List.countP_cons, List.length_cons]
      omega

/-- What the steps of a workflow lead to does not depend on the listener or on the run's stamp. -/
theorem progress_unheard (responder : Responder ε σ) (workflow : Workflow)
    (stamp stamp' : RunStamp) (listener listener' : Listener) (session : Session ε σ) :
    let progress := workflow.progress responder stamp listener session
    let progress' := workflow.progress responder stamp' listener' session
    progress.records = progress'.records ∧ progress.session = progress'.session :=
  runSteps_unheard _ _ _ _ _ _ _ _ _ _

/-- An accepted run comes to what it comes to without a listener, and tells the events of its
report. -/
theorem run_told (responder : Responder ε σ) {workflow : Workflow}
    (hdistinct : workflow.stepNames.Nodup) (stamp : RunStamp) (listener : Listener)
    (session : Session ε σ) :
    let quiet := workflow.progress responder stamp .absent session
    let report := workflow.reportOf stamp quiet.records
    workflow.run responder stamp listener session =
      (.ok report, listener.tellAll (workflow.eventsOf report), quiet.session) := by
  obtain ⟨hrecords, hsession⟩ :=
    progress_unheard responder workflow stamp stamp listener .absent session
  have htold : (workflow.progress responder stamp listener session).listener =
      (listener.tell (.workflowStarted stamp.runId workflow.name workflow.steps.length)).tellAll
        (eventsFrom stamp.runId 0 workflow.steps
          (workflow.progress responder stamp listener session).records) :=
    runSteps_told _ _ _ _ _ _ _ _
  rw [run_of_nodup responder hdistinct]
  simp only [htold, hrecords, hsession, eventsOf, Listener.tellAll_append]
  rfl

/-- A workflow with repeated step names is refused, and nothing happens. -/
theorem run_of_not_nodup (responder : Responder ε σ) {workflow : Workflow}
    (hrepeated : ¬ workflow.stepNames.Nodup) :
    ∃ name, ∀ stamp listener session, workflow.run responder stamp listener session =
      (.error (.invalidStrategy (repeatedStep workflow.name name)), listener, session) := by
  cases hfirst : firstRepeated? [] workflow.stepNames with
  | none => exact absurd (firstRepeated?_eq_none_iff.1 hfirst).1 hrepeated
  | some name =>
      refine ⟨name, fun stamp listener session => ?_⟩
      simp only [run, hfirst]

/-- An accepted run and its listeners. `events` are what it tells, whoever listens: they are laid
down by the workflow and the report, and the records of the report can be read off them. -/
structure Narrates (responder : Responder ε σ) (workflow : Workflow) (stamp : RunStamp)
    (session : Session ε σ) (report : WorkflowReport) (events : List Event)
    (after : Session ε σ) : Prop where
  heard : ∀ earlier, workflow.run responder stamp (.listening earlier) session =
    (.ok report, .listening (earlier ++ events), after)
  absent : workflow.run responder stamp .absent session = (.ok report, .absent, after)
  closed : workflow.run responder stamp .closed session = (.ok report, .closed, after)
  unheard : ∀ stamp' listener, ∃ report' heard,
    workflow.run responder stamp' listener session = (.ok report', heard, after) ∧
      report'.steps = report.steps
  events_eq : events = workflow.eventsOf report
  runId : ∀ event ∈ events, event.runId = report.runId
  total : report.succeeded + report.failed + report.skipped = workflow.steps.length
  rebuilt : workflow.recordsOf events = report.steps

theorem narrates_of_nodup (responder : Responder ε σ) {workflow : Workflow}
    (hdistinct : workflow.stepNames.Nodup) (stamp : RunStamp) (session : Session ε σ) :
    let quiet := workflow.progress responder stamp .absent session
    let report := workflow.reportOf stamp quiet.records
    Narrates responder workflow stamp session report (workflow.eventsOf report) quiet.session := by
  have htold := run_told responder hdistinct
  obtain ⟨made, -, haccount⟩ := runSteps_account responder workflow.failFast stamp.runId 0
    workflow.steps ∅
    (Listener.absent.tell (.workflowStarted stamp.runId workflow.name workflow.steps.length))
    session
  refine ⟨fun earlier => ?_, ?_, ?_, fun stamp' listener => ?_, rfl,
    fun _ => runId_of_mem_eventsOf, ?_, ?_⟩
  · rw [htold, Listener.tellAll_listening]
  · rw [htold, Listener.tellAll_absent]
  · rw [htold, Listener.tellAll_closed]
  · obtain ⟨hrecords, hsession⟩ :=
      progress_unheard responder workflow stamp' stamp .absent .absent session
    have hran := htold stamp' listener session
    simp only [hsession] at hran
    exact ⟨_, _, hran, hrecords⟩
  · exact (total_statuses _).trans haccount.length_records
  · exact recordsOf_eventsOf haccount.length_records
      (haccount.getElem?_map fun name agent => (name, agent))

/-- A run with distinct step names tells a listener exactly the events of its report, and comes to
the same without one. A workflow with repeated step names is refused before anything is told. -/
theorem run_narrates (responder : Responder ε σ) (workflow : Workflow) (stamp : RunStamp)
    (session : Session ε σ) :
    (workflow.stepNames.Nodup → ∃ report events after,
      Narrates responder workflow stamp session report events after) ∧
    (¬ workflow.stepNames.Nodup → ∃ error, ∀ listener,
      workflow.run responder stamp listener session = (.error error, listener, session)) := by
  constructor
  · intro hdistinct
    exact ⟨_, _, _, narrates_of_nodup responder hdistinct stamp session⟩
  · intro hrepeated
    obtain ⟨name, hrefused⟩ := run_of_not_nodup responder hrepeated
    exact ⟨_, fun listener => hrefused stamp listener session⟩

/-- What the run of `interrupted` tells when it fails fast. -/
def interruptedEvents : List Event :=
  [.workflowStarted default "interrupted" 3,
    .stepStarted default 0 "draft" "writer", .stepFinished default 0 "draft" (.success "done"),
    .stepStarted default 1 "step_1" "nobody",
    .stepFinished default 1 "step_1"
      (.failed ⟨.agentNotFound, "Agent 'nobody' not found in registry"⟩),
    .stepFinished default 2 "final" .skipped,
    .workflowCompleted default 1 1 1]

/-- Of three steps the second fails and the third is skipped: it finishes without having started,
and the records of all three can be read off the events. -/
theorem run_narrates_interrupted :
    (interrupted.withFailFast true).stepNames.Nodup ∧ ∃ report after,
      (interrupted.withFailFast true).run (fun _ _ _ _ => (.ok "done", ()))
        ⟨default, default, default⟩ (.listening [])
        ((Session.start () ()).addAgent "writer" "" "" none).2 =
        (.ok report, .listening interruptedEvents, after) ∧
      interrupted.recordsOf interruptedEvents = report.steps ∧
      report.succeeded + report.failed + report.skipped = 3 := by
  have hdistinct : (interrupted.withFailFast true).stepNames.Nodup := by decide
  obtain ⟨report, events, after, hnarrates⟩ := (run_narrates (fun _ _ _ _ => (.ok "done", ()))
    (interrupted.withFailFast true) ⟨default, default, default⟩
    ((Session.start () ()).addAgent "writer" "" "" none).2).1 hdistinct
  have hran := hnarrates.heard []
  have hheard : ((interrupted.withFailFast true).run (fun _ _ _ _ => (.ok "done", ()))
      ⟨default, default, default⟩ (.listening [])
      ((Session.start () ()).addAgent "writer" "" "" none).2).2.1 =
      .listening interruptedEvents := rfl
  rw [hran] at hheard
  obtain rfl : events = interruptedEvents := Listener.listening.inj hheard
  exact ⟨hdistinct, report, after, hran, hnarrates.rebuilt, hnarrates.total⟩

end Workflow

end Ensemble
