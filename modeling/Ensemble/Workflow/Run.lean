/-
# Running a workflow

The steps run one after another. Every step sees the results of the successful steps before it,
under their names, with its own context on top. A step that fails is recorded, and stops the run
only in a workflow that fails fast: the steps after it are skipped. A listener, if there is one,
is told how the run proceeds.
-/

import Ensemble.Session.Basic
import Ensemble.Workflow.Definition
import Ensemble.Workflow.Event
import Ensemble.Workflow.Report

namespace Ensemble

/-- Who listens to a run. -/
inductive Listener where
  | absent
  /-- A listener that has gone: what it is told is lost. -/
  | closed
  /-- A listener with what it was told so far, in order. -/
  | listening (heard : List Event)
deriving DecidableEq, Repr

/-- Tell a listener an event. -/
def Listener.tell (listener : Listener) (event : Event) : Listener :=
  match listener with
  | listening heard => listening (heard ++ [event])
  | absent => absent
  | closed => closed

/-- What identifies one run: its identifier and when it started and finished. -/
structure RunStamp where
  runId : RunId
  startedAt : Moment
  finishedAt : Moment

namespace Workflow

variable {ε σ : Type}

/-- The first name that repeats an earlier one. -/
def firstRepeated? (seen : List String) : List String → Option String
  | [] => none
  | name :: rest => if name ∈ seen then some name else firstRepeated? (name :: seen) rest

/-- The sentence for a step name that is declared twice. -/
def repeatedStep (workflow step : String) : String :=
  "workflow '" ++ workflow ++ "' declares step '" ++ step ++ "' more than once"

/-- One step runs: its agent gets the task and what is known so far, with the step's own context
on top. -/
def runStep (responder : Responder ε σ) (step : WorkflowStep) (known : Context)
    (session : Session ε σ) : StepOutcome × Session ε σ :=
  match session.assign responder step.agent step.task (some (known.overlay step.context)) with
  | (.ok value, after) => (.success value, after)
  | (.error error, after) => (.failed error.toStepError, after)

/-- What is known after a step. -/
def learn (known : Context) (name : String) : StepOutcome → Context
  | .success value => known.insert name (.text value)
  | _ => known

/-- What running steps leads to. -/
structure Progress (ε σ : Type) where
  records : List StepRecord
  listener : Listener
  session : Session ε σ

/-- Skip the steps from a position on. -/
def skipSteps (runId : RunId) : Nat → List WorkflowStep → Listener → List StepRecord × Listener
  | _, [], listener => ([], listener)
  | index, step :: rest, listener =>
    let name := step.resolvedName index
    let heard := listener.tell (.stepFinished runId index name .skipped)
    let skipped := skipSteps runId (index + 1) rest heard
    (⟨name, step.agent, .skipped⟩ :: skipped.1, skipped.2)

/-- Run the steps from a position on, with what is known so far. -/
def runSteps (responder : Responder ε σ) (failFast : Bool) (runId : RunId) :
    Nat → List WorkflowStep → Context → Listener → Session ε σ → Progress ε σ
  | _, [], _, listener, session => ⟨[], listener, session⟩
  | index, step :: rest, known, listener, session =>
    let name := step.resolvedName index
    let started := listener.tell (.stepStarted runId index name step.agent)
    let ran := runStep responder step known session
    let finished := started.tell (.stepFinished runId index name ran.1)
    let record : StepRecord := ⟨name, step.agent, ran.1⟩
    if failFast && ran.1.isFailed then
      let skipped := skipSteps runId (index + 1) rest finished
      ⟨record :: skipped.1, skipped.2, ran.2⟩
    else
      let progress := runSteps responder failFast runId (index + 1) rest
        (learn known name ran.1) finished ran.2
      { progress with records := record :: progress.records }

/-- Run a workflow. Step names that are declared twice are refused before anything happens. -/
def run (responder : Responder ε σ) (workflow : Workflow) (stamp : RunStamp)
    (listener : Listener) (session : Session ε σ) :
    Except OrchestrationError WorkflowReport × Listener × Session ε σ :=
  match firstRepeated? [] workflow.stepNames with
  | some name => (.error (.invalidStrategy (repeatedStep workflow.name name)), listener, session)
  | none =>
    let started := listener.tell
      (.workflowStarted stamp.runId workflow.name workflow.steps.length)
    let progress := runSteps responder workflow.failFast stamp.runId 0 workflow.steps ∅ started
      session
    let report : WorkflowReport :=
      ⟨stamp.runId, workflow.name, stamp.startedAt, stamp.finishedAt, progress.records⟩
    let completed := progress.listener.tell
      (.workflowCompleted stamp.runId report.succeeded report.failed report.skipped)
    (.ok report, completed, progress.session)

end Workflow

end Ensemble
