/-
# Progress events

What a run tells while it is under way: that it started, that a step started and finished, and
that every step has an outcome. The record of an event has its type beside its payload.
-/

import Ensemble.Workflow.Outcome
import Ensemble.Workflow.RunId

namespace Ensemble

/-- A progress event of a run. -/
inductive Event where
  | workflowStarted (runId : RunId) (workflowName : String) (totalSteps : Nat)
  | stepStarted (runId : RunId) (stepIndex : Nat) (stepName : String) (agent : String)
  | stepFinished (runId : RunId) (stepIndex : Nat) (stepName : String) (outcome : StepOutcome)
  | workflowCompleted (runId : RunId) (succeeded failed skipped : Nat)
deriving DecidableEq, Repr

namespace Event

/-- The run that an event belongs to. -/
def runId : Event → RunId
  | workflowStarted id _ _ => id
  | stepStarted id _ _ _ => id
  | stepFinished id _ _ _ => id
  | workflowCompleted id _ _ _ => id

/-- A number of things as a value. -/
def encodeCount (count : Nat) : Value :=
  .number (.integer count)

/-- A type and a payload as a record. -/
def tagged (type : String) (payload : List (String × Value)) : Value :=
  .record [("type", .text type), ("payload", .record payload)]

/-- An event as a record. -/
def encode : Event → Value
  | workflowStarted id name total =>
    tagged "workflowStarted" [("run_id", id.encode), ("workflow_name", .text name),
      ("total_steps", encodeCount total)]
  | stepStarted id index name agent =>
    tagged "stepStarted" [("run_id", id.encode), ("step_index", encodeCount index),
      ("step_name", .text name), ("agent", .text agent)]
  | stepFinished id index name outcome =>
    tagged "stepFinished" [("run_id", id.encode), ("step_index", encodeCount index),
      ("step_name", .text name), ("outcome", outcome.encode)]
  | workflowCompleted id succeeded failed skipped =>
    tagged "workflowCompleted" [("run_id", id.encode), ("succeeded", encodeCount succeeded),
      ("failed", encodeCount failed), ("skipped", encodeCount skipped)]

/-- The types of events. -/
inductive EventType where
  | workflowStarted
  | stepStarted
  | stepFinished
  | workflowCompleted
deriving DecidableEq, Repr

/-- Every type under its name. -/
def types : List (String × EventType) :=
  [("workflowStarted", .workflowStarted), ("stepStarted", .stepStarted),
    ("stepFinished", .stepFinished), ("workflowCompleted", .workflowCompleted)]

/-- A number of things that fits a machine word. -/
def decodeCount : Value → Decoded Nat :=
  Value.decodeWhole UInt64.size "usize"

/-- The name of a type's payload in messages, and its fields. -/
def payloadFields (origin : Origin) : EventType → String × Fields Event
  | .workflowStarted => ("struct variant Event::WorkflowStarted",
    (Fields.none Event.workflowStarted)
      |>.both (.required "run_id" RunId.decode)
      |>.both (.required "workflow_name" Value.decodeText)
      |>.both (.required "total_steps" decodeCount))
  | .stepStarted => ("struct variant Event::StepStarted",
    (Fields.none Event.stepStarted)
      |>.both (.required "run_id" RunId.decode)
      |>.both (.required "step_index" decodeCount)
      |>.both (.required "step_name" Value.decodeText)
      |>.both (.required "agent" Value.decodeText))
  | .stepFinished => ("struct variant Event::StepFinished",
    (Fields.none Event.stepFinished)
      |>.both (.required "run_id" RunId.decode)
      |>.both (.required "step_index" decodeCount)
      |>.both (.required "step_name" Value.decodeText)
      |>.both (.required "outcome" (StepOutcome.decode origin)))
  | .workflowCompleted => ("struct variant Event::WorkflowCompleted",
    (Fields.none Event.workflowCompleted)
      |>.both (.required "run_id" RunId.decode)
      |>.both (.required "succeeded" decodeCount)
      |>.both (.required "failed" decodeCount)
      |>.both (.required "skipped" decodeCount))

/-- Read the payload of a type. -/
def decodePayload (type : EventType) (origin : Origin) (payload : Value) : Decoded Event :=
  let form := payloadFields origin type
  form.2.decode form.1 origin payload

/-- What an event is called in messages. -/
def description : String := "adjacently tagged enum Event"

/-- Read an event. The payload of a record is set aside until its type is known; of a list the
first item is the type and the second the payload. -/
def decode : Value → Decoded Event
  | .record members => do
    match Value.member? members "type", Value.member? members "payload" with
    | none, _ => throw (.missingField "type")
    | some tag, none => do
      let _ ← Value.decodeVariant types .direct tag
      throw (.missingField "payload")
    | some tag, some payload => do
      let type ← Value.decodeVariant types .direct tag
      decodePayload type .setAside payload
  | .list [] => .error (.length 0 description)
  | .list [tag] => do
    let _ ← Value.decodeVariant types .direct tag
    throw (.length 1 description)
  | .list (tag :: payload :: items) => do
    let type ← Value.decodeVariant types .direct tag
    let event ← decodePayload type .direct payload
    if items.isEmpty then return event
    else throw (Fields.surplus .direct (items.length + 2) 2)
  | found => .error (.kind found description)

end Event

end Ensemble
