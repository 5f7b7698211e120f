/-
# Workflows

A workflow is a list of steps that run one after another. A step is a task for one agent, which
also sees the results of the steps before it.
-/

import Ensemble.Context
import Ensemble.Text.Blank

namespace Ensemble

/-- One step of a workflow. -/
structure WorkflowStep where
  name : String
  agent : String
  task : String
  /-- What the step's agent is told besides earlier results, and in place of them under common
  names. -/
  context : Option Context

namespace WorkflowStep

/-- The name under which a step at a position is recorded: its own without the blanks around
it, or one made of the position if it has none. -/
def resolvedName (step : WorkflowStep) (index : Nat) : String :=
  let name := Text.trim step.name
  if name.isEmpty then "step_" ++ toString index else name

/-- A step as a record. -/
def encode (step : WorkflowStep) : Value :=
  .record ([("name", .text step.name), ("agent", .text step.agent), ("task", .text step.task)] ++
    Value.optionalMember "context" Context.encode step.context)

/-- The fields of a step. -/
def fields : Fields WorkflowStep :=
  (Fields.none WorkflowStep.mk)
    |>.both (.optional "name" Value.decodeText "")
    |>.both (.required "agent" Value.decodeText)
    |>.both (.required "task" Value.decodeText)
    |>.both (.optional "context" (Value.decodeOptional Context.decode) none)

/-- Read a step. -/
def decode : Value → Decoded WorkflowStep :=
  fields.decode "struct WorkflowStep" .direct

end WorkflowStep

/-- A list of steps under a name. -/
structure Workflow where
  name : String
  description : String
  /-- Whether the first step that fails is the last that runs. -/
  failFast : Bool
  steps : List WorkflowStep

namespace Workflow

/-- A workflow of steps that all run. -/
def new (name : String) (steps : List WorkflowStep) : Workflow :=
  ⟨name, "", false, steps⟩

/-- The workflow that stops at the first failure, or does not. -/
def withFailFast (workflow : Workflow) (failFast : Bool) : Workflow :=
  { workflow with failFast := failFast }

/-- The names under which the steps from a position on are recorded. -/
def namesFrom : Nat → List WorkflowStep → List String
  | _, [] => []
  | index, step :: rest => step.resolvedName index :: namesFrom (index + 1) rest

/-- The names under which the steps are recorded. -/
def stepNames (workflow : Workflow) : List String :=
  namesFrom 0 workflow.steps

/-- A workflow as a record. -/
def encode (workflow : Workflow) : Value :=
  .record [("name", .text workflow.name), ("description", .text workflow.description),
    ("fail-fast", .boolean workflow.failFast),
    ("steps", .list (workflow.steps.map WorkflowStep.encode))]

/-- The fields of a workflow. -/
def fields : Fields Workflow :=
  (Fields.none Workflow.mk)
    |>.both (.optional "name" Value.decodeText "")
    |>.both (.optional "description" Value.decodeText "")
    |>.both (.optional "fail-fast" Value.decodeBoolean false)
    |>.both (.required "steps" (Value.decodeList WorkflowStep.decode))

/-- Read a workflow. -/
def decode : Value → Decoded Workflow :=
  fields.decode "struct Workflow" .direct

end Workflow

end Ensemble
