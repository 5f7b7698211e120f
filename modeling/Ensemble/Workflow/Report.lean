/-
# Workflow reports

The report of a run has one record for every step of its workflow, in order.
-/

import Ensemble.Workflow.Moment
import Ensemble.Workflow.Outcome
import Ensemble.Workflow.RunId

namespace Ensemble

/-- What became of one step. -/
structure StepRecord where
  name : String
  agent : String
  outcome : StepOutcome
deriving DecidableEq, Repr

namespace StepRecord

/-- A step's record as a document record. -/
def encode (record : StepRecord) : Value :=
  .record [("name", .text record.name), ("agent", .text record.agent),
    ("outcome", record.outcome.encode)]

/-- The fields of a step's record. -/
def fields : Fields StepRecord :=
  (Fields.none StepRecord.mk)
    |>.both (.required "name" Value.decodeText)
    |>.both (.required "agent" Value.decodeText)
    |>.both (.required "outcome" (StepOutcome.decode .direct))

/-- Read a step's record. -/
def decode : Value → Decoded StepRecord :=
  fields.decode "struct StepRecord" .direct

end StepRecord

/-- The report of one run of a workflow. -/
structure WorkflowReport where
  runId : RunId
  workflow : String
  startedAt : Moment
  finishedAt : Moment
  steps : List StepRecord
deriving DecidableEq, Repr

namespace WorkflowReport

/-- The outcome of the step with a name, the first if there are several. -/
def get? (report : WorkflowReport) (name : String) : Option StepOutcome :=
  (report.steps.find? fun record => record.name == name).map StepRecord.outcome

/-- The names of the steps in order. -/
def stepNames (report : WorkflowReport) : List String :=
  report.steps.map StepRecord.name

/-- How many steps succeeded. -/
def succeeded (report : WorkflowReport) : Nat :=
  report.steps.countP fun record => record.outcome.isSuccess

/-- How many steps failed. -/
def failed (report : WorkflowReport) : Nat :=
  report.steps.countP fun record => record.outcome.isFailed

/-- How many steps were skipped. -/
def skipped (report : WorkflowReport) : Nat :=
  report.steps.countP fun record => record.outcome.isSkipped

/-- Whether every step succeeded. -/
def isSuccess (report : WorkflowReport) : Bool :=
  report.steps.all fun record => record.outcome.isSuccess

/-- A report as a record. -/
def encode (report : WorkflowReport) : Value :=
  .record [("run_id", report.runId.encode), ("workflow", .text report.workflow),
    ("started_at", report.startedAt.encode), ("finished_at", report.finishedAt.encode),
    ("steps", .list (report.steps.map StepRecord.encode))]

/-- The fields of a report. -/
def fields : Fields WorkflowReport :=
  (Fields.none WorkflowReport.mk)
    |>.both (.required "run_id" RunId.decode)
    |>.both (.required "workflow" Value.decodeText)
    |>.both (.required "started_at" Moment.decode)
    |>.both (.required "finished_at" Moment.decode)
    |>.both (.required "steps" (Value.decodeList StepRecord.decode))

/-- Read a report. -/
def decode : Value → Decoded WorkflowReport :=
  fields.decode "struct WorkflowReport" .direct

end WorkflowReport

end Ensemble
