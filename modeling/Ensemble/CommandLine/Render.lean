/-
# What the command line shows

The lines for progress events, the report of a workflow, and contributions that were gathered
before a synthesis failed.
-/

import Ensemble.CommandLine.Style
import Ensemble.Workflow.Event
import Ensemble.Workflow.Report

namespace Ensemble.Render

/-- A text with blanks behind it, so that it fills a column. -/
def column (width : Nat) (text : String) : String :=
  text ++ String.ofList (List.replicate (width - text.length) ' ')

/-- The word for an outcome. -/
def outcomeWord (styled : Bool) : StepOutcome → String
  | .success _ => Style.green.paint styled "ok"
  | .failed _ => Style.red.paint styled "failed"
  | .skipped => Style.yellow.paint styled "skipped"

/-- The line for an event, if it has one. Steps are counted from one. -/
def eventLine? (styled : Bool) : Event → Option String
  | .workflowStarted _ name total =>
    some (Style.cyan.paint styled "▶" ++ " " ++ Style.bold.paint styled name ++
      " (" ++ toString total ++ " steps)")
  | .stepStarted _ index name agent =>
    some ("  [" ++ toString (index + 1) ++ "] " ++ name ++ " " ++
      Style.dimmed.paint styled ("→ " ++ agent))
  | .stepFinished _ _ name outcome =>
    some ("      " ++ outcomeWord styled outcome ++ " " ++ name)
  | .workflowCompleted _ _ _ _ => none

/-- What is shown of an outcome. -/
def outcomeText : StepOutcome → String
  | .success value => Text.trimEnd value
  | .failed error => "[" ++ error.kind.title ++ "] " ++ error.message
  | .skipped => "(skipped)"

/-- A step under a heading. -/
def stepText (record : StepRecord) : String :=
  "## " ++ record.name ++ " (" ++ record.agent ++ ")\n" ++ outcomeText record.outcome ++ "\n\n"

/-- The last line of a report. -/
def summary (report : WorkflowReport) : String :=
  report.workflow ++ ": " ++ toString report.succeeded ++ " succeeded, " ++
    toString report.failed ++ " failed, " ++ toString report.skipped ++ " skipped"

/-- Every step under a heading, and a summary. -/
def workflowReport (report : WorkflowReport) : String :=
  String.join (report.steps.map stepText) ++ summary report

/-- Contributions that were gathered before their synthesis failed. -/
def partialContributions (styled : Bool) (synthesizer : String)
    (contributions : CoordinationReport) : String :=
  Style.yellow.paint styled ("Synthesis by " ++ synthesizer ++ " failed; " ++
    toString contributions.size ++ " contributions were gathered:") ++
    "\n" ++ Text.trimEnd contributions.render ++ "\n"

end Ensemble.Render
