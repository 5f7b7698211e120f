/-
# Workflow documents

A workflow is written as one YAML document. Every text may be any scalar, whatever else it might
mean; what a step is told keeps its kind. A workflow without a name has that of its file.
-/

import Ensemble.Workflow.Definition
import Ensemble.Yaml.Content

namespace Ensemble

open Yaml (Node)

/-- A text under a name, or one for when it is missing. -/
def textField? (fields : List (String × Node)) (name : String) (absent : Option String) :
    Option String :=
  match fields.lookup name with
  | some node => node.text?
  | none => absent

/-- Lists and records are nested at most this deep. -/
def documentDepth : Nat := 128

namespace WorkflowStep

/-- The levels of nesting that the data of a step have left: the workflow, its list of steps, the
step and its context take one each. -/
def contextDepth : Nat := documentDepth - 4

/-- What a step is told. -/
def contextOfNode? (node : Node) : Option Context := do
  let members ← node.members?
  let data ← members.mapM fun member => do
    return (member.1, Datum.ofValue (← member.2.value? contextDepth))
  return Dictionary.ofList data

/-- The step that a node describes. -/
def ofNode? (node : Node) : Option WorkflowStep := do
  let fields ← node.fields? ["name", "agent", "task", "context"]
  let context ←
    match fields.lookup "context" with
    | none => some none
    | some node => do
      match ← node.present? with
      | none => some none
      | some node => (contextOfNode? node).map some
  return ⟨← textField? fields "name" (some ""), ← textField? fields "agent" none,
    ← textField? fields "task" none, context⟩

end WorkflowStep

namespace Workflow

/-- The workflow that a node describes. -/
def ofNode? (node : Node) : Option Workflow := do
  let fields ← node.fields? ["name", "description", "fail-fast", "steps"]
  let failFast ←
    match fields.lookup "fail-fast" with
    | some node => node.truth?
    | none => some false
  let items ← (← fields.lookup "steps").items?
  return ⟨← textField? fields "name" (some ""), ← textField? fields "description" (some ""),
    failFast, ← items.mapM WorkflowStep.ofNode?⟩

/-- The workflow that a text describes, which is a single document; its name is that of its file
if it has none. -/
def ofDocument? (fileName : String) (text : String) : Option Workflow := do
  let documents ← Yaml.documents? .lenient text.toList
  if 1 < documents.length then none
  let workflow ← ofNode? (documents.head?.getD Yaml.Node.absent)
  return if Text.isBlankText workflow.name then { workflow with name := fileName } else workflow

end Workflow

end Ensemble
