/-
# Groups of a hybrid run

The groups of a request list exactly its agents, in order, and none is empty. Without groups the
first agent is alone and the others follow together.
-/

import Ensemble.Coordination.Request
import Ensemble.Error

namespace Ensemble

namespace Grouping

/-- The sentence for an empty group at a position. -/
def emptyGroup (index : Nat) : String :=
  "hybrid group " ++ toString index ++ " is empty"

/-- The sentence for groups that do not list the agents. -/
def otherAgents : String :=
  "hybrid groups must list exactly the requested agents, in order"

/-- The sizes of the groups when none are given. -/
def standardSizes : Nat → List Nat
  | 0 => []
  | 1 => [1]
  | count + 2 => [1, count + 1]

end Grouping

/-- The sizes of the groups of a hybrid request. -/
def CoordinationRequest.groupSizes (request : CoordinationRequest) :
    Except OrchestrationError (List Nat) :=
  match request.grouping with
  | none => .ok (Grouping.standardSizes request.agentNames.length)
  | some grouping =>
    match grouping.groups.findIdx? List.isEmpty with
    | some index => .error (.invalidStrategy (Grouping.emptyGroup index))
    | none =>
      if grouping.groups.flatten = request.agentNames then
        .ok (grouping.groups.map List.length)
      else .error (.invalidStrategy Grouping.otherAgents)

end Ensemble
