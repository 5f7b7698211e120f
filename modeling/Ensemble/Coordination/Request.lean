/-
# Coordination requests

A request names a task, the agents that run it in order, and a strategy. All agents see the
shared context; an agent with a context of its own sees that on top.
-/

import Ensemble.Context
import Ensemble.Coordination.Strategy

namespace Ensemble

/-- The groups of a hybrid run, in the order in which they run. -/
structure Grouping where
  groups : List (List String)
deriving DecidableEq, Repr

namespace Grouping

/-- A grouping as a record. -/
def encode (grouping : Grouping) : Value :=
  .record [("groups", .list (grouping.groups.map fun group => .list (group.map Value.text)))]

/-- The fields of a grouping. -/
def fields : Fields Grouping :=
  (Fields.none Grouping.mk).both
    (.required "groups" (Value.decodeList (Value.decodeList Value.decodeText)))

/-- Read a grouping. -/
def decode : Value → Decoded Grouping :=
  fields.decode "struct HybridGrouping" .direct

end Grouping

/-- A request to run one task with several agents. An agent that is named twice runs twice. -/
structure CoordinationRequest where
  task : String
  agentNames : List String
  strategy : Strategy
  context : Option Context
  agentContexts : Dictionary Context
  grouping : Option Grouping

namespace CoordinationRequest

/-- A request without contexts and grouping. -/
def new (task : String) (agentNames : List String) (strategy : Strategy) : CoordinationRequest :=
  ⟨task, agentNames, strategy, none, ∅, none⟩

/-- The request with a shared context. -/
def withContext (request : CoordinationRequest) (context : Context) : CoordinationRequest :=
  { request with context := some context }

/-- The request with a context of its own for one agent. -/
def withAgentContext (request : CoordinationRequest) (agent : String) (context : Context) :
    CoordinationRequest :=
  { request with agentContexts := request.agentContexts.insert agent context }

/-- The request with groups. -/
def withGroups (request : CoordinationRequest) (groups : List (List String)) :
    CoordinationRequest :=
  { request with grouping := some ⟨groups⟩ }

/-- The context that all agents share. -/
def sharedContext (request : CoordinationRequest) : Context :=
  request.context.getD ∅

/-- The context that an agent sees on top of a common one. -/
def contextFor (request : CoordinationRequest) (agent : String) (base : Context) : Context :=
  base.overlay (request.agentContexts.get? agent)

/-- Contexts under agent names as a record. -/
def encodeContexts (contexts : Dictionary Context) : Value :=
  .record (contexts.entries.map fun entry => (entry.1, entry.2.encode))

/-- A request as a record. What is absent or empty has no member. -/
def encode (request : CoordinationRequest) : Value :=
  .record ([("task", .text request.task),
      ("agent-names", .list (request.agentNames.map Value.text)),
      ("strategy", request.strategy.encode)] ++
    Value.optionalMember "context" Context.encode request.context ++
    (if request.agentContexts.isEmpty then []
      else [("agent-context", encodeContexts request.agentContexts)]) ++
    Value.optionalMember "grouping" Grouping.encode request.grouping)

/-- The fields of a request. -/
def fields : Fields CoordinationRequest :=
  (Fields.none CoordinationRequest.mk)
    |>.both (.required "task" Value.decodeText)
    |>.both (.required "agent-names" (Value.decodeList Value.decodeText))
    |>.both (.required "strategy" Strategy.decode)
    |>.both (.optional "context" (Value.decodeOptional Context.decode) none)
    |>.both (.optional "agent-context" (Value.decodeDictionary Context.decode) ∅)
    |>.both (.optional "grouping" (Value.decodeOptional Grouping.decode) none)

/-- Read a request. -/
def decode : Value → Decoded CoordinationRequest :=
  fields.decode "struct CoordinationRequest" .direct

end CoordinationRequest

end Ensemble
