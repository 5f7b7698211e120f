/-
# Agents

An agent has a name, a role, standing instructions and an endpoint that answers it. It keeps a
memory, which only its owner writes, and a history of its successful calls. Endpoints are named
by handles of any type.
-/

import Ensemble.Agent.History
import Ensemble.Agent.Prompt
import Ensemble.Text.Quoted

namespace Ensemble

/-- A named actor whose endpoint is named by a handle. The name has no blanks around it. -/
structure Agent (ε : Type) where
  name : String
  trimmed : Text.trim name = name
  role : String
  instructions : String
  endpoint : ε
  memory : Dictionary Datum
  history : History

namespace Agent

variable {ε : Type}

/-- An agent without memory and history. Blanks around the name are dropped. -/
def new (name role instructions : String) (endpoint : ε) : Agent ε :=
  ⟨Text.trim name, Text.trim_trim name, role, instructions, endpoint, ∅, .empty⟩

/-- The prompt of the agent for a task. -/
def prompt (agent : Agent ε) (task : String) (context : Option Context) : String :=
  Prompt.compose agent.name agent.role agent.instructions context task

/-- The agent with a value under a key of its memory. -/
def remember (agent : Agent ε) (key : String) (value : Datum) : Agent ε :=
  { agent with memory := agent.memory.insert key value }

/-- The value under a key of the agent's memory. -/
def remembered? (agent : Agent ε) (key : String) : Option Datum :=
  agent.memory.get? key

/-- The agent without a key in its memory. -/
def forget (agent : Agent ε) (key : String) : Agent ε :=
  { agent with memory := agent.memory.erase key }

/-- The agent without memory. -/
def clearMemory (agent : Agent ε) : Agent ε :=
  { agent with memory := ∅ }

/-- The agent with one more successful call in its history. -/
def record (agent : Agent ε) (entry : HistoryEntry) : Agent ε :=
  { agent with history := agent.history.push entry }

/-- The agent with another cap for its history. -/
def capHistory (agent : Agent ε) (cap : Nat) : Agent ε :=
  { agent with history := agent.history.withCap cap }

/-- The agent in one line, with the name of the model that answers it. -/
def summary (agent : Agent ε) (modelName : String) : String :=
  "Agent \x7b name: " ++ Text.quoted agent.name ++ ", role: " ++ Text.quoted agent.role ++
    ", model: " ++ Text.quoted modelName ++ " \x7d"

end Agent

end Ensemble
