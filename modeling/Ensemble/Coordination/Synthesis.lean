/-
# Synthesis

The task of the agent that combines what others contributed.
-/

import Ensemble.Coordination.Report

namespace Ensemble

/-- The task to combine the contributions to a task. -/
def synthesisTask (task : String) (contributions : CoordinationReport) : String :=
  "You are coordinating a group of agents to solve a task.\n\n" ++
    "Task: " ++ task ++ "\n\n" ++
    "Agents involved: " ++ ", ".intercalate contributions.agents ++ "\n\n" ++
    "Contributions:\n" ++ contributions.render ++ "\n" ++
    "Combine these contributions into one coordinated response that " ++
    "synthesizes input from all agents."

end Ensemble
