/-
# Registries

A registry holds agents in the order in which they were added. No two have the same name, and no
name is empty.
-/

import Ensemble.Agent.Basic
import Ensemble.Error

namespace Ensemble

/-- Agents in the order in which they were added. -/
structure Registry (ε : Type) where
  agents : List (Agent ε)
  distinct : (agents.map Agent.name).Nodup
  named : ∀ agent ∈ agents, agent.name ≠ ""

namespace Registry

variable {ε : Type}

/-- The registry without agents. -/
def empty : Registry ε := ⟨[], List.nodup_nil, by simp⟩

instance : Inhabited (Registry ε) := ⟨empty⟩

/-- The names in order. -/
def names (registry : Registry ε) : List String :=
  registry.agents.map Agent.name

/-- The agent with a name. -/
def find? (registry : Registry ε) (name : String) : Option (Agent ε) :=
  registry.agents.find? fun agent => agent.name == name

/-- Whether there is an agent with a name. -/
def has (registry : Registry ε) (name : String) : Bool :=
  registry.names.contains name

/-- The agent with a name, or the error that there is none. -/
def require (registry : Registry ε) (name : String) : Except OrchestrationError (Agent ε) :=
  match registry.find? name with
  | some agent => .ok agent
  | none => .error (.agentNotFound name)

/-- The sentence for a name that is blank. -/
def blankName : String := "agent name must not be blank"

/-- The registry with one more agent, unless its name is empty or taken. -/
def register (registry : Registry ε) (agent : Agent ε) :
    Except OrchestrationError (Registry ε) :=
  if hname : agent.name = "" then .error (.invalidAgentName blankName)
  else if hnew : agent.name ∈ registry.names then .error (.duplicateName agent.name)
  else .ok ⟨registry.agents ++ [agent], by
      rw [List.map_append, List.nodup_append]
      refine ⟨registry.distinct, by simp, fun name hmem other hother heq => hnew ?_⟩
      simp only [List.map_cons, List.map_nil, List.mem_singleton] at hother
      exact hother ▸ heq ▸ hmem,
    fun other hother => by
      rcases List.mem_append.1 hother with hother | hother
      · exact registry.named other hother
      · exact List.mem_singleton.1 hother ▸ hname⟩

/-- The registry without the agent with a name. -/
def remove (registry : Registry ε) (name : String) : Registry ε :=
  ⟨registry.agents.filter fun agent => agent.name != name,
    registry.distinct.sublist (List.Sublist.map _ List.filter_sublist),
    fun agent hagent => registry.named agent (List.mem_filter.1 hagent).1⟩

/-- The registry with the agent with a name changed, which keeps the name. -/
def update (registry : Registry ε) (name : String) (change : Agent ε → Agent ε)
    (h : ∀ agent, (change agent).name = agent.name) : Registry ε :=
  ⟨registry.agents.map fun agent => if agent.name = name then change agent else agent, by
    have hnames : (registry.agents.map fun agent =>
        if agent.name = name then change agent else agent).map Agent.name =
        registry.agents.map Agent.name := by
      rw [List.map_map]
      refine List.map_congr_left fun agent _ => ?_
      simp only [Function.comp_apply]
      split
      · exact h agent
      · rfl
    rw [hnames]
    exact registry.distinct, by
    intro agent hagent
    obtain ⟨other, hother, rfl⟩ := List.mem_map.1 hagent
    split
    · rw [h]
      exact registry.named other hother
    · exact registry.named other hother⟩

end Registry

end Ensemble
