/-
# Registries in two parts

A registry can be kept in two parts: a table of the agents by their names, for looking them up, and
the names in the order in which they were added, for listing them. Nothing but the calls that add
and remove agents keeps the two parts in step. They do: a directory answers every call as a registry
does, and shows the same agents after it.
-/

import Ensemble.Proofs.Agent.Registry

namespace Ensemble

variable {ε : Type}

/-- A table of agents by name, and names in order. -/
structure Directory (ε : Type) where
  table : Dictionary (Agent ε)
  names : List String

namespace Directory

/-- The directory without agents. -/
def empty : Directory ε := ⟨∅, []⟩

/-- The agent that the table has under a name. -/
def find? (directory : Directory ε) (name : String) : Option (Agent ε) :=
  directory.table.get? name

/-- Whether the table has an agent under a name. -/
def has (directory : Directory ε) (name : String) : Bool :=
  (directory.find? name).isSome

/-- Add an agent under its name, unless that is empty or in the table. -/
def register (agent : Agent ε) (directory : Directory ε) :
    Except OrchestrationError (Agent ε) × Directory ε :=
  if agent.name = "" then (.error (.invalidAgentName Registry.blankName), directory)
  else if directory.has agent.name then (.error (.duplicateName agent.name), directory)
  else (.ok agent,
    ⟨directory.table.insert agent.name agent, directory.names ++ [agent.name]⟩)

/-- Remove the agent with a name, if the table has one. -/
def remove (name : String) (directory : Directory ε) : Option (Agent ε) × Directory ε :=
  match directory.find? name with
  | some agent => (some agent,
    ⟨directory.table.erase name, directory.names.filter (· != name)⟩)
  | none => (none, directory)

/-- Both parts of a directory show the agents of a registry. -/
structure Shows (directory : Directory ε) (registry : Registry ε) : Prop where
  names : directory.names = registry.names
  table : ∀ name, directory.find? name = registry.find? name

theorem shows_empty : (empty : Directory ε).Shows .empty := ⟨rfl, fun _ => rfl⟩

namespace Shows

variable {directory : Directory ε} {registry after : Registry ε} {agent : Agent ε}

theorem has (h : directory.Shows registry) (name : String) :
    directory.has name = registry.has name := by
  rw [Directory.has, h.table, registry.has_eq_isSome]

/-- An agent joins both parts when it joins the registry. -/
theorem joined (h : directory.Shows registry)
    (hagents : after.agents = registry.agents ++ [agent]) :
    Shows ⟨directory.table.insert agent.name agent, directory.names ++ [agent.name]⟩ after where
  names := by rw [h.names, Registry.names_of_joined hagents]
  table := by
    intro name
    rw [find?, Dictionary.get?_insert]
    by_cases heq : agent.name = name
    · rw [if_pos heq, ← heq, Registry.find?_self_of_joined hagents]
    · rw [if_neg heq, Registry.find?_of_joined hagents (Ne.symm heq)]
      exact h.table name

/-- An agent leaves both parts when it leaves the registry. -/
theorem removed (h : directory.Shows registry) (name : String) :
    Shows ⟨directory.table.erase name, directory.names.filter (· != name)⟩
      (registry.remove name) where
  names := by rw [h.names, registry.names_remove]
  table := by
    intro other
    rw [find?, Dictionary.get?_erase]
    by_cases heq : name = other
    · rw [if_pos heq, ← heq, registry.find?_remove_self]
    · rw [if_neg heq, registry.find?_remove_of_ne (Ne.symm heq)]
      exact h.table other

/-- A directory takes and refuses the agents that the registry does. -/
theorem register (h : directory.Shows registry) (agent : Agent ε) :
    (∃ after later, registry.register agent = .ok after ∧
      directory.register agent = (.ok agent, later) ∧ later.Shows after) ∨
    ∃ error, registry.register agent = .error error ∧
      directory.register agent = (.error error, directory) := by
  by_cases hname : agent.name = ""
  · refine Or.inr ⟨_, Registry.register_of_blank hname, ?_⟩
    rw [Directory.register, if_pos hname]
  · by_cases htaken : agent.name ∈ registry.names
    · have hhas : directory.has agent.name = true := by rw [h.has, Registry.has_iff_mem.2 htaken]
      refine Or.inr ⟨_, Registry.register_of_taken hname htaken, ?_⟩
      rw [Directory.register, if_neg hname, if_pos hhas]
    · have hhas : ¬ directory.has agent.name = true := by
        rw [h.has, Registry.has_iff_mem]
        exact htaken
      obtain ⟨after, hregistered, hagents⟩ := Registry.register_ok hname htaken
      refine Or.inl ⟨after, _, hregistered, ?_, h.joined hagents⟩
      rw [Directory.register, if_neg hname, if_neg hhas]

/-- A directory removes the agents that the registry does. -/
theorem remove (h : directory.Shows registry) (name : String) :
    (directory.remove name).1 = registry.find? name ∧
      (directory.remove name).2.Shows (registry.remove name) := by
  rw [Directory.remove, h.table]
  cases hfound : registry.find? name with
  | some agent => exact ⟨rfl, h.removed name⟩
  | none =>
      refine ⟨rfl, ?_⟩
      rw [Registry.remove_of_absent hfound]
      exact h

end Shows

end Directory

end Ensemble
