/-
# Looking agents up

An agent is found under a name exactly when it is registered and has that name. To register an
agent puts it behind the others, unless its name is empty or taken; to remove one leaves the others
where they are, and is nothing when there is none. To change an agent leaves the others as they are.
-/

import Ensemble.Agent.Registry
import Ensemble.Proofs.Dictionary

namespace Ensemble.Registry

variable {ε : Type} {registry : Registry ε} {name : String} {agent : Agent ε}

/-- Registries with the same agents in the same order are equal. -/
theorem ext_agents {left right : Registry ε} (h : left.agents = right.agents) : left = right := by
  cases left
  cases right
  cases h
  rfl

/-- An agent is found under a name exactly when it is registered and has that name. -/
theorem find?_eq_some_iff : registry.find? name = some agent ↔
    agent ∈ registry.agents ∧ agent.name = name :=
  find?_key_eq_some_iff registry.distinct

theorem find?_eq_none_iff : registry.find? name = none ↔ name ∉ registry.names := by
  rw [find?, names, List.find?_eq_none, List.mem_map]
  simp

theorem has_iff_mem : registry.has name = true ↔ name ∈ registry.names :=
  List.contains_iff_mem

theorem has_eq_isSome (registry : Registry ε) (name : String) :
    registry.has name = (registry.find? name).isSome := by
  rw [Bool.eq_iff_iff, has_iff_mem, Option.isSome_iff_ne_none, ne_eq, find?_eq_none_iff,
    Decidable.not_not]

/-- Under a listed name, and under no other, an agent of that name is found. -/
theorem mem_names_iff_exists :
    name ∈ registry.names ↔ ∃ agent, registry.find? name = some agent ∧ agent.name = name := by
  constructor
  · intro hlisted
    obtain ⟨agent, hmem, hname⟩ := List.mem_map.1 hlisted
    exact ⟨agent, find?_eq_some_iff.2 ⟨hmem, hname⟩, hname⟩
  · rintro ⟨agent, hfound, rfl⟩
    exact List.mem_map_of_mem (find?_eq_some_iff.1 hfound).1

/-- Every listed name is trimmed and not empty. -/
theorem named_of_mem (h : name ∈ registry.names) : name ≠ "" ∧ Text.trim name = name := by
  obtain ⟨agent, hmem, rfl⟩ := List.mem_map.1 h
  exact ⟨registry.named agent hmem, agent.trimmed⟩

/-! ## Registering and removing -/

/-- An agent with a name that is new and not empty joins behind the others. -/
theorem register_ok (hname : agent.name ≠ "") (hnew : agent.name ∉ registry.names) :
    ∃ after, registry.register agent = .ok after ∧ after.agents = registry.agents ++ [agent] := by
  rw [register, dif_neg hname, dif_neg hnew]
  exact ⟨_, rfl, rfl⟩

theorem register_of_blank (hname : agent.name = "") :
    registry.register agent = .error (.invalidAgentName blankName) := by
  rw [register, dif_pos hname]

theorem register_of_taken (hname : agent.name ≠ "") (htaken : agent.name ∈ registry.names) :
    registry.register agent = .error (.duplicateName agent.name) := by
  rw [register, dif_neg hname, dif_pos htaken]

/-- An agent whose name is empty or taken is refused. -/
theorem register_error (h : agent.name = "" ∨ agent.name ∈ registry.names) :
    ∃ error, registry.register agent = .error error := by
  by_cases hname : agent.name = ""
  · exact ⟨_, register_of_blank hname⟩
  · exact ⟨_, register_of_taken hname (h.resolve_left hname)⟩

section Joined

variable {before after : Registry ε}

/-- Who joins is listed behind the others. -/
theorem names_of_joined (h : after.agents = before.agents ++ [agent]) :
    after.names = before.names ++ [agent.name] := by
  rw [names, h, List.map_append]
  rfl

theorem find?_self_of_joined (h : after.agents = before.agents ++ [agent]) :
    after.find? agent.name = some agent := by
  rw [find?_eq_some_iff, h]
  exact ⟨List.mem_append_right _ (List.mem_singleton_self agent), rfl⟩

/-- When an agent joins, the agents of all other names are found as before. -/
theorem find?_of_joined (h : after.agents = before.agents ++ [agent]) (hne : name ≠ agent.name) :
    after.find? name = before.find? name := by
  rw [find?, find?, h, List.find?_append, List.find?_singleton, if_neg (by simpa using hne.symm),
    Option.or_none]

end Joined

theorem agents_remove (registry : Registry ε) (name : String) :
    (registry.remove name).agents = registry.agents.filter fun agent => agent.name != name := rfl

/-- To remove a name that no agent has is nothing. -/
theorem remove_of_absent (h : registry.find? name = none) : registry.remove name = registry := by
  apply ext_agents
  rw [agents_remove, List.filter_eq_self]
  intro agent hmem
  rw [bne_iff_ne]
  intro heq
  exact find?_eq_none_iff.1 h (heq ▸ List.mem_map_of_mem hmem)

theorem names_remove (registry : Registry ε) (name : String) :
    (registry.remove name).names = registry.names.filter (· != name) := by
  rw [names, names, agents_remove, List.filter_map]
  rfl

theorem find?_remove_self (registry : Registry ε) (name : String) :
    (registry.remove name).find? name = none := by
  rw [find?_eq_none_iff, names_remove]
  simp

/-- Under all other names the same agents are found as before. -/
theorem find?_remove_of_ne (registry : Registry ε) {name other : String} (hne : other ≠ name) :
    (registry.remove name).find? other = registry.find? other := by
  apply Option.ext
  intro agent
  rw [find?_eq_some_iff, find?_eq_some_iff, agents_remove, List.mem_filter]
  constructor
  · rintro ⟨⟨hmem, -⟩, hname⟩
    exact ⟨hmem, hname⟩
  · rintro ⟨hmem, rfl⟩
    exact ⟨⟨hmem, bne_iff_ne.2 hne⟩, rfl⟩

/-! ## Changing one agent -/

/-- A changed agent is found under its name, and the others as before. -/
theorem find?_update (registry : Registry ε) (name other : String)
    {change : Agent ε → Agent ε} (hname : ∀ agent, (change agent).name = agent.name) :
    (registry.update name change hname).find? other =
      (registry.find? other).map fun agent => if other = name then change agent else agent := by
  have hkeeps : ∀ agent : Agent ε,
      (if agent.name = name then change agent else agent).name = agent.name := by
    intro agent
    split
    · exact hname agent
    · rfl
  rw [find?, update, List.find?_map, find?]
  simp only [Function.comp_def, hkeeps]
  cases hfound : registry.agents.find? fun agent => agent.name == other with
  | none => rfl
  | some agent =>
      have hother : agent.name = other := by simpa using List.find?_some hfound
      rw [Option.map_some, Option.map_some, hother]

/-- What is seen of an agent after a change. -/
theorem map_find?_update {α : Type} (registry : Registry ε) (name other : String)
    {change : Agent ε → Agent ε} (hname : ∀ agent, (change agent).name = agent.name)
    (view : Agent ε → α) :
    ((registry.update name change hname).find? other).map view =
      (registry.find? other).map fun agent =>
        if other = name then view (change agent) else view agent := by
  rw [find?_update, Option.map_map]
  congr 1
  funext agent
  rw [Function.comp_apply]
  split <;> rfl

end Ensemble.Registry
