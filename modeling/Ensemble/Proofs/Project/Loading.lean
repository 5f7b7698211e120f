/-
# What a loaded project holds

When a project loads, its agents are those that its files describe, in ascending order of the file
names. Their names are trimmed, not empty and pairwise different, so each agent is found under its
name, and the default temperature is between zero and one.
-/

import Ensemble.Project.Basic
import Ensemble.Proofs.Dictionary
import Ensemble.Proofs.File.Order
import Mathlib.Data.List.Forall2

namespace Ensemble

/-- What comes of a success is that success. -/
theorem eq_ok_of_toOption {ε α : Type} {result : Except ε α} {value : α}
    (h : result.toOption = some value) : result = .ok value := by
  cases result with
  | error error => cases h
  | ok found => exact congrArg Except.ok (Option.some.inj h)

/-! ## One agent -/

/-- A described agent has a trimmed name that is not empty. -/
theorem AgentProfile.named_of_ofDocument {text : String} {profile : AgentProfile}
    (h : AgentProfile.ofDocument text = .ok profile) :
    profile.name ≠ "" ∧ Text.trim profile.name = profile.name := by
  rw [ofDocument] at h
  split at h
  next matter body _ =>
    split at h
    next => cases h
    next decoded _ =>
      simp only at h
      split at h
      next => cases h
      next hname =>
        obtain rfl := Except.ok.inj h
        exact ⟨fun hempty => hname (String.isEmpty_iff.2 hempty), Text.trim_trim decoded.name⟩
  next => cases h

namespace Project

variable {tree : FileTree} {root directory : String} {project : Project}

/-- A file of the project with a text. -/
theorem readFile_of_text {path text : String} (h : (tree.readText path).toOption = some text) :
    readFile tree path = .ok text := by
  rw [readFile, eq_ok_of_toOption h]

theorem named_of_loadAgent {path : String} {profile : AgentProfile}
    (h : loadAgent tree path = .ok profile) :
    profile.name ≠ "" ∧ Text.trim profile.name = profile.name := by
  rw [loadAgent] at h
  cases htext : readFile tree path with
  | error error => simp [htext, bind, Except.bind] at h
  | ok text =>
      simp only [htext, bind, Except.bind] at h
      split at h
      next hdocument =>
        obtain rfl := Except.ok.inj h
        exact AgentProfile.named_of_ofDocument hdocument
      next => cases h

/-! ## Many agents -/

/-- Agents that load from files stand in the order of the files, and no name is taken twice. -/
structure Loads (tree : FileTree) (seen : List (String × String)) (paths : List String)
    (profiles : List AgentProfile) : Prop where
  described : List.Forall₂ (fun path profile => loadAgent tree path = .ok profile) paths profiles
  unseen : ∀ profile ∈ profiles, seen.lookup profile.name = none
  distinct : (profiles.map AgentProfile.name).Nodup

theorem loads_of_loadAgentFiles {seen : List (String × String)} {paths : List String}
    {profiles : List AgentProfile} (h : loadAgentFiles tree seen paths = .ok profiles) :
    Loads tree seen paths profiles := by
  induction paths generalizing seen profiles with
  | nil =>
      obtain rfl := Except.ok.inj h
      exact ⟨.nil, by simp, List.nodup_nil⟩
  | cons path rest ih =>
      rw [loadAgentFiles] at h
      cases hloaded : loadAgent tree path with
      | error error => simp [hloaded, bind, Except.bind] at h
      | ok profile =>
          simp only [hloaded, bind, Except.bind] at h
          split at h
          next => cases h
          next hnew =>
            split at h
            next => cases h
            next others hothers =>
              obtain rfl := Except.ok.inj h
              have hrest := ih hothers
              -- The names behind this one differ from it, since it has been seen by then.
              have hunseen : ∀ other ∈ others,
                  other.name ≠ profile.name ∧ seen.lookup other.name = none := by
                intro other hother
                have hlookup := hrest.unseen other hother
                rw [List.lookup_cons] at hlookup
                split at hlookup
                next => cases hlookup
                next hne => exact ⟨by simpa using hne, hlookup⟩
              refine ⟨.cons hloaded hrest.described, ?_, ?_⟩
              · intro other hother
                rcases List.mem_cons.1 hother with rfl | hother
                · exact hnew
                · exact (hunseen other hother).2
              · rw [List.map_cons, List.nodup_cons]
                refine ⟨fun hmem => ?_, hrest.distinct⟩
                obtain ⟨other, hother, hname⟩ := List.mem_map.1 hmem
                exact (hunseen other hother).1 hname

/-- Every loaded agent has a trimmed name that is not empty. -/
theorem Loads.named {seen : List (String × String)} {paths : List String}
    {profiles : List AgentProfile} (h : Loads tree seen paths profiles) :
    ∀ profile ∈ profiles, profile.name ≠ "" ∧ Text.trim profile.name = profile.name := by
  have hdescribed := h.described
  clear h
  induction hdescribed with
  | nil => simp
  | cons hloaded _ ih => exact List.forall_mem_cons.2 ⟨named_of_loadAgent hloaded, ih⟩

/-- The names of the files with some extensions ascend. -/
theorem filesWith_ascend (tree : FileTree) (directory : String) (extensions : List String) :
    (filesWith tree directory extensions).Pairwise (· < ·) := by
  refine List.Pairwise.filterMap _ (fun first second hlt left hleft right hright => ?_)
    (tree.children_ascend directory)
  -- Only a file with one of the extensions has a name that is kept, and it is kept as it is.
  split at hleft
  next =>
    split at hleft
    next =>
      split at hright
      next =>
        split at hright
        next =>
          rw [← Option.some.inj hleft, ← Option.some.inj hright]
          exact hlt
        next => cases hright
      next => cases hright
    next => cases hleft
  next => cases hleft

/-! ## Settings -/

theorem inUnitInterval_of_loadSettings {settings : ProjectSettings}
    (h : loadSettings tree directory = .ok settings) :
    settings.endpoint.temperature.inUnitInterval = true := by
  rw [loadSettings] at h
  split at h
  next =>
    cases htext : readFile tree (Path.join directory "config.toml") with
    | error error => simp [htext, bind, Except.bind] at h
    | ok text =>
        simp only [htext, bind, Except.bind, settingsOfText] at h
        split at h
        next =>
          split at h
          next hin =>
            obtain rfl := Except.ok.inj h
            exact hin
          next => cases h
        next => cases h
  next =>
    obtain rfl := Except.ok.inj h
    decide

/-! ## Projects -/

/-- The directory of a project's agents. -/
def agentFolder (root : String) : String :=
  Path.join (Path.join root directoryName) "agents"

/-- The names of the files that describe a project's agents. -/
def agentFiles (tree : FileTree) (root : String) : List String :=
  if tree.contains (Path.join root directoryName) then filesWith tree (agentFolder root) ["md"]
  else []

theorem agentFiles_ascend (tree : FileTree) (root : String) :
    (agentFiles tree root).Pairwise (· < ·) := by
  rw [agentFiles]
  split
  · exact filesWith_ascend tree _ _
  · exact .nil

/-- A project that loads has the settings and agents that its files describe. -/
theorem loads_of_load (h : load tree root = .ok project) :
    project.settings.endpoint.temperature.inUnitInterval = true ∧
      Loads tree [] ((agentFiles tree root).map (Path.join (agentFolder root))) project.agents := by
  rw [load] at h
  rw [agentFiles]
  split at h
  next hthere =>
    rw [if_pos hthere]
    cases hsettings : loadSettings tree (Path.join root directoryName) with
    | error error => simp [hsettings, bind, Except.bind] at h
    | ok settings =>
        cases hagents : loadAgents tree (Path.join root directoryName) with
        | error error => simp [hsettings, hagents, bind, Except.bind] at h
        | ok agents =>
            simp only [hsettings, hagents, bind, Except.bind] at h
            split at h
            next => cases h
            next =>
              obtain rfl := Except.ok.inj h
              exact ⟨inUnitInterval_of_loadSettings hsettings, loads_of_loadAgentFiles hagents⟩
  next hmissing =>
    rw [if_neg hmissing]
    obtain rfl := Except.ok.inj h
    exact ⟨by decide, .nil, by simp [standard], List.nodup_nil⟩

/-- The agent with a name of its own is found under it. -/
theorem agent?_name (hdistinct : (project.agents.map AgentProfile.name).Nodup)
    {profile : AgentProfile} (h : profile ∈ project.agents) :
    project.agent? profile.name = some profile :=
  (find?_key_eq_some_iff hdistinct).2 ⟨h, rfl⟩

end Project

end Ensemble
