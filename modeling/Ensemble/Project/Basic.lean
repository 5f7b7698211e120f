/-
# Projects

A project is a directory with settings, agents and workflows. What is not there is left at its
defaults. Agents and workflows are taken in the order of their file names; two agents of one name
are refused.
-/

import Ensemble.Project.Error
import Ensemble.Project.Settings
import Ensemble.Toml.Reader
import Ensemble.Workflow.Document

namespace Ensemble

/-- A loaded project. -/
structure Project where
  settings : ProjectSettings
  agents : List AgentProfile
  workflows : List Workflow

namespace Project

/-- The project when there is none. -/
def standard : Project := ⟨.standard, [], []⟩

/-- The first agent with a name. -/
def agent? (project : Project) (name : String) : Option AgentProfile :=
  project.agents.find? fun agent => agent.name == name

/-- The first workflow with a name. -/
def workflow? (project : Project) (name : String) : Option Workflow :=
  project.workflows.find? fun workflow => workflow.name == name

/-- The name of a project's directory. -/
def directoryName : String := ".maki"

/-- The text of a file of the project. -/
def readFile (tree : FileTree) (path : String) : Except LoadError String :=
  match tree.readText path with
  | .ok text => .ok text
  | .error error => .error (.fileRead path error)

/-- The settings that a text makes. -/
def settingsOfText (path text : String) : Except LoadError ProjectSettings :=
  match (Toml.read? text).map (ProjectSettings.decodeFrom .table) with
  | some (.ok settings) =>
    if settings.endpoint.temperature.inUnitInterval then .ok settings
    else .error (.temperature path settings.endpoint.temperature)
  | _ => .error (.settings path)

/-- The settings of the project in a directory. -/
def loadSettings (tree : FileTree) (directory : String) : Except LoadError ProjectSettings :=
  let path := Path.join directory "config.toml"
  if tree.contains path then do settingsOfText path (← readFile tree path)
  else .ok .standard

/-- The names of the files in a directory with one of some extensions, in order. -/
def filesWith (tree : FileTree) (directory : String) (extensions : List String) : List String :=
  (tree.children directory).filterMap fun child =>
    match child.2, Path.extension? child.1 with
    | .file _, some extension => if extensions.contains extension then some child.1 else none
    | _, _ => none

/-- The agent that a file describes. -/
def loadAgent (tree : FileTree) (path : String) : Except LoadError AgentProfile := do
  match AgentProfile.ofDocument (← readFile tree path) with
  | .ok profile => return profile
  | .error fault => throw (.agent path fault)

/-- The agents of some files. `seen` holds the names so far and where they are defined. -/
def loadAgentFiles (tree : FileTree) (seen : List (String × String)) :
    List String → Except LoadError (List AgentProfile)
  | [] => .ok []
  | path :: rest => do
    let profile ← loadAgent tree path
    match seen.lookup profile.name with
    | some first => throw (.duplicateAgent profile.name first path)
    | none => return profile :: (← loadAgentFiles tree ((profile.name, path) :: seen) rest)

/-- The agents of the project in a directory. -/
def loadAgents (tree : FileTree) (directory : String) : Except LoadError (List AgentProfile) :=
  let folder := Path.join directory "agents"
  loadAgentFiles tree [] ((filesWith tree folder ["md"]).map (Path.join folder))

/-- The workflow that a file of a folder describes. -/
def loadWorkflow (tree : FileTree) (folder name : String) : Except LoadError Workflow := do
  let path := Path.join folder name
  match Workflow.ofDocument? (Path.stem name) (← readFile tree path) with
  | some workflow => return workflow
  | none => throw (.workflow path)

/-- The workflows of the project in a directory. -/
def loadWorkflows (tree : FileTree) (directory : String) : Except LoadError (List Workflow) :=
  let folder := Path.join directory "workflows"
  (filesWith tree folder ["yaml", "yml"]).mapM (loadWorkflow tree folder)

/-- The project below a root: its settings, then its agents, then its workflows. -/
def load (tree : FileTree) (root : String) : Except LoadError Project :=
  let directory := Path.join root directoryName
  if tree.contains directory then do
    let settings ← loadSettings tree directory
    let agents ← loadAgents tree directory
    let workflows ← loadWorkflows tree directory
    return ⟨settings, agents, workflows⟩
  else .ok standard

end Project

end Ensemble
