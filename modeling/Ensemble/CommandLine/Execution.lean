/-
# Carrying out commands

A command works on a tree of files and over a transport to the servers of endpoints. It leaves
its output, the lines that tell how it proceeds, the error that stopped it, the calls it made, and
the tree behind it.
-/

import Ensemble.CommandLine.Command
import Ensemble.CommandLine.Render
import Ensemble.File.Outcome
import Ensemble.Project.Scaffold
import Ensemble.Project.Session
import Ensemble.Session.Coordinate
import Ensemble.Workflow.Run

namespace Ensemble

/-- Why a command fails. -/
inductive CommandError where
  | scaffold (error : ScaffoldError)
  /-- The project cannot be listed. -/
  | project (error : LoadError)
  /-- The project cannot be used. -/
  | configuration (root : String) (error : LoadError)
  | session (fault : SessionFault)
  | orchestration (error : OrchestrationError)
  | groupsWithoutHybrid
  | workflowMissing (name : String)
  | outputPath (error : PathError)
  | outputWrite (path : String) (error : FileError)
  /-- So many steps of so many failed or were skipped. -/
  | unsuccessful (count total : Nat)

namespace CommandError

/-- The sentence for an error. -/
def message : CommandError → String
  | scaffold error => error.message
  | project error => error.message
  | configuration root _ => "failed to load configuration under " ++ root
  | session fault => fault.message
  | orchestration error => error.message
  | groupsWithoutHybrid => "--group only applies to the hybrid strategy"
  | workflowMissing name => "workflow '" ++ name ++ "' not found in .maki/workflows"
  | outputPath error => error.message
  | outputWrite path error => "failed to write " ++ path ++ ": " ++ error.message
  | unsuccessful count total =>
    toString count ++ " of " ++ toString total ++ " steps did not succeed"

/-- The sentence for what is behind an error. -/
def reason? : CommandError → Option String
  | configuration _ error => some error.message
  | _ => none

end CommandError

/-- What a command finds around it. -/
structure Surroundings (σ : Type) where
  tree : FileTree
  transport : HttpRequest → σ → HttpOutcome × σ
  world : σ
  /-- What identifies the run of a workflow. -/
  stamp : RunStamp
  /-- Whether texts are shown in styles. -/
  styled : Bool

/-- What a command leaves behind. -/
structure CommandOutcome (σ : Type) where
  output : String
  /-- The lines that tell how the command proceeds. -/
  progress : List String
  error : Option CommandError
  calls : List (Call Binding)
  tree : FileTree
  world : σ

namespace Surroundings

variable {σ : Type}

/-- A command that shows a text and may fail; it calls nobody and changes nothing. -/
def shown (around : Surroundings σ) (output : String) (error : Option CommandError) :
    CommandOutcome σ :=
  ⟨output, [], error, [], around.tree, around.world⟩

/-- A command that shows a text and may fail, after some work of a session. -/
def worked (around : Surroundings σ) (session : Session Binding σ) (output : String)
    (error : Option CommandError) : CommandOutcome σ :=
  ⟨output, [], error, session.calls, around.tree, session.world⟩

/-- A line in a style. -/
def styledLine (around : Surroundings σ) (style : Style) (text : String) : String :=
  style.paint around.styled text ++ "\n"

/-- Make a project and show the paths that were written. -/
def init (around : Surroundings σ) (root : String) (replaces isSmall : Bool) :
    CommandOutcome σ :=
  match Scaffold.make around.tree root replaces isSmall with
  | (tree, .error error) =>
    { around.shown "" (some (.scaffold error)) with tree := tree }
  | (tree, .ok paths) =>
    let lines := paths.map fun path =>
      "  " ++ Style.green.paint around.styled "created" ++ " " ++ path ++ "\n"
    { around.shown (String.join lines ++ around.styledLine .bold "Project initialized.") none with
      tree := tree }

/-- What is shown when there are no agents. -/
def noAgents : String :=
  "No agents configured. Run \x60maki init\x60 to create some.\n"

/-- The line for an agent: its name, its role and its model. -/
def agentLine (around : Surroundings σ) (settings : ProjectSettings) (agent : AgentProfile) :
    String :=
  let role := if agent.role.isEmpty then "-" else agent.role
  Style.bold.paint around.styled (Render.column 20 agent.name) ++ " " ++ Render.column 24 role ++
    " " ++ around.styledLine .dimmed (agent.model.getD settings.endpoint.model)

/-- List the agents of a project. -/
def agents (around : Surroundings σ) (root : String) : CommandOutcome σ :=
  match Project.load around.tree root with
  | .error error => around.shown "" (some (.project error))
  | .ok project =>
    if project.agents.isEmpty then around.shown noAgents none
    else around.shown (String.join (project.agents.map (around.agentLine project.settings))) none

/-- The project below a root and its session. -/
def open? (around : Surroundings σ) (root : String) :
    Except CommandError (Project × Session Binding σ) :=
  match Project.load around.tree root with
  | .error error => .error (.configuration root error)
  | .ok project =>
    match project.session around.world with
    | .error fault => .error (.session fault)
    | .ok session => .ok (project, session)

/-- How endpoints answer. -/
def responder (around : Surroundings σ) : Responder Binding σ :=
  Binding.responder around.transport

/-- Show what comes of some work of a session. -/
def conclude {α : Type} (around : Surroundings σ) (render : α → String) :
    Result Binding σ α → CommandOutcome σ
  | (.ok value, session) => around.worked session (render value) none
  | (.error error, session) => around.worked session "" (some (.orchestration error))

/-- One agent carries out a task, and its answer is shown. -/
def ask (around : Surroundings σ) (session : Session Binding σ) (agent task : String) :
    CommandOutcome σ :=
  around.conclude (fun answer => answer ++ "\n") (session.assign around.responder agent task none)

/-- The request for a coordinated task. Groups are for the hybrid strategy only. -/
def coordinationRequest (strategy : Strategy) (agents : List String)
    (groups : List (List String)) (task : String) : Except CommandError CoordinationRequest :=
  let request := CoordinationRequest.new task agents strategy
  if groups.isEmpty then .ok request
  else if strategy = .hybrid then .ok (request.withGroups groups)
  else .error .groupsWithoutHybrid

/-- Several agents carry out a task, and the report is shown. -/
def coordinate (around : Surroundings σ) (session : Session Binding σ) (strategy : Strategy)
    (agents : List String) (groups : List (List String)) (task : String) : CommandOutcome σ :=
  match coordinationRequest strategy agents groups task with
  | .error error => around.worked session "" (some error)
  | .ok request =>
    around.conclude CoordinationReport.render (session.coordinate around.responder request)

/-- What is shown of a collaboration. -/
def collaborationText (around : Surroundings σ) (collaboration : Collaboration) : String :=
  around.styledLine .bold "Contributions" ++ collaboration.contributions.render ++ "\n" ++
    Style.bold.paint around.styled "Synthesis by" ++ " " ++
    around.styledLine .bold collaboration.synthesizer ++ collaboration.synthesis ++ "\n"

/-- Several agents contribute to an answer. Their contributions are shown also when the synthesis
fails. -/
def collaborate (around : Surroundings σ) (session : Session Binding σ) (agents : List String)
    (synthesizer : Option String) (task : String) : CommandOutcome σ :=
  match session.collaborate around.responder task agents none synthesizer with
  | (.error (.synthesisFailed synthesizer contributions source), after) =>
    around.worked after (Render.partialContributions around.styled synthesizer contributions)
      (some (.orchestration (.synthesisFailed synthesizer contributions source)))
  | concluded => around.conclude around.collaborationText concluded

/-- A report as JSON or as a text. -/
def reportText (asJson : Bool) (report : WorkflowReport) : String :=
  if asJson then Json.indented report.encode else Render.workflowReport report

/-- The lines for what a listener heard. -/
def eventLines (around : Surroundings σ) : Listener → List String
  | .listening events => events.filterMap (Render.eventLine? around.styled)
  | _ => []

/-- The error for a report with steps that did not succeed. -/
def reportError? (report : WorkflowReport) : Option CommandError :=
  if report.isSuccess then none
  else some (.unsuccessful (report.failed + report.skipped) report.steps.length)

/-- Write a report to a file, if one is named. -/
def writeReport (around : Surroundings σ) (output : Option String) (text : String)
    (outcome : CommandOutcome σ) : CommandOutcome σ :=
  match output with
  | none => outcome
  | some path =>
    match around.tree.writeText path text .overwrite true with
    | .error error => { outcome with error := some (.outputPath error) }
    | .ok (written, tree) =>
      match written.result with
      | .error error => { outcome with error := some (.outputWrite path error), tree := tree }
      | .ok _ =>
        let line := Style.dimmed.paint around.styled "report written to" ++ " " ++ path
        { outcome with progress := outcome.progress ++ [line], tree := tree }

/-- Run a workflow of a project and show the report. Its file is written before steps that did not
succeed make the command fail. -/
def run (around : Surroundings σ) (project : Project) (session : Session Binding σ)
    (name : String) (failFast : Bool) (output : Option String) (asJson : Bool) :
    CommandOutcome σ :=
  match project.workflow? name with
  | none => around.worked session "" (some (.workflowMissing name))
  | some workflow =>
    let chosen := workflow.withFailFast (workflow.failFast || failFast)
    match chosen.run around.responder around.stamp (.listening []) session with
    | (.error error, _, after) => around.worked after "" (some (.orchestration error))
    | (.ok report, heard, after) =>
      let text := reportText asJson report
      let progress := if asJson then [] else around.eventLines heard
      around.writeReport output text
        { around.worked after (text ++ "\n") (reportError? report) with progress := progress }

/-- Carry out a command on a project with its session. -/
def work (around : Surroundings σ) (root : String)
    (act : Project → Session Binding σ → CommandOutcome σ) : CommandOutcome σ :=
  match around.open? root with
  | .error error => around.shown "" (some error)
  | .ok (project, session) => act project session

/-- Carry out a command. -/
def carryOut (around : Surroundings σ) (invocation : Invocation) : CommandOutcome σ :=
  let root := invocation.root
  match invocation.command with
  | .init replaces isSmall => around.init root replaces isSmall
  | .agents => around.agents root
  | .ask agent task => around.work root fun _ session => around.ask session agent task
  | .coordinate strategy agents groups task =>
    around.work root fun _ session => around.coordinate session strategy agents groups task
  | .collaborate agents synthesizer task =>
    around.work root fun _ session => around.collaborate session agents synthesizer task
  | .run workflow failFast output asJson =>
    around.work root fun project session =>
      around.run project session workflow failFast output asJson

end Surroundings

end Ensemble
