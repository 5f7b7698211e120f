/-
# Collaborations keep what was contributed

A collaboration is a sequential run and one more call, in which an agent combines the
contributions. Whatever comes of that call, the contributions are those of the sequential run, all
of them are in the prompt in their order, and they are all kept: a synthesis that fails is told
apart from a contributor that fails, even when both are the same agent. A contributor that fails
ends the collaboration before anyone is asked to combine anything.
-/

import Ensemble.CommandLine.Execution
import Ensemble.Proofs.Agent.Prompt
import Ensemble.Proofs.Coordination.Chain
import Ensemble.Proofs.Session.Refusal
import Ensemble.Proofs.Text.Order

namespace Ensemble

open Text (InOrder EndsUnblank)

variable {ε σ : Type}

/-! ## Contributions in texts -/

/-- What a text has to show of a report: the heading of every entry, and its output without the
blanks at its end. -/
def CoordinationReport.pieces (report : CoordinationReport) : List String :=
  report.entries.flatMap fun entry => ["## " ++ entry.key, Text.trimEnd entry.output]

namespace CoordinationReport

theorem inOrder_passage (entry : CoordinationEntry) :
    InOrder ["## " ++ entry.key, Text.trimEnd entry.output] (passage entry).toList := by
  have hheading := (InOrder.self ("## " ++ entry.key)).beforeText "\n"
  have hboth : InOrder ["## " ++ entry.key, Text.trimEnd entry.output]
      ("## " ++ entry.key ++ "\n" ++ Text.trimEnd entry.output).toList := by
    rw [String.toList_append]
    exact hheading.append (InOrder.self (Text.trimEnd entry.output))
  exact hboth.beforeText "\n"

/-- A report shows its entries in order. -/
theorem inOrder_render (report : CoordinationReport) :
    InOrder report.pieces report.render.toList := by
  rw [render, String.toList_intercalate, List.map_map]
  exact InOrder.intercalate _ fun entry _ => inOrder_passage entry

/-- The pieces of a report do not end in blanks, when its keys could be names of steps. -/
theorem endsUnblank_pieces {report : CoordinationReport}
    (hkeys : ∀ entry ∈ report.entries, IsStepName entry.key) :
    ∀ piece ∈ report.pieces, EndsUnblank piece := by
  intro piece hpiece
  obtain ⟨entry, hentry, hmem⟩ := List.mem_flatMap.1 hpiece
  obtain ⟨htrimmed, hsome⟩ := hkeys entry hentry
  rcases List.mem_pair.1 hmem with hheading | houtput
  · rw [hheading]
    exact (Text.endsUnblank_of_trim htrimmed).append_left hsome "## "
  · rw [houtput]
    exact Text.endsUnblank_trimEnd entry.output

end CoordinationReport

/-- The task to combine contributions shows them in order. -/
theorem inOrder_synthesisTask (task : String) (contributions : CoordinationReport) :
    InOrder contributions.pieces (synthesisTask task contributions).toList := by
  have hrender := contributions.inOrder_render
  exact (((hrender.behindText _).beforeText _).beforeText _).beforeText _

/-- So does every prompt for that task. -/
theorem Agent.inOrder_prompt (agent : Agent ε) (task : String)
    (contributions : CoordinationReport) (context : Option Context) :
    InOrder contributions.pieces
      (agent.prompt (synthesisTask task contributions) context).toList := by
  have htask := (inOrder_synthesisTask task contributions).behindText "Task: "
  exact htask.widen (Prompt.suffix_compose agent.name agent.role agent.instructions
    (synthesisTask task contributions) context).isInfix

/-- What is shown of a synthesis that failed has the contributions in order. -/
theorem Render.inOrder_partialContributions {contributions : CoordinationReport}
    (hkeys : ∀ entry ∈ contributions.entries, IsStepName entry.key) (styled : Bool)
    (synthesizer : String) :
    InOrder contributions.pieces
      (partialContributions styled synthesizer contributions).toList := by
  have htrimmed : InOrder contributions.pieces (Text.trimEnd contributions.render).toList := by
    rw [Text.trimEnd, String.toList_ofList]
    exact contributions.inOrder_render.trimEndChars (CoordinationReport.endsUnblank_pieces hkeys)
  exact (htrimmed.behindText _).beforeText _

/-! ## The agent that combines -/

/-- The registered agent that combines contributions: the one that is named, or else the first of
those that contribute. -/
def IsSynthesizer (registry : Registry ε) (names : List String) (synthesizer : Option String)
    (agent : Agent ε) : Prop :=
  synthesizer.or names.head? = some agent.name ∧ registry.find? agent.name = some agent

namespace Session

theorem synthesizerOf_eq_ok_iff {registry : Registry ε} {names : List String}
    {synthesizer : Option String} {agent : Agent ε} :
    synthesizerOf registry names synthesizer = .ok agent ↔
      IsSynthesizer registry names synthesizer agent := by
  have hrequire : ∀ name, registry.require name = .ok agent ↔
      some name = some agent.name ∧ registry.find? agent.name = some agent := by
    intro name
    rw [Registry.require_eq_ok_iff]
    constructor
    · intro hfind
      have hname := Registry.name_of_find? hfind
      exact ⟨congrArg some hname.symm, hname ▸ hfind⟩
    · rintro ⟨hname, hfind⟩
      rw [Option.some.inj hname, hfind]
  cases synthesizer with
  | some name => exact hrequire name
  | none =>
      cases names with
      | nil => simp [synthesizerOf, IsSynthesizer]
      | cons name rest => exact hrequire name

/-! ## Contributions that break off -/

variable {responder : Responder ε σ} {request : CoordinationRequest}
  {session middle after : Session ε σ}

/-- The entries of a report have keys that could be names of steps. -/
theorem isStepName_of_coordinate {report : CoordinationReport}
    (h : session.coordinate responder request = (.ok report, after)) :
    ∀ entry ∈ report.entries, IsStepName entry.key := by
  intro entry hentry
  obtain ⟨taken, hseats, -⟩ := coordinate_ok h
  have hkey : entry.key ∈ taken.map Seat.key := by
    rw [hseats.keys_eq, ← (coordinate_entries h).1]
    exact List.mem_map_of_mem hentry
  obtain ⟨seat, hseat, hseatKey⟩ := List.mem_map.1 hkey
  rw [← hseatKey]
  exact hseats.isStepName hseat

/-- From one session to another agents contributed to a task, and then one agent was asked once to
combine the contributions, all of which were put before it. -/
structure Combines (responder : Responder ε σ) (task : String) (names : List String)
    (context : Option Context) (before middle : Session ε σ) (contributions : CoordinationReport)
    (contributing : List (Exchange ε)) (combiner : Agent ε) (answer : Except EndpointError String)
    (after : Session ε σ) : Prop where
  coordinated : before.coordinate responder (collaborationRequest task names context) =
    (.ok contributions, middle)
  aligned : Aligned responder (collaborationRequest task names context) before middle
    contributions contributing
  conducts : before.Conducts responder (contributing ++
    [.ofTask combiner (synthesisTask task contributions) context answer]) after
  shown : InOrder contributions.pieces
    (combiner.prompt (synthesisTask task contributions) context).toList

variable {task : String} {names : List String} {context : Option Context}
  {synthesizer : Option String} {combiner : Agent ε} {contributions : CoordinationReport}

/-- When all agents contribute, one of them is asked to combine the contributions, and they are
kept. -/
theorem combines_of_coordinate
    (hchosen : IsSynthesizer session.registry names synthesizer combiner)
    (h : session.coordinate responder (collaborationRequest task names context) =
      (.ok contributions, middle)) :
    ∃ contributing answer after,
      Combines responder task names context session middle contributions contributing combiner
        answer after ∧
      session.collaborate responder task names context synthesizer =
        (Collaboration.ofAnswer contributions combiner.name answer, after) := by
  obtain ⟨taken, hseats, hrun⟩ := coordinate_ok h
  obtain ⟨turns, hturns⟩ := Coordination.run_ok hseats.length hrun
  have haligned := aligned_of_takes hseats hturns
  obtain ⟨answer, after, hcombined, hcollaborated⟩ :=
    collaborate_of_ok (synthesizerOf_eq_ok_iff.2 hchosen) h
  exact ⟨_, answer, after, ⟨h, haligned, haligned.conducts.trans hcombined,
    combiner.inOrder_prompt task contributions context⟩, hcollaborated⟩

/-- Contributions that are kept were all gathered, and then put before one agent. -/
theorem combines_of_collaborate {name : String} {answer : Except EndpointError String}
    (h : session.collaborate responder task names context synthesizer =
      (Collaboration.ofAnswer contributions name answer, after)) :
    ∃ combiner middle contributing, combiner.name = name ∧
      IsSynthesizer session.registry names synthesizer combiner ∧
      Combines responder task names context session middle contributions contributing combiner
        answer after := by
  cases hchosen : synthesizerOf session.registry names synthesizer with
  | error error =>
      rw [collaborate_of_unchosen hchosen] at h
      exact absurd (Prod.mk.inj h).1.symm
        (Collaboration.ofAnswer_ne_error (Or.inl (synthesizerOf_isMistake hchosen)) _ _ _)
  | ok combiner =>
      have hcombiner := synthesizerOf_eq_ok_iff.1 hchosen
      rcases hcoordinated : session.coordinate responder (collaborationRequest task names context)
        with ⟨result, middle⟩
      cases result with
      | error error =>
          rw [collaborate_of_error hchosen hcoordinated] at h
          exact absurd (Prod.mk.inj h).1.symm
            (Collaboration.ofAnswer_ne_error (coordinate_error_kind hcoordinated) _ _ _)
      | ok gathered =>
          obtain ⟨contributing, given, last, hcombines, hcollaborated⟩ :=
            combines_of_coordinate hcombiner hcoordinated
          rw [hcollaborated] at h
          obtain ⟨hresult, rfl⟩ := Prod.mk.inj h
          obtain ⟨rfl, hname, rfl⟩ := Collaboration.ofAnswer_inj hresult
          exact ⟨combiner, middle, contributing, hname, hcombiner, hcombines⟩

/-- An endpoint that counts its calls and does not answer the fourth. -/
def losesFourth : Responder Unit Nat :=
  fun _ _ _ count => (if count = 3 then .error (.timeout 30) else .ok "done ", count + 1)

end Session

/-- The command line shows what was contributed, whether the synthesis is answered or not. -/
theorem Surroundings.collaborate_shows {around : Surroundings σ}
    {session after : Session Binding σ} {agents : List String} {synthesizer : Option String}
    {task : String} {contributions : CoordinationReport} {name : String}
    {answer : Except EndpointError String}
    (h : session.collaborate around.responder task agents none synthesizer =
      (Collaboration.ofAnswer contributions name answer, after)) :
    InOrder contributions.pieces
      (around.collaborate session agents synthesizer task).output.toList := by
  obtain ⟨combiner, middle, contributing, -, -, hcombines⟩ := Session.combines_of_collaborate h
  have hkeys := Session.isStepName_of_coordinate hcombines.coordinated
  cases answer with
  | ok synthesis =>
      have houtput : (around.collaborate session agents synthesizer task).output =
          around.collaborationText ⟨contributions, name, synthesis⟩ := by
        simp only [collaborate, h, Collaboration.ofAnswer, conclude, worked]
      have hrender := (contributions.inOrder_render.behindText
        (around.styledLine .bold "Contributions")).beforeText "\n"
      rw [houtput]
      exact ((((hrender.beforeText _).beforeText _).beforeText _).beforeText _).beforeText _
  | error source =>
      have houtput : (around.collaborate session agents synthesizer task).output =
          Render.partialContributions around.styled name contributions := by
        simp only [collaborate, h, Collaboration.ofAnswer, worked]
      rw [houtput]
      exact Render.inOrder_partialContributions hkeys around.styled name

end Ensemble
