/-
# Looking up what is in a report

A report can be searched for a key, which finds the first entry, or be put into a context, where
the last entry for a key would stay. Both find the same, and lose nothing, because the keys of
different entries differ: in a report that a coordinated task leads to or that a collaboration
keeps, and for the names of the steps in the report of a workflow.
-/

import Ensemble.Proofs.Coordination.HybridFlow
import Ensemble.Proofs.Coordination.Shadowing
import Ensemble.Proofs.Session.Collaboration
import Ensemble.Proofs.Workflow.Narration

namespace Ensemble

variable {ε σ : Type}

/-! ## Coordinated tasks -/

namespace CoordinationReport

/-- What is under a key of a report is the output of its one entry with the key, and the same is
found in its context, which has nothing else. -/
structure LooksUp (report : CoordinationReport) : Prop where
  size_eq : report.toContext.size = report.entries.length
  entry_iff : ∀ key output, report.get? key = some output ↔
    ∃ entry ∈ report.entries, entry.key = key ∧ entry.output = output
  context_iff : ∀ key output, report.get? key = some output ↔
    report.toContext.get? key = some (.text output)

theorem looksUp_of_nodup {report : CoordinationReport}
    (hdistinct : (report.entries.map CoordinationEntry.key).Nodup) : LooksUp report where
  size_eq := by
    have hkeys : ((report.entries.map fun entry =>
        (entry.key, Datum.text entry.output)).map Prod.fst).Nodup := by
      rwa [List.map_map]
    rw [toContext, Dictionary.size_ofList hkeys, List.length_map]
  entry_iff key output := report.get?_eq_some_iff hdistinct
  context_iff key output := by
    have hcontext : report.toContext = Coordination.outputsOf report.entries := rfl
    rw [report.get?_eq_some_iff hdistinct, hcontext,
      Coordination.get?_outputsOf_eq_some_iff hdistinct]
    simp only [Datum.text_inj, eq_comm]

end CoordinationReport

namespace Session

variable {responder : Responder ε σ} {session after : Session ε σ}

theorem looksUp_of_coordinate {request : CoordinationRequest} {report : CoordinationReport}
    (h : session.coordinate responder request = (.ok report, after)) : report.LooksUp := by
  apply CoordinationReport.looksUp_of_nodup
  rw [(coordinate_entries h).1]
  exact nodup_resultKeys request.agentNames

/-- The contributions that a collaboration keeps are those of a coordinated task. -/
theorem looksUp_of_collaborate {task : String} {names : List String} {context : Option Context}
    {synthesizer : Option String} {contributions : CoordinationReport} {name : String}
    {answer : Except EndpointError String}
    (h : session.collaborate responder task names context synthesizer =
      (Collaboration.ofAnswer contributions name answer, after)) : contributions.LooksUp := by
  obtain ⟨combiner, middle, contributing, -, -, hcombines⟩ := combines_of_collaborate h
  exact looksUp_of_coordinate hcombines.coordinated

end Session

/-! ## Workflows -/

namespace WorkflowReport

/-- What is under a name of a report is the outcome of its one record with the name, and something
is there exactly for the given names. -/
structure LooksUp (report : WorkflowReport) (names : List String) : Prop where
  record_iff : ∀ name outcome, report.get? name = some outcome ↔
    ∃ record ∈ report.steps, record.name = name ∧ record.outcome = outcome
  unique : ∀ name ∈ names, ∃! position : Nat, ∃ record,
    report.steps[position]? = some record ∧ record.name = name
  none_iff : ∀ name, report.get? name = none ↔ name ∉ names

theorem get?_eq_some_iff {report : WorkflowReport} (hdistinct : report.stepNames.Nodup)
    {name : String} {outcome : StepOutcome} :
    report.get? name = some outcome ↔
      ∃ record ∈ report.steps, record.name = name ∧ record.outcome = outcome := by
  simp only [get?, Option.map_eq_some_iff, find?_key_eq_some_iff hdistinct, and_assoc]

theorem get?_eq_none_iff {report : WorkflowReport} {name : String} :
    report.get? name = none ↔ name ∉ report.stepNames := by
  simp [get?, stepNames]

theorem looksUp_of_nodup {report : WorkflowReport} (hdistinct : report.stepNames.Nodup) :
    LooksUp report report.stepNames where
  record_iff name outcome := get?_eq_some_iff hdistinct
  unique name hname := by
    obtain ⟨position, hat⟩ := List.mem_iff_getElem?.1 hname
    have hrecord : ∀ other : Nat, (∃ record, report.steps[other]? = some record ∧
        record.name = name) ↔ report.stepNames[other]? = some name := fun other => by
      rw [stepNames, List.getElem?_map, Option.map_eq_some_iff]
    simp only [hrecord]
    refine ⟨position, hat, fun other hother => ?_⟩
    obtain ⟨hlt, -⟩ := List.getElem?_eq_some_iff.1 hother
    exact (List.getElem?_inj hlt hdistinct).1 (hother.trans hat.symm)
  none_iff name := get?_eq_none_iff

end WorkflowReport

/-- A workflow that runs has distinct step names, and its report records them in order. -/
theorem Workflow.stepNames_of_run {responder : Responder ε σ} {workflow : Workflow}
    {stamp : RunStamp} {listener heard : Listener} {session after : Session ε σ}
    {report : WorkflowReport}
    (h : workflow.run responder stamp listener session = (.ok report, heard, after)) :
    workflow.stepNames.Nodup ∧ report.stepNames = workflow.stepNames := by
  by_cases hdistinct : workflow.stepNames.Nodup
  · refine ⟨hdistinct, ?_⟩
    rw [run_told responder hdistinct] at h
    obtain rfl := Except.ok.inj (Prod.mk.inj h).1
    obtain ⟨made, -, haccount⟩ := runSteps_account responder workflow.failFast stamp.runId 0
      workflow.steps ∅
      (Listener.absent.tell (.workflowStarted stamp.runId workflow.name workflow.steps.length))
      session
    exact haccount.names
  · obtain ⟨name, hrefused⟩ := run_of_not_nodup responder hdistinct
    rw [hrefused] at h
    simp at h

namespace Session

/-- In every report that a coordinated task leads to, that a collaboration returns or that a failed
synthesis keeps, a key finds the output of the one entry that has it, in the report and in its
context alike. In the report of a workflow the name of a step finds the outcome of the one record
that has it, and no other text finds anything. -/
theorem reports_lookUp (responder : Responder ε σ) (session : Session ε σ) :
    (∀ request report after,
      session.coordinate responder request = (.ok report, after) → report.LooksUp) ∧
    (∀ task names context synthesizer collaboration after,
      session.collaborate responder task names context synthesizer =
        (.ok collaboration, after) → collaboration.contributions.LooksUp) ∧
    (∀ task names context synthesizer name report source after,
      session.collaborate responder task names context synthesizer =
        (.error (.synthesisFailed name report source), after) → report.LooksUp) ∧
    ∀ (workflow : Workflow) stamp listener report heard after,
      workflow.run responder stamp listener session = (.ok report, heard, after) →
      report.LooksUp workflow.stepNames := by
  refine ⟨?_, ?_, ?_, ?_⟩
  · intro request report after h
    exact looksUp_of_coordinate h
  · intro task names context synthesizer collaboration after h
    have hanswered : session.collaborate responder task names context synthesizer =
        (Collaboration.ofAnswer collaboration.contributions collaboration.synthesizer
          (.ok collaboration.synthesis), after) := h
    exact looksUp_of_collaborate hanswered
  · intro task names context synthesizer name report source after h
    have hfailed : session.collaborate responder task names context synthesizer =
        (Collaboration.ofAnswer report name (.error source), after) := h
    exact looksUp_of_collaborate hfailed
  · intro workflow stamp listener report heard after h
    obtain ⟨hdistinct, hnames⟩ := Workflow.stepNames_of_run h
    rw [← hnames] at hdistinct ⊢
    exact WorkflowReport.looksUp_of_nodup hdistinct

/-- An agent that is named twice has two outputs in the context of the report, and the steps of a
workflow are found although nobody can run them. -/
theorem reports_lookUp_repeated :
    ∃ report after,
      uncalledPair.coordinate losesFourth (.new "Review" ["a", "b", "a"] .hybrid) =
        (.ok report, after) ∧
      report.LooksUp ∧ report.toContext.size = 3 ∧
      (∃ collaboration after, uncalledPair.collaborate losesFourth "Review" ["a"] none none =
        (.ok collaboration, after) ∧ collaboration.contributions.LooksUp) ∧
      (∃ kept after, uncalledPair.collaborate losesFourth "Review" ["a", "b", "a"] none none =
        (.error (.synthesisFailed "a" kept (.timeout 30)), after) ∧ kept.LooksUp) ∧
      ∃ report heard after, Workflow.interrupted.run losesFourth ⟨default, default, default⟩ .absent
        uncalledPair = (.ok report, heard, after) ∧
        report.LooksUp ["draft", "step_1", "final"] := by
  obtain ⟨hcoordinate, hcollaborate, hkept, hworkflow⟩ := reports_lookUp losesFourth uncalledPair
  obtain ⟨report, after, hran⟩ : ∃ report after,
      uncalledPair.coordinate losesFourth (.new "Review" ["a", "b", "a"] .hybrid) =
        (.ok report, after) := ⟨_, _, rfl⟩
  have hlookup := hcoordinate _ _ _ hran
  have hthree : report.toContext.size = 3 := by
    rw [hlookup.size_eq, ← List.length_map CoordinationEntry.agent, (coordinate_entries hran).2]
    rfl
  have hnames : Workflow.interrupted.stepNames = ["draft", "step_1", "final"] := by decide
  obtain ⟨collaboration, last, hcollaborated⟩ : ∃ collaboration last,
      uncalledPair.collaborate losesFourth "Review" ["a"] none none =
        (.ok collaboration, last) := ⟨_, _, rfl⟩
  obtain ⟨kept, broken, hbroken⟩ : ∃ kept broken,
      uncalledPair.collaborate losesFourth "Review" ["a", "b", "a"] none none =
        (.error (.synthesisFailed "a" kept (.timeout 30)), broken) := ⟨_, _, rfl⟩
  obtain ⟨steps, heard, idle, hworked⟩ : ∃ steps heard idle,
      Workflow.interrupted.run losesFourth ⟨default, default, default⟩ .absent uncalledPair =
        (.ok steps, heard, idle) := ⟨_, _, _, rfl⟩
  exact ⟨report, after, hran, hlookup, hthree,
    ⟨collaboration, last, hcollaborated, hcollaborate _ _ _ _ _ _ hcollaborated⟩,
    ⟨kept, broken, hbroken, hkept _ _ _ _ _ _ _ _ hbroken⟩,
    steps, heard, idle, hworked, hnames ▸ hworkflow _ _ _ _ _ _ hworked⟩

end Session

end Ensemble
