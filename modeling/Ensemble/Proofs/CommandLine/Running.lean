/-
# A workflow that is run from the command line

The command runs the workflow once, shows its report, writes the report to a file if one is named,
and succeeds when all steps did and the file was written. What is written is all that the file holds
afterwards, and a report in JSON is read back. A workflow that is not there, or that declares a step
twice, leaves everything as it is.
-/

import Ensemble.CommandLine.Execution
import Ensemble.Proofs.Document.RoundTrip
import Ensemble.Proofs.File.Writing
import Ensemble.Proofs.Json.RoundTrip
import Ensemble.Proofs.Project.Lookup
import Ensemble.Proofs.Session.Roster
import Ensemble.Proofs.Text.Trimming
import Ensemble.Proofs.Workflow.Narration

namespace Ensemble

/-! ## Reports are plain values -/

theorem StepError.isPlain_encode (error : StepError) (depth : Nat) :
    error.encode.IsPlain (depth + 1) :=
  .member (.text _ _) (.member (.text _ _) (.emptyRecord _))

theorem StepOutcome.isPlain_encode (outcome : StepOutcome) (depth : Nat) :
    outcome.encode.IsPlain (depth + 2) := by
  cases outcome with
  | success value => exact .member (.text _ _) (.member (.text _ _) (.emptyRecord _))
  | failed error =>
      exact .member (.text _ _) (.member (error.isPlain_encode depth) (.emptyRecord _))
  | skipped => exact .member (.text _ _) (.emptyRecord _)

theorem StepRecord.isPlain_encode (record : StepRecord) (depth : Nat) :
    record.encode.IsPlain (depth + 3) :=
  .member (.text _ _) (.member (.text _ _)
    (.member (record.outcome.isPlain_encode depth) (.emptyRecord _)))

theorem WorkflowReport.isPlain_encode (report : WorkflowReport) : report.encode.IsPlain 5 := by
  have hsteps : (Value.list (report.steps.map StepRecord.encode)).IsPlain 4 := by
    refine .list fun item hitem => ?_
    obtain ⟨record, -, rfl⟩ := List.mem_map.1 hitem
    exact record.isPlain_encode 0
  exact .member (.text _ _) (.member (.text _ _) (.member (.text _ _) (.member (.text _ _)
    (.member hsteps (.emptyRecord _)))))

/-! ## Reports as texts -/

/-- What is told of an outcome: a value without the blanks at its end, a failure with its kind and
its message, or only that the step was skipped. -/
inductive StepOutcome.ToldAs : StepOutcome → String → Prop
  | success {value told : String} {blanks : List Char}
      (split : value.toList = told.toList ++ blanks)
      (blank : ∀ c ∈ blanks, Text.isBlank c = true) (ends : Text.EndsUnblank told) :
      ToldAs (.success value) told
  | failed (error : StepError) :
      ToldAs (.failed error) ("[" ++ error.kind.title ++ "] " ++ error.message)
  | skipped : ToldAs .skipped "(skipped)"

/-- A text lists records: each under a heading with its name and its agent, and with an empty line
behind what is told of it. -/
inductive StepRecord.ListedAs : List StepRecord → String → Prop
  | none : ListedAs [] ""
  | record {record : StepRecord} {records : List StepRecord} {words rest : String}
      (told : record.outcome.ToldAs words) (behind : ListedAs records rest) :
      ListedAs (record :: records)
        ("## " ++ record.name ++ " (" ++ record.agent ++ ")\n" ++ words ++ "\n\n" ++ rest)

/-- A text shows a report: it lists the records, and ends with how many of the steps succeeded,
failed and were skipped. -/
def WorkflowReport.ShownAs (report : WorkflowReport) (text : String) : Prop :=
  ∃ listed, StepRecord.ListedAs report.steps listed ∧
    text = listed ++ (report.workflow ++ ": " ++ toString report.succeeded ++ " succeeded, " ++
      toString report.failed ++ " failed, " ++ toString report.skipped ++ " skipped")

theorem StepOutcome.toldAs_outcomeText (outcome : StepOutcome) :
    outcome.ToldAs (Render.outcomeText outcome) := by
  cases outcome with
  | success value =>
      obtain ⟨blanks, hsplit, hblanks⟩ := Text.exists_trimEndChars_append value.toList
      refine .success ?_ hblanks (Text.endsUnblank_trimEnd value)
      rw [Render.outcomeText, Text.trimEnd, String.toList_ofList]
      exact hsplit
  | failed error => exact .failed error
  | skipped => exact .skipped

theorem StepRecord.listedAs_join (records : List StepRecord) :
    ListedAs records (String.join (records.map Render.stepText)) := by
  induction records with
  | nil => exact .none
  | cons record rest ih =>
      rw [List.map_cons, String.join_cons]
      exact .record record.outcome.toldAs_outcomeText ih

/-- The text of a report shows it. -/
theorem WorkflowReport.shownAs_workflowReport (report : WorkflowReport) :
    report.ShownAs (Render.workflowReport report) :=
  ⟨_, StepRecord.listedAs_join report.steps, rfl⟩

namespace Project

variable {σ : Type}

/-- To register agents is to call nobody. -/
theorem registerAgents_silent {settings : EndpointSettings} {profiles : List AgentProfile}
    {session after : Session Binding σ}
    (h : registerAgents settings session profiles = .ok after) :
    after.calls = session.calls ∧ after.world = session.world := by
  induction profiles generalizing session with
  | nil =>
      obtain rfl := Except.ok.inj h
      exact ⟨rfl, rfl⟩
  | cons profile rest ih =>
      rw [registerAgents] at h
      split at h
      next => cases h
      next binding _ =>
        split at h
        next => cases h
        next agent middle hjoined =>
          have hadded := session.register_eq (.new profile.name profile.role profile.instructions
            (binding.getD session.defaultEndpoint))
          rw [Session.addAgent] at hjoined
          rw [hjoined] at hadded
          have hmiddle : middle = { session with registry := middle.registry } := hadded
          obtain ⟨hcalls, hworld⟩ := ih h
          rw [hcalls, hworld, hmiddle]
          exact ⟨rfl, rfl⟩

end Project

namespace Surroundings

variable {σ : Type} {around : Surroundings σ} {root : String} {project : Project}
  {session : Session Binding σ}

/-- The session of a project that was just opened has made no calls. -/
theorem open?_silent (h : around.open? root = .ok (project, session)) :
    session.calls = [] ∧ session.world = around.world := by
  rw [open?] at h
  split at h
  next => cases h
  next loaded _ =>
    split at h
    next => cases h
    next started hstarted =>
      obtain ⟨rfl, rfl⟩ := Prod.mk.inj (Except.ok.inj h)
      rw [Project.session] at hstarted
      split at hstarted
      next => cases hstarted
      next => exact Project.registerAgents_silent hstarted

/-! ## The file of a report -/

/-- A text is written where it is to be, over whatever stands there, which leads to another tree.
When no file is named nothing is written. -/
def Stores (around : Surroundings σ) (output : Option String) (text : String)
    (after : FileTree) : Prop :=
  match output with
  | none => after = around.tree
  | some path => ∃ written size,
    around.tree.writeText path text .overwrite true = .ok (written, after) ∧
      written.result = .ok size

variable {output : Option String} {text : String} {tree : FileTree}

theorem writeReport_of_stores (outcome : CommandOutcome σ)
    (h : around.Stores output text tree) (houtcome : outcome.tree = around.tree) :
    ∃ lines, around.writeReport output text outcome =
      { outcome with progress := outcome.progress ++ lines, tree := tree } := by
  cases output with
  | none =>
      obtain rfl : tree = around.tree := h
      refine ⟨[], ?_⟩
      rw [writeReport, List.append_nil, ← houtcome]
  | some path =>
      obtain ⟨written, size, hwritten, hsize⟩ := h
      simp only [writeReport, hwritten, hsize]
      exact ⟨_, rfl⟩

theorem writeReport_of_not_stores (outcome : CommandOutcome σ)
    (h : ¬ ∃ tree, around.Stores output text tree) :
    ∃ error tree, around.writeReport output text outcome =
      { outcome with error := some error, tree := tree } := by
  cases output with
  | none => exact absurd ⟨around.tree, rfl⟩ h
  | some path =>
      rw [writeReport]
      split
      next error _ => exact ⟨_, outcome.tree, rfl⟩
      next written tree hwritten =>
        split
        next error _ => exact ⟨_, tree, rfl⟩
        next size hsize => exact absurd ⟨tree, written, size, hwritten, hsize⟩ h

/-- There is only one way to write a text. -/
theorem Stores.unique {other : FileTree} (h : around.Stores output text tree)
    (hother : around.Stores output text other) : tree = other := by
  cases output with
  | none => exact h.trans hother.symm
  | some path =>
      obtain ⟨_, _, hwritten, -⟩ := h
      obtain ⟨_, _, hwritten', -⟩ := hother
      exact (Prod.mk.inj (Except.ok.inj (hwritten.symm.trans hwritten'))).2

/-- What was written to a file is its whole content, and is read back. -/
theorem Stores.readText {path : String} (h : around.Stores (some path) text tree) :
    tree.entry path = .ok (.file text.toUTF8) ∧ tree.readText path = .ok text := by
  obtain ⟨written, size, hwritten, hsize⟩ := h
  exact FileTree.readText_writeText hwritten hsize

/-! ## The command -/

/-- A command ran a workflow once and reported on it: the calls of the run are all its calls, it
showed the report, as a text for readers or as JSON, and wrote it to a file if one was named. It
succeeds when all steps did and the report was written where it was to be; when only steps did not,
it says how many. -/
structure Reports (around : Surroundings σ) (workflow : Workflow) (session : Session Binding σ)
    (output : Option String) (asJson : Bool) (report : WorkflowReport)
    (outcome : CommandOutcome σ) : Prop where
  ran : ∃ heard after, workflow.run around.responder around.stamp (.listening []) session =
    (.ok report, heard, after) ∧ outcome.calls = after.calls ∧ outcome.world = after.world
  shown : outcome.output = reportText asJson report ++ "\n"
  legible : asJson = false → report.ShownAs (reportText asJson report)
  readBack : asJson = true → ∃ value,
    Json.readWritten (reportText asJson report).toList = .ok value ∧
    WorkflowReport.decode value = .ok report ∧ WorkflowReport.decode value.normalize = .ok report
  stored : ∀ after, around.Stores output (reportText asJson report) after →
    outcome.tree = after ∧ ∀ path, output = some path →
      after.entry path = .ok (.file (reportText asJson report).toUTF8) ∧
      after.readText path = .ok (reportText asJson report)
  succeeds : outcome.error = none ↔
    (∀ record ∈ report.steps, record.outcome.isSuccess = true) ∧
      ∃ after, around.Stores output (reportText asJson report) after
  unsuccessful : (¬ ∀ record ∈ report.steps, record.outcome.isSuccess = true) →
    (∃ after, around.Stores output (reportText asJson report) after) →
    outcome.error = some (.unsuccessful (report.failed + report.skipped) report.steps.length) ∧
    outcome.error.map CommandError.message =
      some (toString (report.failed + report.skipped) ++ " of " ++ toString report.steps.length ++
        " steps did not succeed")

/-- A command that does nothing but fail. -/
structure Refuses (around : Surroundings σ) (outcome : CommandOutcome σ) : Prop where
  calls : outcome.calls = []
  world : outcome.world = around.world
  tree : outcome.tree = around.tree
  output : outcome.output = ""
  fails : outcome.error ≠ none

/-- A report in JSON is read back. -/
theorem readBack_reportText (report : WorkflowReport) :
    ∃ value, Json.readWritten (reportText true report).toList = .ok value ∧
      WorkflowReport.decode value = .ok report ∧
      WorkflowReport.decode value.normalize = .ok report := by
  refine ⟨report.encode, ?_, report.decode_encode,
    WorkflowReport.steady_decode report.decode_encode⟩
  rw [reportText, if_pos rfl, Json.indented, String.toList_ofList]
  exact (Json.writes_indentedChars report.isPlain_encode (by decide)).readWritten_eq

/-- A report in words is shown by its text. -/
theorem shownAs_reportText (report : WorkflowReport) :
    report.ShownAs (reportText false report) :=
  report.shownAs_workflowReport

/-- The error for a report says that some step did not succeed. -/
theorem reportError?_eq (report : WorkflowReport) :
    reportError? report =
      if ∀ record ∈ report.steps, record.outcome.isSuccess = true then none
      else some (.unsuccessful (report.failed + report.skipped) report.steps.length) := by
  simp only [reportError?, WorkflowReport.isSuccess, List.all_eq_true]

/-- What came of a workflow is reported on when the report is written to the file, if one is
named. -/
theorem reports_writeReport {workflow : Workflow} {asJson : Bool} {report : WorkflowReport}
    {heard : Listener} {after : Session Binding σ}
    (hran : workflow.run around.responder around.stamp (.listening []) session =
      (.ok report, heard, after))
    (progress : List String) :
    around.Reports workflow session output asJson report
      (around.writeReport output (reportText asJson report)
        { around.worked after (reportText asJson report ++ "\n") (reportError? report) with
          progress := progress }) := by
  have hread : asJson = true → ∃ value,
      Json.readWritten (reportText asJson report).toList = .ok value ∧
      WorkflowReport.decode value = .ok report ∧
      WorkflowReport.decode value.normalize = .ok report := by
    rintro rfl
    exact readBack_reportText report
  have hlegible : asJson = false → report.ShownAs (reportText asJson report) := by
    rintro rfl
    exact shownAs_reportText report
  by_cases hstores : ∃ tree, around.Stores output (reportText asJson report) tree
  · obtain ⟨tree, htree⟩ := hstores
    obtain ⟨lines, hwritten⟩ := writeReport_of_stores
      { around.worked after (reportText asJson report ++ "\n") (reportError? report) with
        progress := progress } htree rfl
    rw [hwritten]
    refine ⟨⟨heard, after, hran, rfl, rfl⟩, rfl, hlegible, hread, fun found hfound => ?_, ?_,
      fun hsome _ => ?_⟩
    · refine ⟨htree.unique hfound, ?_⟩
      rintro path rfl
      exact hfound.readText
    · show reportError? report = none ↔ _
      rw [reportError?_eq, and_iff_left ⟨tree, htree⟩]
      split
      next hall => exact iff_of_true rfl hall
      next hsome => exact iff_of_false (Option.some_ne_none _) hsome
    · have herror : reportError? report =
          some (.unsuccessful (report.failed + report.skipped) report.steps.length) := by
        rw [reportError?_eq, if_neg hsome]
      exact ⟨herror, congrArg (Option.map CommandError.message) herror⟩
  · obtain ⟨error, tree, hfailed⟩ := writeReport_of_not_stores
      { around.worked after (reportText asJson report ++ "\n") (reportError? report) with
        progress := progress } hstores
    rw [hfailed]
    exact ⟨⟨heard, after, hran, rfl, rfl⟩, rfl, hlegible, hread,
      fun found hfound => absurd ⟨found, hfound⟩ hstores,
      iff_of_false (Option.some_ne_none _) fun h => hstores h.2,
      fun _ hsome => absurd hsome hstores⟩

/-- A workflow that runs is reported on. -/
theorem reports_run {name : String} {workflow : Workflow} (failFast asJson : Bool)
    (hfound : project.workflow? name = some workflow) (hdistinct : workflow.stepNames.Nodup) :
    ∃ report, around.Reports { workflow with failFast := workflow.failFast || failFast } session
      output asJson report (around.run project session name failFast output asJson) := by
  have hsame : (workflow.withFailFast (workflow.failFast || failFast)).stepNames.Nodup := hdistinct
  have hran := Workflow.run_of_nodup around.responder hsame around.stamp (.listening []) session
  simp only [run, hfound, hran]
  exact ⟨_, reports_writeReport hran _⟩

/-- A workflow that is not there, or that declares a step twice, is refused. -/
theorem refuses_run {name : String} (failFast asJson : Bool) (hcalls : session.calls = [])
    (hworld : session.world = around.world)
    (h : ∀ workflow, project.workflow? name = some workflow → ¬ workflow.stepNames.Nodup) :
    around.Refuses (around.run project session name failFast output asJson) := by
  cases hfound : project.workflow? name with
  | none =>
      simp only [run, hfound]
      exact ⟨hcalls, hworld, rfl, rfl, Option.some_ne_none _⟩
  | some workflow =>
      have hsame : ¬ (workflow.withFailFast (workflow.failFast || failFast)).stepNames.Nodup :=
        h workflow hfound
      obtain ⟨repeated, hrefused⟩ := Workflow.run_of_not_nodup around.responder hsame
      simp only [run, hfound, hrefused]
      exact ⟨hcalls, hworld, rfl, rfl, Option.some_ne_none _⟩

/-- The command says which workflow is not there. -/
theorem message_run_of_missing {name : String} (failFast asJson : Bool)
    (h : project.workflow? name = none) :
    (around.run project session name failFast output asJson).error.map CommandError.message =
      some ("workflow '" ++ name ++ "' not found in .maki/workflows") := by
  simp only [run, h]
  rfl

/-- A workflow of a project is run from the command line. When it is found and declares no step
twice, it runs exactly once, and stops at the first failure just when its file or the command says
so; the report is shown, and written over the named file, of which it is then the whole content; for
readers it lists every step with what came of it, and as JSON it is read back; and the command
succeeds just when all steps did and the report was written where it was to be, and otherwise says
how many did not. Without such a workflow the command fails, and that is all it does. -/
theorem carryOut_run_reports (around : Surroundings σ) (root : String) (project : Project)
    (session : Session Binding σ) (hopen : around.open? root = .ok (project, session))
    (name : String) (failFast : Bool) (output : Option String) (asJson : Bool) :
    (∀ workflow, project.workflow? name = some workflow → workflow.stepNames.Nodup →
      ∃ report, around.Reports { workflow with failFast := workflow.failFast || failFast } session
        output asJson report (around.carryOut ⟨root, .run name failFast output asJson⟩)) ∧
    ((∀ workflow, project.workflow? name = some workflow → ¬ workflow.stepNames.Nodup) →
      around.Refuses (around.carryOut ⟨root, .run name failFast output asJson⟩)) ∧
    (project.workflow? name = none →
      (around.carryOut ⟨root, .run name failFast output asJson⟩).error.map CommandError.message =
        some ("workflow '" ++ name ++ "' not found in .maki/workflows")) ∧
    session.calls = [] := by
  have hcarried : around.carryOut ⟨root, .run name failFast output asJson⟩ =
      around.run project session name failFast output asJson := by
    show around.work root (fun project session =>
      around.run project session name failFast output asJson) = _
    rw [work, hopen]
  obtain ⟨hcalls, hworld⟩ := open?_silent hopen
  rw [hcarried]
  exact ⟨fun workflow hfound hdistinct => reports_run failFast asJson hfound hdistinct,
    refuses_run failFast asJson hcalls hworld, message_run_of_missing failFast asJson, hcalls⟩

/-- A project with one agent and a workflow that also asks for another one. Its server answers every
prompt alike, and the report has been written before. -/
def online : Surroundings Nat where
  tree := ⟨.ofList [(".maki", .directory), (".maki/agents", .directory),
    (".maki/agents/helper.md", .file "---\nname: x\n---\n".toUTF8), (".maki/workflows", .directory),
    (".maki/workflows/wf.yaml", .file ("steps:\n- \x7bname: a, agent: x, task: t\x7d\n" ++
      "- \x7bname: b, agent: ghost, task: t\x7d\n- \x7bname: c, agent: x, task: t\x7d\n").toUTF8),
    ("report.md", .file "nothing yet".toUTF8)]⟩
  transport := fun _ count => (.answer 200 "\x7b\"response\":\"done\\n\"\x7d".toUTF8, count + 1)
  world := 0
  stamp := ⟨default, default, default⟩
  styled := false

/-- The report of its workflow when it stops at the first failure. -/
def stoppedReport : WorkflowReport :=
  ⟨default, "wf", default, default, [⟨"a", "x", .success "done\n"⟩,
    ⟨"b", "ghost", .failed ⟨.agentNotFound, "Agent 'ghost' not found in registry"⟩⟩,
    ⟨"c", "x", .skipped⟩]⟩

/-- The text of this report. -/
def stoppedText : String :=
  "## a (x)\ndone\n\n## b (ghost)\n[agent not found] Agent 'ghost' not found in registry\n\n" ++
    "## c (x)\n(skipped)\n\nwf: 1 succeeded, 1 failed, 1 skipped"

theorem run_online :
    ∃ project session workflow heard after, online.open? "" = .ok (project, session) ∧
      project.workflow? "wf" = some workflow ∧ workflow.stepNames.Nodup ∧
      { workflow with failFast := workflow.failFast || true }.run online.responder online.stamp
        (.listening []) session = (.ok stoppedReport, heard, after) ∧ after.calls.length = 1 := by
  have hran : ((online.open? "").toOption.bind fun opened =>
      (opened.1.workflow? "wf").map fun workflow =>
        let ran := { workflow with failFast := workflow.failFast || true }.run online.responder
          online.stamp (.listening []) opened.2
        (decide workflow.stepNames.Nodup, ran.1.toOption, ran.2.2.calls.length)) =
      some (true, some stoppedReport, 1) := by
    decide +kernel
  obtain ⟨⟨project, session⟩, hopen, hmade⟩ := Option.bind_eq_some_iff.1 hran
  obtain ⟨workflow, hfound, hended⟩ := Option.map_eq_some_iff.1 hmade
  obtain ⟨hdistinct, hrest⟩ := Prod.mk.inj hended
  obtain ⟨hreport, hcalls⟩ := Prod.mk.inj hrest
  exact ⟨project, session, workflow, _, _, eq_ok_of_toOption hopen, hfound,
    of_decide_eq_true hdistinct, Prod.ext (eq_ok_of_toOption hreport) rfl, hcalls⟩

theorem stores_stoppedReport :
    ∃ tree, online.Stores (some "report.md") (reportText false stoppedReport) tree := by
  have hdone : ((online.tree.writeText "report.md" (reportText false stoppedReport) .overwrite
      true).toOption.bind fun done => done.1.result.toOption).isSome = true := by decide +kernel
  obtain ⟨size, hsize⟩ := Option.isSome_iff_exists.1 hdone
  obtain ⟨⟨written, tree⟩, hwritten, hresult⟩ := Option.bind_eq_some_iff.1 hsize
  exact ⟨tree, written, size, eq_ok_of_toOption hwritten, eq_ok_of_toOption hresult⟩

/-- Of three steps the second fails and the third is skipped. The report on them is shown and takes
the place of what the file held, and the command fails although the file is written. -/
theorem carryOut_run_reports_stopped :
    ∃ project session workflow, online.open? "" = .ok (project, session) ∧
      project.workflow? "wf" = some workflow ∧ workflow.stepNames.Nodup ∧
      online.tree.readText "report.md" = .ok "nothing yet" ∧
      let outcome := online.carryOut ⟨"", .run "wf" true (some "report.md") false⟩
      outcome.output = stoppedText ++ "\n" ∧ outcome.tree.readText "report.md" = .ok stoppedText ∧
        outcome.error.map CommandError.message = some "2 of 3 steps did not succeed" ∧
        outcome.calls.length = 1 := by
  obtain ⟨project, session, workflow, heard, after, hopen, hfound, hdistinct, hstopped, hcalls⟩ :=
    run_online
  obtain ⟨hruns, -⟩ := carryOut_run_reports online "" project session hopen "wf" true
    (some "report.md") false
  obtain ⟨report, hreports⟩ := hruns workflow hfound hdistinct
  obtain ⟨told, last, hran, hmade, -⟩ := hreports.ran
  obtain ⟨hreport, hrest⟩ := Prod.mk.inj (hstopped.symm.trans hran)
  obtain rfl := Except.ok.inj hreport
  obtain ⟨-, rfl⟩ := Prod.mk.inj hrest
  have htext : reportText false stoppedReport = stoppedText := by decide +kernel
  have hbefore : (online.tree.readText "report.md").toOption = some "nothing yet" := by
    decide +kernel
  obtain ⟨tree, hstored⟩ := stores_stoppedReport
  obtain ⟨htree, hfile⟩ := hreports.stored tree hstored
  have hsome : ¬ ∀ record ∈ stoppedReport.steps, record.outcome.isSuccess = true := by decide
  have hmessage := (hreports.unsuccessful hsome ⟨tree, hstored⟩).2
  refine ⟨project, session, workflow, hopen, hfound, hdistinct, eq_ok_of_toOption hbefore, ?_, ?_,
    hmessage, hmade ▸ hcalls⟩
  · exact hreports.shown.trans (congrArg (· ++ "\n") htext)
  · exact (congrArg (·.readText "report.md") htree).trans
      ((hfile _ rfl).2.trans (congrArg Except.ok htext))

end Surroundings

end Ensemble
