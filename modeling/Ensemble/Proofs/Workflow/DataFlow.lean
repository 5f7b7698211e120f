/-
# How results flow through a workflow

A run of a workflow with distinct step names is accounted for step by step. What is known to a
step are the results of the successful steps before it, under their names and nothing else; the
context that the step declares is laid on top, and the agent's prompt is composed with that. So
the prompt shows every earlier result, word for word, that the step does not hide under a name of
its own.
-/

import Mathlib.Data.List.Nodup
import Ensemble.Proofs.Agent.Prompt
import Ensemble.Proofs.Workflow.Account

namespace Ensemble

variable {ε σ : Type}

namespace Workflow

/-! ## The names of the steps -/

/-- A search for a repeated name finds none exactly when the names are distinct and new. -/
theorem firstRepeated?_eq_none_iff {seen names : List String} :
    firstRepeated? seen names = none ↔ names.Nodup ∧ ∀ name ∈ names, name ∉ seen := by
  induction names generalizing seen with
  | nil => simp [firstRepeated?]
  | cons name rest ih =>
      simp only [firstRepeated?, List.nodup_cons, List.forall_mem_cons]
      split
      next hseen => simp [hseen]
      next hnew =>
        rw [ih]
        constructor
        · rintro ⟨hrest, hfresh⟩
          refine ⟨⟨fun hmem => hfresh name hmem List.mem_cons_self, hrest⟩, hnew, ?_⟩
          exact fun other hother hmem => hfresh other hother (List.mem_cons_of_mem _ hmem)
        · rintro ⟨⟨hname, hrest⟩, -, hfresh⟩
          refine ⟨hrest, fun other hother hmem => ?_⟩
          rcases List.mem_cons.1 hmem with rfl | hmem
          · exact hname hother
          · exact hfresh other hother hmem

/-- What the steps of a workflow lead to once it is accepted. -/
def progress (responder : Responder ε σ) (workflow : Workflow) (stamp : RunStamp)
    (listener : Listener) (session : Session ε σ) : Progress ε σ :=
  runSteps responder workflow.failFast stamp.runId 0 workflow.steps ∅
    (listener.tell (.workflowStarted stamp.runId workflow.name workflow.steps.length)) session

/-- The report of a run with some records. -/
def reportOf (workflow : Workflow) (stamp : RunStamp) (records : List StepRecord) :
    WorkflowReport :=
  ⟨stamp.runId, workflow.name, stamp.startedAt, stamp.finishedAt, records⟩

/-- A workflow with distinct step names is accepted, and its report has the records that its steps
lead to. -/
theorem run_of_nodup (responder : Responder ε σ) {workflow : Workflow}
    (hdistinct : workflow.stepNames.Nodup) (stamp : RunStamp) (listener : Listener)
    (session : Session ε σ) :
    workflow.run responder stamp listener session =
      let progress := workflow.progress responder stamp listener session
      let report := workflow.reportOf stamp progress.records
      (.ok report, progress.listener.tell
        (.workflowCompleted stamp.runId report.succeeded report.failed report.skipped),
        progress.session) := by
  have hnone : firstRepeated? [] workflow.stepNames = none :=
    firstRepeated?_eq_none_iff.2 ⟨hdistinct, fun _ _ => List.not_mem_nil⟩
  simp only [run, hnone]
  rfl

theorem getElem?_namesFrom (index : Nat) (steps : List WorkflowStep) (position : Nat) :
    (namesFrom index steps)[position]? =
      steps[position]?.map fun step => step.resolvedName (index + position) := by
  induction steps generalizing index position with
  | nil => rfl
  | cons step rest ih =>
      cases position with
      | zero => simp [namesFrom]
      | succ position =>
          simp only [namesFrom, List.getElem?_cons_succ]
          rw [ih, Nat.add_right_comm, Nat.add_assoc]

/-- Steps that are accounted for are recorded under their names, in order. -/
theorem StepsAccount.names {registry : Registry ε} {failFast : Bool} {index : Nat}
    {steps : List WorkflowStep} {known : Context} {records : List StepRecord}
    {made : List (List (Exchange ε))}
    (h : StepsAccount registry failFast index steps known records made) :
    records.map StepRecord.name = namesFrom index steps := by
  apply List.ext_getElem?
  intro position
  rw [getElem?_namesFrom]
  exact h.getElem?_map (fun name _ => name) position

/-! ## What is known after some records -/

theorem get?_learn_of_ne {name key : String} (hne : name ≠ key) (known : Context)
    (outcome : StepOutcome) : (learn known name outcome).get? key = known.get? key := by
  cases outcome with
  | success value => rw [learn, Dictionary.get?_insert, if_neg hne]
  | failed error => rfl
  | skipped => rfl

/-- Records of other names leave alone what is known under a name. -/
theorem get?_knownAfter_of_forall_ne {records : List StepRecord} {key : String}
    (hne : ∀ record ∈ records, record.name ≠ key) (known : Context) :
    (knownAfter known records).get? key = known.get? key := by
  induction records generalizing known with
  | nil => rfl
  | cons head rest ih =>
      obtain ⟨hhead, hrest⟩ := List.forall_mem_cons.1 hne
      rw [knownAfter_cons, ih hrest, get?_learn_of_ne hhead]

/-- The result of a success is known under its name. -/
theorem get?_knownAfter_of_success {records : List StepRecord} {record : StepRecord}
    {value : String} (hdistinct : (records.map StepRecord.name).Nodup) (hmem : record ∈ records)
    (hsuccess : record.outcome = .success value) (known : Context) :
    (knownAfter known records).get? record.name = some (.text value) := by
  induction records generalizing known with
  | nil => simp at hmem
  | cons head rest ih =>
      rw [List.map_cons, List.nodup_cons] at hdistinct
      rw [knownAfter_cons]
      rcases List.mem_cons.1 hmem with rfl | hmem
      · rw [get?_knownAfter_of_forall_ne, hsuccess, learn, Dictionary.get?_insert, if_pos rfl]
        exact fun other hother heq => hdistinct.1 (heq ▸ List.mem_map_of_mem hother)
      · exact ih hdistinct.2 hmem _

/-- What is known was known before or is the result of a success. -/
theorem exists_of_get?_knownAfter {records : List StepRecord} {known : Context} {key : String}
    {datum : Datum} (h : (knownAfter known records).get? key = some datum) :
    known.get? key = some datum ∨ ∃ record ∈ records, ∃ value, record.name = key ∧
      record.outcome = .success value ∧ datum = .text value := by
  induction records generalizing known with
  | nil => exact Or.inl h
  | cons head rest ih =>
      rw [knownAfter_cons] at h
      rcases ih h with hhead | ⟨record, hmem, hrecord⟩
      · cases houtcome : head.outcome with
        | success value =>
            rw [houtcome, learn, Dictionary.get?_insert] at hhead
            split at hhead
            next heq =>
              exact Or.inr ⟨head, List.mem_cons_self, value, heq, houtcome,
                (Option.some.inj hhead).symm⟩
            next => exact Or.inl hhead
        | failed error => exact Or.inl (by rwa [houtcome] at hhead)
        | skipped => exact Or.inl (by rwa [houtcome] at hhead)
      · exact Or.inr ⟨record, List.mem_cons_of_mem _ hmem, hrecord⟩

/-- What is known after records with distinct names are exactly the results of the successes
among them. -/
theorem get?_knownAfter_eq_some_iff {records : List StepRecord}
    (hdistinct : (records.map StepRecord.name).Nodup) {key : String} {datum : Datum} :
    (knownAfter ∅ records).get? key = some datum ↔ ∃ record ∈ records, ∃ value,
      record.name = key ∧ record.outcome = .success value ∧ datum = .text value := by
  constructor
  · intro h
    exact (exists_of_get?_knownAfter h).resolve_left (by
      rw [show (∅ : Context) = Dictionary.empty from rfl, Dictionary.get?_empty]
      simp)
  · rintro ⟨record, hmem, value, rfl, hsuccess, rfl⟩
    exact get?_knownAfter_of_success hdistinct hmem hsuccess ∅

/-- A step that did not succeed teaches nothing. -/
theorem get?_knownAfter_of_not_success {records : List StepRecord} {record : StepRecord}
    (hdistinct : (records.map StepRecord.name).Nodup) (hmem : record ∈ records)
    (hnot : record.outcome.isSuccess = false) :
    (knownAfter ∅ records).get? record.name = none := by
  rw [Option.eq_none_iff_forall_ne_some]
  intro datum hdatum
  obtain ⟨other, hother, value, hname, hsuccess, -⟩ :=
    (get?_knownAfter_eq_some_iff hdistinct).1 hdatum
  have hsame : other = record :=
    List.inj_on_of_nodup_map hdistinct hother hmem hname
  rw [← hsame, hsuccess] at hnot
  exact Bool.noConfusion hnot

/-! ## The flow of data -/

/-- The prompt that an agent gets for a step to which some results are known. -/
def promptOf (agent : Agent ε) (step : WorkflowStep) (results : Context) : String :=
  Prompt.compose agent.name agent.role agent.instructions (some (results.overlay step.context))
    step.task

/-- How the step at a position fits into a run. The results of the successful steps before it,
and nothing else, are what its agent sees under the context that the step declares. -/
structure StepFlow (registry : Registry ε) (failFast : Bool) (earlier : List StepRecord)
    (position : Nat) (step : WorkflowStep) (results : Context) (record : StepRecord)
    (exchanges : List (Exchange ε)) : Prop where
  name : record.name = step.resolvedName position
  agent : record.agent = step.agent
  results_iff : ∀ key datum, results.get? key = some datum ↔ ∃ other ∈ earlier, ∃ value,
    other.name = key ∧ other.outcome = .success value ∧ datum = .text value
  silent : ∀ other ∈ earlier, other.outcome.isSuccess = false → results.get? other.name = none
  unreached : ¬ Reached failFast earlier → record.outcome = .skipped ∧ exchanges = []
  missing : Reached failFast earlier → registry.find? step.agent = none →
    record.outcome = .failed ⟨.agentNotFound,
      (OrchestrationError.agentNotFound step.agent).message⟩ ∧ exchanges = []
  called : Reached failFast earlier → ∀ agent, registry.find? step.agent = some agent →
    ∃ answer, record.outcome = .ofAnswer agent.name answer ∧
      exchanges = [⟨agent.name, .task, step.task,
        ⟨agent.endpoint, promptOf agent step results, none, answer⟩⟩]
  reads : ∀ other ∈ earlier, ∀ value, other.outcome = .success value →
    step.context.bind (·.get? other.name) = none → ∀ exchange ∈ exchanges,
      ("- " ++ other.name ++ ": " ++ value).toList <:+: exchange.call.prompt.toList
  ends : ∀ exchange ∈ exchanges,
    ("Task: " ++ step.task).toList <:+ exchange.call.prompt.toList

/-- A prompt shows the result of every earlier success that the step does not hide. -/
theorem infix_promptOf {results : Context} {step : WorkflowStep} {key value : String}
    (hresult : results.get? key = some (.text value))
    (hopen : step.context.bind (·.get? key) = none) (agent : Agent ε) :
    ("- " ++ key ++ ": " ++ value).toList <:+: (promptOf agent step results).toList := by
  have hlooked : (results.overlay step.context).get? key = some (.text value) := by
    rw [Context.get?_overlay, hopen, Option.none_or, hresult]
  rw [← Prompt.contextLine_text]
  exact Prompt.infix_compose _ _ _ _ hlooked

/-- Every exchange that a step takes sends the prompt for what is known to it. -/
theorem StepTakes.prompt {registry : Registry ε} {step : WorkflowStep} {known : Context}
    {outcome : StepOutcome} {exchanges : List (Exchange ε)}
    (h : StepTakes registry step known outcome exchanges) {exchange : Exchange ε}
    (hmem : exchange ∈ exchanges) :
    ∃ agent : Agent ε, exchange.call.prompt = promptOf agent step known := by
  cases h with
  | missing absent => simp at hmem
  | @called agent found answer =>
      rw [List.mem_singleton.1 hmem]
      exact ⟨agent, rfl⟩

/-- An account of a step tells how it fits into the run. -/
theorem StepAccount.flow {registry : Registry ε} {failFast : Bool} {position : Nat}
    {step : WorkflowStep} {earlier : List StepRecord} {record : StepRecord}
    {exchanges : List (Exchange ε)}
    (h : StepAccount registry failFast position step ∅ earlier record exchanges)
    (hdistinct : (earlier.map StepRecord.name).Nodup) :
    StepFlow registry failFast earlier position step (knownAfter ∅ earlier) record
      exchanges := by
  -- An exchange shows that the step was reached, so it sends the prompt for what is known.
  have hprompt : ∀ exchange ∈ exchanges,
      ∃ agent : Agent ε, exchange.call.prompt = promptOf agent step (knownAfter ∅ earlier) := by
    intro exchange hmem
    by_cases hreached : Reached failFast earlier
    · exact (h.taken hreached).prompt hmem
    · rw [(h.skipped hreached).2] at hmem
      simp at hmem
  refine ⟨h.name, h.agent, fun key datum => get?_knownAfter_eq_some_iff hdistinct, ?_, h.skipped,
    ?_, ?_, ?_, ?_⟩
  · intro other hother hnot
    exact get?_knownAfter_of_not_success hdistinct hother hnot
  · intro hreached habsent
    obtain ⟨outcome, houtcome⟩ : ∃ outcome, record.outcome = outcome := ⟨_, rfl⟩
    have htaken := h.taken hreached
    rw [houtcome] at htaken ⊢
    cases htaken with
    | missing _ => exact ⟨rfl, rfl⟩
    | called found _ => rw [habsent] at found; simp at found
  · intro hreached agent hagent
    obtain ⟨outcome, houtcome⟩ : ∃ outcome, record.outcome = outcome := ⟨_, rfl⟩
    have htaken := h.taken hreached
    rw [houtcome] at htaken ⊢
    cases htaken with
    | missing absent => rw [hagent] at absent; simp at absent
    | called found answer =>
        rw [hagent, Option.some.injEq] at found
        subst found
        exact ⟨answer, rfl, rfl⟩
  · intro other hother value hsuccess hopen exchange hmem
    obtain ⟨agent, heq⟩ := hprompt exchange hmem
    rw [heq]
    exact infix_promptOf (get?_knownAfter_of_success hdistinct hother hsuccess ∅) hopen agent
  · intro exchange hmem
    obtain ⟨agent, heq⟩ := hprompt exchange hmem
    rw [heq]
    exact Prompt.suffix_compose _ _ _ _ _

/-- A workflow with distinct step names runs to a report with one record for each step, and every
step is called, missed or skipped with exactly the results of the successes before it. -/
theorem run_dataFlow (responder : Responder ε σ) {workflow : Workflow}
    (hdistinct : workflow.stepNames.Nodup) (stamp : RunStamp) (listener : Listener)
    (session : Session ε σ) :
    ∃ report heard after, ∃ made : List (List (Exchange ε)),
      workflow.run responder stamp listener session = (.ok report, heard, after) ∧
      session.Conducts responder made.flatten after ∧
      report.steps.length = workflow.steps.length ∧ made.length = workflow.steps.length ∧
      ∀ position step, workflow.steps[position]? = some step →
        ∃ record exchanges results, report.steps[position]? = some record ∧
          made[position]? = some exchanges ∧
          StepFlow session.registry workflow.failFast (report.steps.take position) position step
            results record exchanges := by
  rw [run_of_nodup responder hdistinct]
  obtain ⟨made, hconducts, haccount⟩ := runSteps_account responder workflow.failFast stamp.runId
    0 workflow.steps ∅
    (listener.tell (.workflowStarted stamp.runId workflow.name workflow.steps.length)) session
  refine ⟨_, _, _, made, rfl, hconducts, haccount.length_records, haccount.length_made, ?_⟩
  intro position step hstep
  obtain ⟨hlt, -⟩ := List.getElem?_eq_some_iff.1 hstep
  have hrecord := List.getElem?_eq_getElem (haccount.length_records.symm ▸ hlt)
  have hmade := List.getElem?_eq_getElem (haccount.length_made.symm ▸ hlt)
  have hstepAccount := haccount.account position _ _ _ hstep hrecord hmade
  rw [Nat.zero_add] at hstepAccount
  refine ⟨_, _, _, hrecord, hmade, hstepAccount.flow ?_⟩
  rw [List.map_take, haccount.names]
  exact hdistinct.sublist (List.take_sublist _ _)

/-- Two steps for one agent with a step between them whose agent is not registered. -/
def interrupted : Workflow :=
  .new "interrupted" [⟨" draft ", "writer", "Write", none⟩, ⟨"", "nobody", "Look", none⟩,
    ⟨"final", "writer", "Finish", none⟩]

theorem run_dataFlow_interrupted :
    interrupted.stepNames.Nodup ∧ ∃ report heard after record,
      interrupted.run (fun _ _ _ _ => (.ok "done", ())) ⟨default, default, default⟩ .absent
        ((Session.start () ()).addAgent "writer" "" "" none).2 = (.ok report, heard, after) ∧
      report.steps.length = 3 ∧ report.steps[1]? = some record ∧ record.name = "step_1" ∧
      record.outcome = .failed ⟨.agentNotFound, "Agent 'nobody' not found in registry"⟩ := by
  have hdistinct : interrupted.stepNames.Nodup := by decide
  obtain ⟨report, heard, after, made, hrun, -, hlength, -, hflow⟩ :=
    run_dataFlow (fun _ _ _ _ => (.ok "done", ())) hdistinct ⟨default, default, default⟩ .absent
      ((Session.start () ()).addAgent "writer" "" "" none).2
  obtain ⟨record, exchanges, results, hrecord, -, hstep⟩ := hflow 1 _ rfl
  have hreached : Reached interrupted.failFast (report.steps.take 1) :=
    fun hfast => Bool.noConfusion hfast
  exact ⟨hdistinct, report, heard, after, record, hrun, hlength, hrecord, hstep.name,
    (hstep.missing hreached rfl).1⟩

end Workflow

end Ensemble
