/-
# Failures leave no trace

A workflow that goes on after failures is a function of its steps and of the registered agents when
endpoints answer by the prompt alone: `foreseen` says what its steps come to without running them.
A step that fails teaches the steps behind it nothing, and no agent notes it. So failed steps may be
taken out of the workflow, some of them or all, and every other step is recorded as before and sends
the prompt that it sent before.
-/

import Ensemble.Proofs.Workflow.DataFlow

namespace Ensemble

variable {ε σ : Type}

/-! ## Positions that are kept -/

/-- The items of a list at the positions that are kept. -/
def kept {α : Type} : (Nat → Bool) → List α → List α
  | _, [] => []
  | keep, item :: rest =>
    if keep 0 then item :: kept (fun position => keep (position + 1)) rest
    else kept (fun position => keep (position + 1)) rest

theorem kept_map {α β : Type} (f : α → β) (keep : Nat → Bool) (items : List α) :
    kept keep (items.map f) = (kept keep items).map f := by
  induction items generalizing keep with
  | nil => rfl
  | cons item rest ih =>
      rw [List.map_cons, kept, kept, ih]
      split <;> rfl

theorem kept_sublist {α : Type} (keep : Nat → Bool) (items : List α) :
    (kept keep items).Sublist items := by
  induction items generalizing keep with
  | nil => exact List.Sublist.refl []
  | cons item rest ih =>
      rw [kept]
      split
      · exact (ih _).cons_cons item
      · exact (ih _).cons item

/-! ## Answers that depend on the prompt alone -/

/-- When endpoints answer by the prompt alone, every call has the answer to its prompt. -/
theorem Answered.answer_eq {responder : Responder ε σ}
    {answer : ε → String → Option (List UInt8) → Except EndpointError String}
    (hanswers : responder.Answers answer) {world last : σ} {calls : List (Call ε)}
    (h : Answered responder world calls last) :
    ∀ call ∈ calls, call.answer = answer call.endpoint call.prompt call.image := by
  induction h with
  | done world => simp
  | @call world middle last call rest reply later ih =>
      refine List.forall_mem_cons.2 ⟨?_, ih⟩
      rw [← hanswers call.endpoint call.prompt call.image world, reply]

namespace Workflow

section Foreseen

variable (answer : ε → String → Option (List UInt8) → Except EndpointError String)
  (registry : Registry ε)

/-- What a step comes to, and the exchanges that it takes, when endpoints answer by the prompt
alone. -/
def foreseenStep (known : Context) (step : WorkflowStep) : StepOutcome × List (Exchange ε) :=
  match registry.find? step.agent with
  | none => (.failed (OrchestrationError.agentNotFound step.agent).toStepError, [])
  | some agent =>
    let reply := answer agent.endpoint (promptOf agent step known) none
    (.ofAnswer agent.name reply,
      [.ofTask agent step.task (some (known.overlay step.context)) reply])

/-- The records of the steps from a position on, each with the exchanges of its step, when
endpoints answer by the prompt alone and no failure stops the run. -/
def foreseen : Nat → List WorkflowStep → Context → List (StepRecord × List (Exchange ε))
  | _, [], _ => []
  | index, step :: rest, known =>
    let taken := foreseenStep answer registry known step
    let name := step.resolvedName index
    (⟨name, step.agent, taken.1⟩, taken.2) ::
      foreseen (index + 1) rest (learn known name taken.1)

end Foreseen

variable {responder : Responder ε σ}
  {answer : ε → String → Option (List UInt8) → Except EndpointError String}

/-! ## A run is what is foreseen -/

/-- A step whose exchanges have the answers to their prompts is what is foreseen. -/
theorem StepTakes.eq_foreseenStep {registry : Registry ε} {step : WorkflowStep} {known : Context}
    {outcome : StepOutcome} {exchanges : List (Exchange ε)}
    (h : StepTakes registry step known outcome exchanges)
    (hanswered : ∀ exchange ∈ exchanges, exchange.call.answer =
      answer exchange.call.endpoint exchange.call.prompt exchange.call.image) :
    foreseenStep answer registry known step = (outcome, exchanges) := by
  cases h with
  | missing absent => simp only [foreseenStep, absent]
  | @called agent found reply =>
      have hreply : reply = answer agent.endpoint (promptOf agent step known) none :=
        hanswered _ (List.mem_singleton_self _)
      simp only [foreseenStep, found, ← hreply]

/-- What is foreseen of steps does not depend on what agents noted. -/
theorem foreseen_of_conducts {before after : Session ε σ} {exchanges : List (Exchange ε)}
    (hconducts : before.Conducts responder exchanges after) :
    foreseen answer after.registry = foreseen answer before.registry := by
  have hstep : foreseenStep answer after.registry = foreseenStep answer before.registry := by
    funext known step
    rw [foreseenStep, foreseenStep, hconducts.find?]
    cases before.registry.find? step.agent <;> rfl
  funext index steps known
  induction steps generalizing index known with
  | nil => rfl
  | cons step rest ih => rw [foreseen, foreseen, hstep, ih]

/-- Steps that all run come to what is foreseen of them. -/
theorem runSteps_foreseen (hanswers : responder.Answers answer) (runId : RunId) (index : Nat)
    (steps : List WorkflowStep) (known : Context) (listener : Listener) (session : Session ε σ) :
    let progress := runSteps responder false runId index steps known listener session
    let told := foreseen answer session.registry index steps known
    progress.records = told.map Prod.fst ∧
      session.Conducts responder (told.map Prod.snd).flatten progress.session ∧
      StepsAccount session.registry false index steps known (told.map Prod.fst)
        (told.map Prod.snd) := by
  induction steps generalizing index known listener session with
  | nil => exact ⟨rfl, .refl session, .nil _ _ _ _⟩
  | cons step rest ih =>
      obtain ⟨first, htakes, hconducts⟩ := conducts_runStep responder step known session
      obtain ⟨outcome, after, hran⟩ : ∃ outcome after,
          runStep responder step known session = (outcome, after) := ⟨_, _, rfl⟩
      rw [hran] at htakes hconducts
      have hforeseen : foreseenStep answer session.registry known step = (outcome, first) := by
        apply htakes.eq_foreseenStep
        intro exchange hmem
        exact hconducts.answered.answer_eq hanswers _ (List.mem_map_of_mem hmem)
      have hfirst := StepAccount.first false index htakes
      simp only [runSteps, foreseen, hran, hforeseen, Bool.false_and, Bool.false_eq_true, if_false,
        List.map_cons, List.flatten_cons]
      -- From here on the record stands for itself, so that its name is not computed.
      obtain ⟨head, hhead⟩ : ∃ head : StepRecord,
          head = ⟨step.resolvedName index, step.agent, outcome⟩ := ⟨_, rfl⟩
      have hname : step.resolvedName index = head.name := by rw [hhead]
      have houtcome : outcome = head.outcome := by rw [hhead]
      rw [← hhead] at hfirst ⊢
      rw [hname, houtcome]
      obtain ⟨hrecords, hrest, haccount⟩ := ih (index + 1) (learn known head.name head.outcome)
        ((listener.tell (.stepStarted runId index head.name step.agent)).tell
          (.stepFinished runId index head.name head.outcome)) after
      rw [foreseen_of_conducts hconducts] at hrecords hrest haccount
      exact ⟨congrArg (List.cons head) hrecords, hconducts.trans hrest,
        .cons hconducts hfirst rfl haccount⟩

/-! ## Failed steps taken out -/

theorem resolvedName_of_named {step : WorkflowStep} (h : Text.trim step.name ≠ "")
    (index : Nat) : step.resolvedName index = Text.trim step.name := by
  rw [WorkflowStep.resolvedName]
  exact if_neg (by simpa [String.isEmpty_iff] using h)

theorem namesFrom_of_named {steps : List WorkflowStep}
    (hnamed : ∀ step ∈ steps, Text.trim step.name ≠ "") (index : Nat) :
    namesFrom index steps = steps.map fun step => Text.trim step.name := by
  induction steps generalizing index with
  | nil => rfl
  | cons step rest ih =>
      obtain ⟨hstep, hrest⟩ := List.forall_mem_cons.1 hnamed
      rw [namesFrom, resolvedName_of_named hstep, ih hrest, List.map_cons]

/-- A failure teaches nothing. -/
theorem learn_of_failed (known : Context) (name : String) {outcome : StepOutcome}
    (h : outcome.isFailed = true) : learn known name outcome = known := by
  cases outcome with
  | success value => exact absurd h Bool.false_ne_true
  | failed error => rfl
  | skipped => rfl

/-- Whatever is not kept of some records is the record of a failure. -/
def DropsFailures (keep : Nat → Bool) (records : List StepRecord) : Prop :=
  ∀ (position : Nat) (record : StepRecord), records[position]? = some record →
    keep position = false → record.outcome.isFailed = true

namespace DropsFailures

variable {keep : Nat → Bool} {first : StepRecord} {rest : List StepRecord}

theorem head (h : DropsFailures keep (first :: rest)) (hdropped : ¬ keep 0 = true) :
    first.outcome.isFailed = true :=
  h 0 first rfl (by simpa using hdropped)

theorem tail (h : DropsFailures keep (first :: rest)) :
    DropsFailures (fun position => keep (position + 1)) rest :=
  fun position record hrecord => h (position + 1) record hrecord

end DropsFailures

/-- Of steps with names of their own, what is foreseen of those that are kept is what is foreseen of
them among all, if the others fail. -/
theorem foreseen_kept (registry : Registry ε) {keep : Nat → Bool} {steps : List WorkflowStep}
    (hnamed : ∀ step ∈ steps, Text.trim step.name ≠ "") {index : Nat} {known : Context}
    (hdrops : DropsFailures keep ((foreseen answer registry index steps known).map Prod.fst))
    (index' : Nat) :
    foreseen answer registry index' (kept keep steps) known =
      kept keep (foreseen answer registry index steps known) := by
  induction steps generalizing keep index known index' with
  | nil => rfl
  | cons step rest ih =>
      obtain ⟨hstep, hrest⟩ := List.forall_mem_cons.1 hnamed
      rw [foreseen, List.map_cons] at hdrops
      have hlater := hdrops.tail
      rw [kept, foreseen, kept]
      split
      next =>
        rw [foreseen, resolvedName_of_named hstep index', ← resolvedName_of_named hstep index,
          ih hrest hlater]
      next hdropped =>
        -- The step that is dropped failed, so the others are foreseen with what was known to it.
        simp only [learn_of_failed _ _ (hdrops.head hdropped)] at hlater ⊢
        exact ih hrest hlater index'

/-- No agent notes anything of a step that fails. -/
theorem entriesFor_of_failed (registry : Registry ε) (known : Context) (step : WorkflowStep)
    (h : (foreseenStep answer registry known step).1.isFailed = true) (name : String) :
    Exchange.entriesFor name (foreseenStep answer registry known step).2 = [] := by
  rw [foreseenStep] at h ⊢
  cases hfind : registry.find? step.agent with
  | none => rfl
  | some agent =>
      simp only [hfind] at h ⊢
      cases hreply : answer agent.endpoint (promptOf agent step known) none with
      | ok value => simp [hreply, StepOutcome.ofAnswer, StepOutcome.isFailed] at h
      | error source =>
          simp [Exchange.entriesFor, Exchange.ofTask, Exchange.of, Exchange.note?]

/-- Agents note the same whether or not steps that fail are kept. -/
theorem entriesFor_kept (registry : Registry ε) {keep : Nat → Bool} {steps : List WorkflowStep}
    {index : Nat} {known : Context}
    (hdrops : DropsFailures keep ((foreseen answer registry index steps known).map Prod.fst))
    (name : String) :
    Exchange.entriesFor name
        (kept keep ((foreseen answer registry index steps known).map Prod.snd)).flatten =
      Exchange.entriesFor name
        ((foreseen answer registry index steps known).map Prod.snd).flatten := by
  induction steps generalizing keep index known with
  | nil => rfl
  | cons step rest ih =>
      rw [foreseen, List.map_cons] at hdrops
      rw [foreseen, List.map_cons, kept, List.flatten_cons, Exchange.entriesFor_append,
        ← ih hdrops.tail]
      split
      next => rw [List.flatten_cons, Exchange.entriesFor_append]
      next hdropped =>
        rw [entriesFor_of_failed registry known step (hdrops.head hdropped), List.nil_append]

/-! ## The two runs -/

/-- The workflow with the steps at the positions that are kept. -/
def keeping (keep : Nat → Bool) (workflow : Workflow) : Workflow :=
  { workflow with steps := kept keep workflow.steps }

/-- A workflow that goes on after failures comes to what is foreseen of its steps. -/
theorem run_foreseen (hanswers : responder.Answers answer) {workflow : Workflow}
    (hgoes : workflow.failFast = false) (hdistinct : workflow.stepNames.Nodup) (stamp : RunStamp)
    (listener : Listener) (session : Session ε σ) :
    let told := foreseen answer session.registry 0 workflow.steps ∅
    ∃ heard after,
      workflow.run responder stamp listener session =
        (.ok (workflow.reportOf stamp (told.map Prod.fst)), heard, after) ∧
      session.Conducts responder (told.map Prod.snd).flatten after ∧
      StepsAccount session.registry false 0 workflow.steps ∅ (told.map Prod.fst)
        (told.map Prod.snd) := by
  obtain ⟨hrecords, hconducts, haccount⟩ := runSteps_foreseen hanswers stamp.runId 0
    workflow.steps ∅
    (listener.tell (.workflowStarted stamp.runId workflow.name workflow.steps.length)) session
  have hrun := run_of_nodup responder hdistinct stamp listener session
  rw [progress, hgoes] at hrun
  simp only [hrecords] at hrun
  exact ⟨_, _, hrun, hconducts, haccount⟩

/-- When endpoints answer by the prompt alone, steps that fail can be taken out of a workflow that
goes on after failures: of the other steps, each with a name of its own, the records and the
exchanges stay the same, and all agents are left the same. -/
theorem run_isolates_failures (hanswers : responder.Answers answer) {workflow : Workflow}
    (hgoes : workflow.failFast = false)
    (hnamed : ∀ step ∈ workflow.steps, Text.trim step.name ≠ "")
    (hdistinct : (workflow.steps.map fun step => Text.trim step.name).Nodup) (stamp : RunStamp)
    (listener : Listener) (session : Session ε σ) :
    ∃ report heard after, ∃ made : List (List (Exchange ε)),
      workflow.run responder stamp listener session = (.ok report, heard, after) ∧
      session.Conducts responder made.flatten after ∧
      StepsAccount session.registry false 0 workflow.steps ∅ report.steps made ∧
      ∀ keep, DropsFailures keep report.steps → ∀ stamp' listener', ∃ shorter heard' after',
        (workflow.keeping keep).run responder stamp' listener' session =
          (.ok shorter, heard', after') ∧
        shorter.steps = kept keep report.steps ∧
        session.Conducts responder (kept keep made).flatten after' ∧
        StepsAccount session.registry false 0 (kept keep workflow.steps) ∅ shorter.steps
          (kept keep made) ∧
        after'.registry.agents = after.registry.agents := by
  have hnames : workflow.stepNames.Nodup := by
    rw [stepNames, namesFrom_of_named hnamed]
    exact hdistinct
  obtain ⟨heard, after, hran, hconducts, haccount⟩ :=
    run_foreseen hanswers hgoes hnames stamp listener session
  refine ⟨_, heard, after, _, hran, hconducts, haccount, ?_⟩
  intro keep hdrops stamp' listener'
  have hnamed' : ∀ step ∈ kept keep workflow.steps, Text.trim step.name ≠ "" :=
    fun step hmem => hnamed step ((kept_sublist keep workflow.steps).subset hmem)
  have hnames' : (workflow.keeping keep).stepNames.Nodup := by
    rw [stepNames, keeping, namesFrom_of_named hnamed', ← kept_map]
    exact hdistinct.sublist (kept_sublist keep _)
  have hkept := foreseen_kept session.registry hnamed hdrops 0
  have hgoes' : (workflow.keeping keep).failFast = false := hgoes
  obtain ⟨heard', after', hran', hconducts', haccount'⟩ :=
    run_foreseen hanswers hgoes' hnames' stamp' listener' session
  simp only [keeping, hkept, ← kept_map] at hconducts' haccount' hran'
  refine ⟨_, heard', after', hran', rfl, hconducts', haccount', ?_⟩
  rw [hconducts.agents, hconducts'.agents]
  apply List.map_congr_left
  intro agent _
  rw [Agent.noted, Agent.noted, entriesFor_kept session.registry hdrops]

/-- Endpoints of which one is up, which answer by the prompt alone. -/
def answerIfUp (up : Bool) (_ : String) (_ : Option (List UInt8)) : Except EndpointError String :=
  if up then .ok "done" else .error (.timeout 30)

/-- Endpoints of which one is up, without a state. -/
def ifUp : Responder Bool Unit :=
  fun up prompt image world => (answerIfUp up prompt image, world)

/-- Four steps, of which the second gets no answer and the third has no agent. -/
def troubled : Workflow :=
  .new "troubled" [⟨" draft ", "writer", "Write", none⟩, ⟨"check", "critic", "Check", none⟩,
    ⟨"look", "nobody", "Look", none⟩, ⟨"final", "writer", "Finish", none⟩]

/-- Two agents, whose endpoints are up and down. -/
def troubledSession : Session Bool Unit :=
  (((Session.start true ()).addAgent "writer" "" "" none).2.addAgent "critic" "" ""
    (some false)).2

/-- Of the two steps that fail the first is taken out. The others are recorded as before. -/
theorem run_isolates_failures_troubled :
    ifUp.Answers answerIfUp ∧ troubled.failFast = false ∧
    (∀ step ∈ troubled.steps, Text.trim step.name ≠ "") ∧
    (troubled.steps.map fun step => Text.trim step.name).Nodup ∧
    ∃ report heard after shorter heard' after',
      troubled.run ifUp ⟨default, default, default⟩ .absent troubledSession =
        (.ok report, heard, after) ∧
      (troubled.keeping (· != 1)).run ifUp ⟨default, default, default⟩ .closed troubledSession =
        (.ok shorter, heard', after') ∧
      report.steps.map (fun record => record.outcome.isFailed) = [false, true, true, false] ∧
      DropsFailures (· != 1) report.steps ∧ shorter.steps = kept (· != 1) report.steps ∧
      after'.registry.agents = after.registry.agents := by
  have hnamed : ∀ step ∈ troubled.steps, Text.trim step.name ≠ "" := by decide
  have hdistinct : (troubled.steps.map fun step => Text.trim step.name).Nodup := by decide
  have hanswers : ifUp.Answers answerIfUp := fun _ _ _ _ => rfl
  have hgoes : troubled.failFast = false := rfl
  obtain ⟨report, heard, after, made, hran, -, -, hisolated⟩ := run_isolates_failures hanswers
    hgoes hnamed hdistinct ⟨default, default, default⟩ .absent troubledSession
  have hfails : report.steps.map (fun record => record.outcome.isFailed) =
      [false, true, true, false] := by
    obtain ⟨hreport, -⟩ := Prod.mk.inj hran
    obtain rfl := Except.ok.inj hreport
    rfl
  have hdrops : DropsFailures (· != 1) report.steps := by
    intro position record hrecord hdropped
    obtain rfl : position = 1 := by simpa using hdropped
    have hsecond := congrArg (·[1]?) hfails
    simp only [List.getElem?_map, hrecord] at hsecond
    simpa using hsecond
  obtain ⟨shorter, heard', after', hran', hkept, -, -, hagents⟩ :=
    hisolated (· != 1) hdrops ⟨default, default, default⟩ .closed
  exact ⟨hanswers, hgoes, hnamed, hdistinct, report, heard, after, shorter, heard', after', hran,
    hran', hfails, hdrops, hkept, hagents⟩

end Workflow

end Ensemble
