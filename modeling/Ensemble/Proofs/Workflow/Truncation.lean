/-
# Failing fast cuts a run short

A workflow may be run to its end, or so that it stops at the first failure. Up to that failure the
two runs are in lockstep: the same steps take the same exchanges and leave the same session, so
nothing tells them apart. Behind it the run that stops only skips. Hence the one run is the other
cut at its first failure, in its records as well as in its calls.
-/

import Ensemble.Proofs.Workflow.DataFlow

namespace Ensemble

variable {ε σ : Type}

/-- The record of a step as if it had been skipped. -/
def StepRecord.skip (record : StepRecord) : StepRecord :=
  { record with outcome := .skipped }

namespace Workflow

/-! ## Records cut at the first failure -/

/-- The position of the first failure among some records. -/
def firstFailure? (records : List StepRecord) : Option Nat :=
  records.findIdx? fun record => record.outcome.isFailed

/-- The records up to the first failure, and those behind it skipped. -/
def cut : List StepRecord → List StepRecord
  | [] => []
  | record :: rest =>
    if record.outcome.isFailed then record :: rest.map StepRecord.skip else record :: cut rest

/-- How many records stand up to the first failure. -/
def lengthToFailure : List StepRecord → Nat
  | [] => 0
  | record :: rest => if record.outcome.isFailed then 1 else lengthToFailure rest + 1

theorem firstFailure?_cons (record : StepRecord) (rest : List StepRecord) :
    firstFailure? (record :: rest) =
      if record.outcome.isFailed then some 0 else (firstFailure? rest).map (· + 1) :=
  List.findIdx?_cons

/-- Nothing is cut where nothing failed. -/
theorem cut_of_unfailed {records : List StepRecord} (h : firstFailure? records = none) :
    cut records = records ∧ lengthToFailure records = records.length := by
  induction records with
  | nil => exact ⟨rfl, rfl⟩
  | cons record rest ih =>
      rw [firstFailure?_cons] at h
      split at h
      next => simp at h
      next hgoes =>
        obtain ⟨hcut, hlength⟩ := ih (Option.map_eq_none_iff.1 h)
        rw [cut, lengthToFailure, if_neg hgoes, if_neg hgoes, hcut, hlength, List.length_cons]
        exact ⟨rfl, rfl⟩

/-- What is cut behind the first failure is skipped, and everything else stays. -/
theorem cut_of_failed {records : List StepRecord} {position : Nat}
    (h : firstFailure? records = some position) :
    cut records =
        records.take (position + 1) ++ (records.drop (position + 1)).map StepRecord.skip ∧
      lengthToFailure records = position + 1 := by
  induction records generalizing position with
  | nil => simp [firstFailure?] at h
  | cons record rest ih =>
      rw [firstFailure?_cons] at h
      split at h
      next hfailed =>
        obtain rfl : 0 = position := Option.some.inj h
        rw [cut, lengthToFailure, if_pos hfailed, if_pos hfailed]
        exact ⟨rfl, rfl⟩
      next hgoes =>
        obtain ⟨earlier, hearlier, rfl⟩ := Option.map_eq_some_iff.1 h
        obtain ⟨hcut, hlength⟩ := ih hearlier
        rw [cut, lengthToFailure, if_neg hgoes, if_neg hgoes, hcut, hlength]
        exact ⟨rfl, rfl⟩

/-- Among cut records no more than one is a failure. -/
theorem countP_cut_le_one (records : List StepRecord) :
    (cut records).countP (fun record => record.outcome.isFailed) ≤ 1 := by
  induction records with
  | nil => exact Nat.zero_le 1
  | cons record rest ih =>
      rw [cut]
      split
      next hfailed =>
        have hrest : (rest.map StepRecord.skip).countP (fun record => record.outcome.isFailed) =
            0 := by
          rw [List.countP_map, List.countP_eq_zero]
          exact fun _ _ => Bool.false_ne_true
        rw [List.countP_cons, hrest]
        split <;> omega
      next hgoes =>
        rw [List.countP_cons, if_neg hgoes]
        exact ih

/-- Every record of a skipped step stands behind one of a failure. -/
def SkipsBehindFailure (records : List StepRecord) : Prop :=
  ∀ (position : Nat) (record : StepRecord), records[position]? = some record →
    record.outcome.isSkipped = true → ∃ earlier < position, ∃ failure : StepRecord,
      records[earlier]? = some failure ∧ failure.outcome.isFailed = true

theorem skipsBehindFailure_of_unskipped {records : List StepRecord}
    (h : ∀ record ∈ records, record.outcome.isSkipped = false) : SkipsBehindFailure records := by
  intro position record hrecord hskipped
  rw [h record (List.mem_of_getElem? hrecord)] at hskipped
  exact absurd hskipped Bool.false_ne_true

/-- Cutting skips behind a failure only. -/
theorem skipsBehindFailure_cut {records : List StepRecord}
    (h : ∀ record ∈ records, record.outcome.isSkipped = false) :
    SkipsBehindFailure (cut records) := by
  induction records with
  | nil => exact skipsBehindFailure_of_unskipped h
  | cons head rest ih =>
      obtain ⟨hhead, hrest⟩ := List.forall_mem_cons.1 h
      intro position record hrecord hskipped
      rw [cut] at hrecord ⊢
      split at hrecord
      next hfailed =>
        rw [if_pos hfailed]
        cases position with
        | zero =>
            obtain rfl : head = record := Option.some.inj hrecord
            rw [hhead] at hskipped
            exact absurd hskipped Bool.false_ne_true
        | succ position => exact ⟨0, Nat.succ_pos position, head, rfl, hfailed⟩
      next hgoes =>
        rw [if_neg hgoes]
        cases position with
        | zero =>
            obtain rfl : head = record := Option.some.inj hrecord
            rw [hhead] at hskipped
            exact absurd hskipped Bool.false_ne_true
        | succ position =>
            obtain ⟨earlier, hlt, failure, hfailure⟩ := ih hrest position record hrecord hskipped
            exact ⟨earlier + 1, Nat.succ_lt_succ hlt, failure, hfailure⟩

/-! ## The steps of the two runs -/

/-- A step that is taken is not skipped. -/
theorem StepTakes.not_skipped {registry : Registry ε} {step : WorkflowStep} {known : Context}
    {outcome : StepOutcome} {exchanges : List (Exchange ε)}
    (h : StepTakes registry step known outcome exchanges) : outcome.isSkipped = false := by
  cases h with
  | missing absent => rfl
  | called found answer => cases answer <;> rfl

/-- A run that goes on skips no step. -/
theorem StepsAccount.unskipped {registry : Registry ε} {index : Nat} {steps : List WorkflowStep}
    {known : Context} {records : List StepRecord} {made : List (List (Exchange ε))}
    (h : StepsAccount registry false index steps known records made) :
    ∀ record ∈ records, record.outcome.isSkipped = false := by
  intro record hmem
  obtain ⟨position, hrecord⟩ := List.mem_iff_getElem?.1 hmem
  obtain ⟨hlt, -⟩ := List.getElem?_eq_some_iff.1 hrecord
  have hstep := List.getElem?_eq_getElem (h.length_records ▸ hlt)
  have hmade := List.getElem?_eq_getElem (h.length_made.trans h.length_records.symm ▸ hlt)
  have haccount := h.account position _ _ _ hstep hrecord hmade
  exact (haccount.taken fun hfast => Bool.noConfusion hfast).not_skipped

/-- To skip steps is to record them without what they come to. -/
theorem StepsAccount.skipSteps_eq {registry : Registry ε} {failFast : Bool} {index : Nat}
    {steps : List WorkflowStep} {known : Context} {records : List StepRecord}
    {made : List (List (Exchange ε))}
    (h : StepsAccount registry failFast index steps known records made) (runId : RunId)
    (listener : Listener) :
    (skipSteps runId index steps listener).1 = records.map StepRecord.skip := by
  apply List.ext_getElem?
  intro position
  rw [getElem?_skipSteps]
  exact (h.getElem?_map (fun name agent => (⟨name, agent, .skipped⟩ : StepRecord)) position).symm

/-- The steps that go on and the steps that stop at the first failure take the same exchanges up to
that failure; their records agree but for what is cut. -/
theorem runSteps_lockstep (responder : Responder ε σ) (runId runId' : RunId) (index : Nat)
    (steps : List WorkflowStep) (known : Context) (listener listener' : Listener)
    (session : Session ε σ) :
    let full := runSteps responder false runId index steps known listener session
    let short := runSteps responder true runId' index steps known listener' session
    ∃ made : List (List (Exchange ε)),
      session.Conducts responder made.flatten full.session ∧
      StepsAccount session.registry false index steps known full.records made ∧
      short.records = cut full.records ∧
      session.Conducts responder (made.take (lengthToFailure full.records)).flatten
        short.session := by
  induction steps generalizing index known listener listener' session with
  | nil => exact ⟨[], .refl session, .nil _ _ _ _, rfl, .refl session⟩
  | cons step rest ih =>
      obtain ⟨first, htakes, hconducts⟩ := conducts_runStep responder step known session
      obtain ⟨outcome, after, hran⟩ : ∃ outcome after,
          runStep responder step known session = (outcome, after) := ⟨_, _, rfl⟩
      rw [hran] at htakes hconducts
      have hfirst := StepAccount.first false index htakes
      simp only [runSteps, hran, Bool.false_and, Bool.true_and, Bool.false_eq_true, if_false]
      -- From here on the record stands for itself, so that its name is not computed.
      obtain ⟨head, hhead⟩ : ∃ head : StepRecord,
          head = ⟨step.resolvedName index, step.agent, outcome⟩ := ⟨_, rfl⟩
      have hname : step.resolvedName index = head.name := by rw [hhead]
      have houtcome : outcome = head.outcome := by rw [hhead]
      rw [← hhead] at hfirst ⊢
      rw [hname, houtcome]
      obtain ⟨made, hfull, haccount, hcut, hshort⟩ := ih (index + 1)
        (learn known head.name head.outcome)
        ((listener.tell (.stepStarted runId index head.name step.agent)).tell
          (.stepFinished runId index head.name head.outcome))
        ((listener'.tell (.stepStarted runId' index head.name step.agent)).tell
          (.stepFinished runId' index head.name head.outcome)) after
      refine ⟨first :: made, hconducts.trans hfull, .cons hconducts hfirst rfl haccount, ?_⟩
      rw [cut, lengthToFailure]
      cases hfailed : head.outcome.isFailed with
      | true =>
          simp only [if_true]
          refine ⟨congrArg _ (haccount.skipSteps_eq _ _), ?_⟩
          simpa using hconducts
      | false =>
          simp only [Bool.false_eq_true, if_false]
          exact ⟨congrArg _ hcut, hconducts.trans hshort⟩

/-! ## The two runs -/

/-- How a run that stops at the first failure compares with one that goes on, of which `made` are
the exchanges of its steps. -/
structure Truncates (responder : Responder ε σ) (session : Session ε σ)
    (full short : List StepRecord) (made : List (List (Exchange ε))) (after : Session ε σ) :
    Prop where
  unfailed : firstFailure? full = none →
    short = full ∧ session.Conducts responder made.flatten after
  kept : ∀ position, firstFailure? full = some position →
    short.take (position + 1) = full.take (position + 1)
  skipped : ∀ position, firstFailure? full = some position →
    short.drop (position + 1) = (full.drop (position + 1)).map StepRecord.skip
  called : ∀ position, firstFailure? full = some position →
    session.Conducts responder (made.take (position + 1)).flatten after

/-- Cut records and the exchanges up to the first failure are those of a run that stops there. -/
theorem truncates_cut {responder : Responder ε σ} {session after : Session ε σ}
    {full : List StepRecord} {made : List (List (Exchange ε))} (hlength : made.length = full.length)
    (hconducts : session.Conducts responder (made.take (lengthToFailure full)).flatten after) :
    Truncates responder session full (cut full) made after where
  unfailed hnone := by
    obtain ⟨hcut, hall⟩ := cut_of_unfailed hnone
    rw [hall, ← hlength, List.take_length] at hconducts
    exact ⟨hcut, hconducts⟩
  kept position hfirst := by
    obtain ⟨hlt, -⟩ := List.findIdx?_eq_some_iff_getElem.1 hfirst
    rw [(cut_of_failed hfirst).1, List.take_left' (List.length_take_of_le hlt)]
  skipped position hfirst := by
    obtain ⟨hlt, -⟩ := List.findIdx?_eq_some_iff_getElem.1 hfirst
    rw [(cut_of_failed hfirst).1, List.drop_left' (List.length_take_of_le hlt)]
  called position hfirst := by
    rw [(cut_of_failed hfirst).2] at hconducts
    exact hconducts

/-- A workflow that fails fast runs as one that does not, cut at the first failure: the records up
to that failure and the exchanges behind them are the same, and all later steps are skipped. Hence
a step is skipped in a report only behind a failure, of which there is at most one when the
workflow fails fast. -/
theorem run_failFast_truncates (responder : Responder ε σ) {workflow : Workflow}
    (hdistinct : workflow.stepNames.Nodup) (session : Session ε σ) :
    (∀ stamp stamp' listener listener', ∃ full heard after short heard' after',
      ∃ made : List (List (Exchange ε)),
      (workflow.withFailFast false).run responder stamp listener session =
        (.ok full, heard, after) ∧
      (workflow.withFailFast true).run responder stamp' listener' session =
        (.ok short, heard', after') ∧
      session.Conducts responder made.flatten after ∧
      StepsAccount session.registry false 0 workflow.steps ∅ full.steps made ∧
      (∀ record ∈ full.steps, record.outcome.isSkipped = false) ∧
      Truncates responder session full.steps short.steps made after') ∧
    ∀ failFast stamp listener report heard after,
      (workflow.withFailFast failFast).run responder stamp listener session =
        (.ok report, heard, after) →
      SkipsBehindFailure report.steps ∧ (failFast = true → report.failed ≤ 1) := by
  have hrun := fun failFast => run_of_nodup responder
    (show (workflow.withFailFast failFast).stepNames.Nodup from hdistinct)
  constructor
  · intro stamp stamp' listener listener'
    obtain ⟨made, hconducts, haccount, hcut, hshort⟩ := runSteps_lockstep responder stamp.runId
      stamp'.runId 0 workflow.steps ∅
      (listener.tell (.workflowStarted stamp.runId workflow.name workflow.steps.length))
      (listener'.tell (.workflowStarted stamp'.runId workflow.name workflow.steps.length)) session
    have hlength := haccount.length_made.trans haccount.length_records.symm
    refine ⟨_, _, _, _, _, _, made, hrun false .., hrun true .., hconducts, haccount,
      haccount.unskipped, ?_⟩
    have htruncates := truncates_cut hlength hshort
    rw [← hcut] at htruncates
    exact htruncates
  · intro failFast stamp listener report heard after hran
    rw [hrun failFast] at hran
    obtain ⟨made, -, haccount, hcut, -⟩ := runSteps_lockstep responder stamp.runId stamp.runId 0
      workflow.steps ∅
      (listener.tell (.workflowStarted stamp.runId workflow.name workflow.steps.length))
      (listener.tell (.workflowStarted stamp.runId workflow.name workflow.steps.length)) session
    obtain ⟨hreport, -⟩ := Prod.mk.inj hran
    obtain rfl := Except.ok.inj hreport
    cases failFast with
    | false =>
        exact ⟨skipsBehindFailure_of_unskipped haccount.unskipped,
          fun hfast => Bool.noConfusion hfast⟩
    | true =>
        have hbehind := skipsBehindFailure_cut haccount.unskipped
        have hcount := countP_cut_le_one
          (runSteps responder false stamp.runId 0 workflow.steps ∅
            (listener.tell (.workflowStarted stamp.runId workflow.name workflow.steps.length))
            session).records
        rw [← hcut] at hbehind hcount
        exact ⟨hbehind, fun _ => hcount⟩

/-- Of three steps the second has no agent. The run that fails fast skips the third and makes only
the call of the first. -/
theorem run_failFast_truncates_interrupted :
    interrupted.stepNames.Nodup ∧ ∃ full heard after short heard' after',
      (interrupted.withFailFast false).run (fun _ _ _ _ => (.ok "done", ()))
        ⟨default, default, default⟩ .absent
        ((Session.start () ()).addAgent "writer" "" "" none).2 = (.ok full, heard, after) ∧
      (interrupted.withFailFast true).run (fun _ _ _ _ => (.ok "done", ()))
        ⟨default, default, default⟩ .closed
        ((Session.start () ()).addAgent "writer" "" "" none).2 = (.ok short, heard', after') ∧
      firstFailure? full.steps = some 1 ∧ short.steps.take 2 = full.steps.take 2 ∧
      short.steps.drop 2 = (full.steps.drop 2).map StepRecord.skip ∧ short.failed ≤ 1 := by
  have hdistinct : interrupted.stepNames.Nodup := by decide
  obtain ⟨hruns, hreports⟩ := run_failFast_truncates (fun _ _ _ _ => (.ok "done", ())) hdistinct
    ((Session.start () ()).addAgent "writer" "" "" none).2
  obtain ⟨full, heard, after, short, heard', after', made, hfull, hshort, -, -, -, htruncates⟩ :=
    hruns ⟨default, default, default⟩ ⟨default, default, default⟩ .absent .closed
  have hfirst : firstFailure? full.steps = some 1 := by
    obtain ⟨hreport, -⟩ := Prod.mk.inj hfull
    obtain rfl := Except.ok.inj hreport
    rfl
  exact ⟨hdistinct, full, heard, after, short, heard', after', hfull, hshort, hfirst,
    htruncates.kept 1 hfirst, htruncates.skipped 1 hfirst, (hreports _ _ _ _ _ _ hshort).2 rfl⟩

end Workflow

end Ensemble
