/-
# An account of the steps of a run

The steps of a workflow are accounted for one by one: whether a step is reached, what is known to
it, which exchange it causes and what is recorded of it. Every account speaks of the registry at
the start of the run, although the exchanges of earlier steps were noted in it since, because an
exchange does not depend on what its agent noted. The account of a whole run is an induction over
its steps; the steps behind a failure that stops the run are accounted for as skipped.
-/

import Ensemble.Proofs.Session.Exchange
import Ensemble.Workflow.Run

namespace Ensemble

variable {ε σ : Type}

/-- The outcome of a step whose agent got an answer. -/
def StepOutcome.ofAnswer (agent : String) : Except EndpointError String → StepOutcome
  | .ok value => .success value
  | .error source => .failed (OrchestrationError.endpoint agent source).toStepError

namespace Workflow

/-- A step is reached unless the run fails fast and a step before it failed. -/
def Reached (failFast : Bool) (earlier : List StepRecord) : Prop :=
  failFast = true → ∀ record ∈ earlier, record.outcome.isFailed = false

/-- What is known after some records. -/
def knownAfter (known : Context) (records : List StepRecord) : Context :=
  records.foldl (fun known record => learn known record.name record.outcome) known

@[simp] theorem knownAfter_cons (known : Context) (record : StepRecord)
    (records : List StepRecord) :
    knownAfter known (record :: records) =
      knownAfter (learn known record.name record.outcome) records := rfl

/-- What a step that is reached comes to: a failure and no exchange if its agent is not
registered, and otherwise one exchange and the outcome that its answer makes. -/
inductive StepTakes (registry : Registry ε) (step : WorkflowStep) (known : Context) :
    StepOutcome → List (Exchange ε) → Prop
  | missing (absent : registry.find? step.agent = none) :
      StepTakes registry step known
        (.failed (OrchestrationError.agentNotFound step.agent).toStepError) []
  | called {agent : Agent ε} (found : registry.find? step.agent = some agent)
      (answer : Except EndpointError String) :
      StepTakes registry step known (.ofAnswer agent.name answer)
        [.ofTask agent step.task (some (known.overlay step.context)) answer]

/-- The registry may as well be the one from before some exchanges. -/
theorem StepTakes.before {responder : Responder ε σ} {before after : Session ε σ}
    {made exchanges : List (Exchange ε)} {step : WorkflowStep} {known : Context}
    {outcome : StepOutcome} (hconducts : before.Conducts responder made after)
    (h : StepTakes after.registry step known outcome exchanges) :
    StepTakes before.registry step known outcome exchanges := by
  cases h with
  | missing absent =>
      rw [hconducts.find?, Option.map_eq_none_iff] at absent
      exact .missing absent
  | called found answer =>
      rw [hconducts.find?] at found
      obtain ⟨agent, hfound, rfl⟩ := Option.map_eq_some_iff.1 found
      exact .called hfound answer

/-- A step conducts the exchange that it takes. -/
theorem conducts_runStep (responder : Responder ε σ) (step : WorkflowStep) (known : Context)
    (session : Session ε σ) :
    ∃ exchanges,
      StepTakes session.registry step known (runStep responder step known session).1 exchanges ∧
        session.Conducts responder exchanges (runStep responder step known session).2 := by
  cases hfind : session.registry.find? step.agent with
  | none =>
      refine ⟨[], ?_, ?_⟩ <;> simp only [runStep, Session.assign, Registry.require, hfind]
      · exact .missing hfind
      · exact .refl session
  | some agent =>
      let assignment : Session.Assignment :=
        ⟨.task, step.task, step.task, some (known.overlay step.context), none⟩
      obtain ⟨hresult, hconducts⟩ := session.conducts_carryOut responder agent assignment
      have hran : runStep responder step known session =
          (.ofAnswer agent.name (session.answerTo responder agent assignment),
            (session.carryOut responder agent assignment).2) := by
        simp only [runStep, Session.assign, Registry.require, hfind, Session.execute]
        rcases hcarried : session.carryOut responder agent assignment with ⟨result, after⟩
        rw [hcarried] at hresult
        simp only at hresult
        subst hresult
        cases session.answerTo responder agent assignment <;> rfl
      rw [hran]
      exact ⟨_, .called hfind _, hconducts⟩

/-- What the step at a position comes to, given the records of the steps before it and what was
known to the first of them. -/
structure StepAccount (registry : Registry ε) (failFast : Bool) (index : Nat)
    (step : WorkflowStep) (known : Context) (earlier : List StepRecord) (record : StepRecord)
    (exchanges : List (Exchange ε)) : Prop where
  name : record.name = step.resolvedName index
  agent : record.agent = step.agent
  taken : Reached failFast earlier →
    StepTakes registry step (knownAfter known earlier) record.outcome exchanges
  skipped : ¬ Reached failFast earlier → record.outcome = .skipped ∧ exchanges = []

/-- The first step of a run is reached. -/
theorem StepAccount.first {registry : Registry ε} {step : WorkflowStep} {known : Context}
    {outcome : StepOutcome} {exchanges : List (Exchange ε)} (failFast : Bool) (index : Nat)
    (htakes : StepTakes registry step known outcome exchanges) :
    StepAccount registry failFast index step known []
      ⟨step.resolvedName index, step.agent, outcome⟩ exchanges where
  name := by dsimp only
  agent := by dsimp only
  taken _ := htakes
  skipped hnot := absurd (fun _ _ hmem => absurd hmem List.not_mem_nil) hnot

/-- A step that does not stop the run leaves it to the steps before whether a later one is
reached. -/
theorem reached_cons_iff {failFast : Bool} {first : StepRecord} {earlier : List StepRecord}
    (hgoes : (failFast && first.outcome.isFailed) = false) :
    Reached failFast (first :: earlier) ↔ Reached failFast earlier := by
  cases failFast with
  | false => simp [Reached]
  | true =>
      have hfirst : first.outcome.isFailed = false := by simpa using hgoes
      simp [Reached, hfirst]

/-- A step that stops the run leaves no later step to be reached. -/
theorem not_reached_of_stop {failFast : Bool} {earlier : List StepRecord} {record : StepRecord}
    (hmem : record ∈ earlier) (hstop : (failFast && record.outcome.isFailed) = true) :
    ¬ Reached failFast earlier := by
  intro hreached
  obtain ⟨hfast, hfailed⟩ := Bool.and_eq_true_iff.1 hstop
  rw [hreached hfast record hmem] at hfailed
  exact absurd hfailed (by decide)

/-- An account after a step that goes on is an account from that step on. -/
theorem StepAccount.cons {responder : Responder ε σ} {before after : Session ε σ}
    {made exchanges : List (Exchange ε)} {failFast : Bool} {index : Nat} {step : WorkflowStep}
    {known : Context} {first record : StepRecord} {earlier : List StepRecord}
    (hconducts : before.Conducts responder made after)
    (hgoes : (failFast && first.outcome.isFailed) = false)
    (h : StepAccount after.registry failFast index step
      (learn known first.name first.outcome) earlier record exchanges) :
    StepAccount before.registry failFast index step known (first :: earlier) record exchanges where
  name := h.name
  agent := h.agent
  taken hreached := (h.taken ((reached_cons_iff hgoes).1 hreached)).before hconducts
  skipped hnot := h.skipped fun hreached => hnot ((reached_cons_iff hgoes).2 hreached)

theorem length_skipSteps (runId : RunId) (index : Nat) (steps : List WorkflowStep)
    (listener : Listener) : (skipSteps runId index steps listener).1.length = steps.length := by
  induction steps generalizing index listener with
  | nil => rfl
  | cons step rest ih => simp [skipSteps, ih]

/-- Skipped steps are recorded under their names. -/
theorem getElem?_skipSteps (runId : RunId) (index : Nat) (steps : List WorkflowStep)
    (listener : Listener) (position : Nat) :
    (skipSteps runId index steps listener).1[position]? = steps[position]?.map fun step =>
      ⟨step.resolvedName (index + position), step.agent, .skipped⟩ := by
  induction steps generalizing index listener position with
  | nil => rfl
  | cons step rest ih =>
      cases position with
      | zero => simp [skipSteps]
      | succ position =>
          simp only [skipSteps, List.getElem?_cons_succ]
          rw [ih, Nat.add_right_comm, Nat.add_assoc]

/-- Records and exchanges account for every one of some steps. -/
structure StepsAccount (registry : Registry ε) (failFast : Bool) (index : Nat)
    (steps : List WorkflowStep) (known : Context) (records : List StepRecord)
    (made : List (List (Exchange ε))) : Prop where
  length_records : records.length = steps.length
  length_made : made.length = steps.length
  account : ∀ position step record exchanges, steps[position]? = some step →
    records[position]? = some record → made[position]? = some exchanges →
    StepAccount registry failFast (index + position) step known (records.take position) record
      exchanges

/-- What is said of a step's record by its name and its agent can be said of the step. -/
theorem StepsAccount.getElem?_map {β : Type} {registry : Registry ε} {failFast : Bool} {index : Nat}
    {steps : List WorkflowStep} {known : Context} {records : List StepRecord}
    {made : List (List (Exchange ε))}
    (h : StepsAccount registry failFast index steps known records made) (f : String → String → β)
    (position : Nat) :
    (records.map fun record => f record.name record.agent)[position]? =
      steps[position]?.map fun step => f (step.resolvedName (index + position)) step.agent := by
  rw [List.getElem?_map]
  by_cases hlt : position < steps.length
  · have hrecord : position < records.length := h.length_records ▸ hlt
    have hmade : position < made.length := h.length_made ▸ hlt
    have haccount := h.account position _ _ _ (List.getElem?_eq_getElem hlt)
      (List.getElem?_eq_getElem hrecord) (List.getElem?_eq_getElem hmade)
    rw [List.getElem?_eq_getElem hlt, List.getElem?_eq_getElem hrecord, Option.map_some,
      Option.map_some, haccount.name, haccount.agent]
  · have hlength := h.length_records
    rw [List.getElem?_eq_none (by omega), List.getElem?_eq_none (by omega)]
    rfl

theorem StepsAccount.nil (registry : Registry ε) (failFast : Bool) (index : Nat)
    (known : Context) : StepsAccount registry failFast index [] known [] [] :=
  ⟨rfl, rfl, fun _ _ _ _ hstep => by simp at hstep⟩

/-- A step that goes on is accounted for before the steps behind it. -/
theorem StepsAccount.cons {responder : Responder ε σ} {before after : Session ε σ}
    {made first : List (Exchange ε)} {failFast : Bool} {index : Nat} {step : WorkflowStep}
    {rest : List WorkflowStep} {known : Context} {head : StepRecord} {records : List StepRecord}
    {others : List (List (Exchange ε))} (hconducts : before.Conducts responder made after)
    (hfirst : StepAccount before.registry failFast index step known [] head first)
    (hgoes : (failFast && head.outcome.isFailed) = false)
    (h : StepsAccount after.registry failFast (index + 1) rest
      (learn known head.name head.outcome) records others) :
    StepsAccount before.registry failFast index (step :: rest) known (head :: records)
      (first :: others) where
  length_records := by simp [h.length_records]
  length_made := by simp [h.length_made]
  account := by
    intro position other record exchanges hstep hrecord hmade
    cases position with
    | zero =>
        simp only [List.getElem?_cons_zero, Option.some.injEq] at hstep hrecord hmade
        subst hstep hrecord hmade
        exact hfirst
    | succ position =>
        simp only [List.getElem?_cons_succ] at hstep hrecord hmade
        have hlater := (h.account position other record exchanges hstep hrecord hmade).cons
          hconducts hgoes
        rwa [Nat.add_right_comm, Nat.add_assoc] at hlater

/-- Behind a step that stops the run all steps are accounted for as skipped. -/
theorem StepsAccount.stop {registry : Registry ε} {first : List (Exchange ε)} {failFast : Bool}
    {index : Nat} {step : WorkflowStep} {known : Context} {head : StepRecord}
    (hfirst : StepAccount registry failFast index step known [] head first)
    (hstop : (failFast && head.outcome.isFailed) = true) (runId : RunId)
    (rest : List WorkflowStep) (listener : Listener) :
    StepsAccount registry failFast index (step :: rest) known
      (head :: (skipSteps runId (index + 1) rest listener).1)
      (first :: List.replicate rest.length []) where
  length_records := by simp [length_skipSteps]
  length_made := by simp
  account := by
    intro position other record exchanges hstep hrecord hmade
    cases position with
    | zero =>
        simp only [List.getElem?_cons_zero, Option.some.injEq] at hstep hrecord hmade
        subst hstep hrecord hmade
        exact hfirst
    | succ position =>
        simp only [List.getElem?_cons_succ] at hstep hrecord hmade
        rw [getElem?_skipSteps, hstep, Option.map_some, Option.some.injEq] at hrecord
        have hnone : exchanges = [] := List.eq_of_mem_replicate (List.mem_of_getElem? hmade)
        subst hrecord hnone
        refine ⟨?_, rfl, fun hreached => absurd hreached ?_, fun _ => ⟨rfl, rfl⟩⟩
        · rw [Nat.add_right_comm, Nat.add_assoc]
        · exact not_reached_of_stop List.mem_cons_self hstop

/-- The records of the steps that run, and the exchanges that they conduct, account for every
step. -/
theorem runSteps_account (responder : Responder ε σ) (failFast : Bool) (runId : RunId)
    (index : Nat) (steps : List WorkflowStep) (known : Context) (listener : Listener)
    (session : Session ε σ) :
    ∃ made : List (List (Exchange ε)),
      session.Conducts responder made.flatten
        (runSteps responder failFast runId index steps known listener session).session ∧
      StepsAccount session.registry failFast index steps known
        (runSteps responder failFast runId index steps known listener session).records made := by
  induction steps generalizing index known listener session with
  | nil => exact ⟨[], .refl session, .nil _ _ _ _⟩
  | cons step rest ih =>
      obtain ⟨first, htakes, hconducts⟩ := conducts_runStep responder step known session
      obtain ⟨outcome, after, hran⟩ : ∃ outcome after,
          runStep responder step known session = (outcome, after) := ⟨_, _, rfl⟩
      rw [hran] at htakes hconducts
      -- From here on the record stands for itself, so that its name is not computed.
      obtain ⟨head, hhead⟩ : ∃ head : StepRecord,
          head = ⟨step.resolvedName index, step.agent, outcome⟩ := ⟨_, rfl⟩
      have hname : step.resolvedName index = head.name := by rw [hhead]
      have houtcome : outcome = head.outcome := by rw [hhead]
      have hfirst := StepAccount.first failFast index htakes
      simp only [runSteps, hran]
      rw [← hhead] at hfirst ⊢
      rw [hname, houtcome]
      cases hstop : failFast && head.outcome.isFailed with
      | true =>
          rw [if_pos rfl]
          refine ⟨first :: List.replicate rest.length [], ?_, .stop hfirst hstop _ _ _⟩
          simpa using hconducts
      | false =>
          obtain ⟨made, hrest, haccount⟩ := ih (index + 1) (learn known head.name head.outcome)
            _ after
          rw [if_neg Bool.false_ne_true]
          exact ⟨first :: made, hconducts.trans hrest, .cons hconducts hfirst hstop haccount⟩

end Workflow

end Ensemble
