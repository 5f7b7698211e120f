/-
# Chains of agents

A hybrid run whose groups have one agent each is a chain: every agent sees the outputs of all
agents before it. A workflow that fails fast says the same in its own way, with a step for every
agent that is named by the key of the agent's result. The two are run side by side. Step for step
they send the same prompts in the same session, because what the groups have put into the shared
context is what the steps know with their declared context on top. The relation `ChainEnds`
collects what the two come to, and holds of one common list of exchanges.
-/

import Ensemble.Proofs.Coordination.Alignment
import Ensemble.Proofs.Dictionary
import Ensemble.Proofs.Text.Trimming
import Ensemble.Proofs.Workflow.DataFlow

namespace Ensemble

variable {ε σ : Type}

/-- The request that lets agents work one after another, each with the outputs of all before
it. -/
def CoordinationRequest.chain (task : String) (names : List String) (context : Option Context) :
    CoordinationRequest :=
  ⟨task, names, .hybrid, context, ∅, some ⟨names.map fun name => [name]⟩⟩

/-- The workflow that lets agents work one after another, each in a step that is named by the key
of its result. -/
def Workflow.chain (name description task : String) (names : List String)
    (context : Option Context) : Workflow :=
  ⟨name, description, true,
    List.zipWith (fun agent key => ⟨key, agent, task, context⟩) names (resultKeys names)⟩

/-- The step of a chain for the agent at a seat. -/
def Seat.step (task : String) (context : Option Context) (seat : Seat ε) : WorkflowStep :=
  ⟨seat.key, seat.agent.name, task, context⟩

@[simp] theorem Seat.name_step (seat : Seat ε) (task : String) (context : Option Context) :
    (seat.step task context).name = seat.key := rfl

@[simp] theorem Seat.agent_step (seat : Seat ε) (task : String) (context : Option Context) :
    (seat.step task context).agent = seat.agent.name := rfl

/-- The record of the step for a seat. -/
def Seat.record (seat : Seat ε) (outcome : StepOutcome) : StepRecord :=
  ⟨seat.key, seat.agent.name, outcome⟩

/-! ## Keys as step names -/

/-- A name under which a step is recorded as it is. -/
def IsStepName (name : String) : Prop := Text.trim name = name ∧ name ≠ ""

namespace ResultKeys

/-- A key that is generated for a name that a step can have is trimmed. -/
theorem trim_candidate {name : String} (hname : IsStepName name) (position counter : Nat) :
    Text.trim (candidate name position counter) = candidate name position counter := by
  obtain ⟨htrim, hnonempty⟩ := hname
  have hsome : name.toList ≠ [] := fun hnil => hnonempty (String.toList_eq_nil_iff.1 hnil)
  have hfront : ∀ rest c, (name.toList ++ rest).head? = some c → Text.isBlank c = false := by
    intro rest c hc
    rw [List.head?_append_of_ne_nil _ hsome] at hc
    exact Text.isBlank_head_of_trim htrim hc
  have hchars : Text.trimChars (candidate name position counter).toList =
      (candidate name position counter).toList := by
    cases counter with
    | zero =>
        rw [candidate, toList_base]
        exact Text.trimChars_append_digits hsome (fun c => Text.isBlank_head_of_trim htrim) _ _
    | succ counter =>
        rw [candidate, toList_counted, toList_base]
        exact Text.trimChars_append_digits (by simp) (hfront _) _ _
  rw [Text.trim, hchars, String.ofList_toList]

/-- The key of a name that a step can have is one as well. -/
theorem IsKeyAt.isStepName {names : List String} {position : Nat} {name key : String}
    (h : IsKeyAt names position name key) (hname : IsStepName name) : IsStepName key := by
  by_cases hrepeated : isRepeated names name = true
  · rw [IsKeyAt, if_pos hrepeated] at h
    obtain ⟨counter, rfl, -, -⟩ := h
    refine ⟨trim_candidate hname position counter, fun hempty => ?_⟩
    have hchars := congrArg String.toList hempty
    cases counter with
    | zero => simp [candidate, toList_base] at hchars
    | succ counter => simp [candidate, toList_counted] at hchars
  · rw [IsKeyAt, if_neg hrepeated] at h
    rw [h]
    exact hname

end ResultKeys

theorem WorkflowStep.resolvedName_of_isStepName {step : WorkflowStep}
    (h : IsStepName step.name) (index : Nat) : step.resolvedName index = step.name := by
  rw [resolvedName, h.1]
  simp [String.isEmpty_iff, h.2]

/-- The keys of seats can be names of steps. -/
theorem SeatsFor.isStepName {registry : Registry ε} {names : List String} {seats : List (Seat ε)}
    (h : SeatsFor registry names seats) {seat : Seat ε} (hmem : seat ∈ seats) :
    IsStepName seat.key := by
  obtain ⟨position, hseat⟩ := List.mem_iff_getElem?.1 hmem
  have hname : names[position]? = some seat.agent.name := by
    rw [← h.names_eq, List.getElem?_map, hseat, Option.map_some]
  have hkey : (resultKeys names)[position]? = some seat.key := by
    rw [← h.keys_eq, List.getElem?_map, hseat, Option.map_some]
  have hagent : seat.agent ∈ registry.agents := List.mem_of_find?_eq_some (h.found seat hmem)
  exact (isKeyAt_resultKeys hname hkey).isStepName ⟨seat.agent.trimmed, registry.named _ hagent⟩

/-! ## One seat and one step -/

/-- The agent of a seat is still registered: it may have noted some exchanges since it took the
seat, and nothing else about it has changed. -/
def Attends (registry : Registry ε) (seat : Seat ε) : Prop :=
  ∃ exchanges, registry.find? seat.agent.name = some (seat.agent.noted exchanges)

theorem Attends.after {responder : Responder ε σ} {before after : Session ε σ}
    {exchanges : List (Exchange ε)} (hconducts : before.Conducts responder exchanges after)
    {seat : Seat ε} (h : Attends before.registry seat) : Attends after.registry seat := by
  obtain ⟨earlier, hfound⟩ := h
  refine ⟨earlier ++ exchanges, ?_⟩
  rw [hconducts.find?, hfound, Option.map_some, Agent.noted_append]

/-- A seat and its step make the same call when they show the agent the same context. -/
theorem runSeat_and_runStep (responder : Responder ε σ) {request : CoordinationRequest}
    {seat : Seat ε} {session : Session ε σ} (hattends : Attends session.registry seat)
    {base known : Context} {context : Option Context}
    (hcontext : known.overlay context = request.contextFor seat.agent.name base) :
    ∃ answer after,
      Coordination.runSeat responder request base seat session = (seat.entryOf answer, after) ∧
      Workflow.runStep responder (seat.step request.task context) known session =
        (.ofAnswer seat.agent.name answer, after) ∧
      session.Conducts responder [.ofTask seat.agent request.task
        (some (request.contextFor seat.agent.name base)) answer] after := by
  obtain ⟨earlier, hfound⟩ := hattends
  obtain ⟨after, hexecuted, hconducts⟩ := session.conducts_execute responder seat.agent
    request.task (some (request.contextFor seat.agent.name base))
  refine ⟨_, after, ?_, ?_, hconducts⟩
  · simp only [Coordination.runSeat, hexecuted]
    cases session.answerTo responder seat.agent _ <;> rfl
  · simp only [Workflow.runStep, Seat.step, Session.assign, Registry.require, hfound,
      Session.execute_noted, hcontext, hexecuted]
    cases session.answerTo responder seat.agent _ <;> rfl

/-! ## Groups of one and steps that fail fast -/

namespace Coordination

variable {responder : Responder ε σ} {request : CoordinationRequest} {base : Context}
  {limit : Nat} {sizes : List Nat} {seat : Seat ε} {seats : List (Seat ε)}
  {session middle after : Session ε σ}

/-- A seat that is alone makes its call. -/
theorem runAtOnce_singleton (responder : Responder ε σ) (request : CoordinationRequest)
    (base : Context) (limit : Nat) (seat : Seat ε) (session : Session ε σ) :
    runAtOnce responder request base limit [seat] session =
      ((runSeat responder request base seat session).1.map fun entry => [entry],
        (runSeat responder request base seat session).2) := by
  simp only [runAtOnce, runWindow]
  cases (runSeat responder request base seat session).1 <;> rfl

/-- A failure of the first group is all that happens. -/
theorem runGroups_of_error {error : OrchestrationError}
    (h : runSeat responder request base seat session = (.error error, after)) :
    runGroups responder request limit (1 :: sizes) base (seat :: seats) session =
      (.error error, after) := by
  have hfits : ¬ (seat :: seats).length < 1 := by simp
  simp only [runGroups, if_neg hfits, List.take_succ_cons, List.take_zero, runAtOnce_singleton, h,
    Except.map]

/-- The groups behind the first see its output. -/
theorem runGroups_of_ok {entry : CoordinationEntry}
    {result : Except OrchestrationError (List CoordinationEntry)}
    (h : runSeat responder request base seat session = (.ok entry, middle))
    (hrest : runGroups responder request limit sizes
      (base.insert entry.key (.text entry.output)) seats middle = (result, after)) :
    runGroups responder request limit (1 :: sizes) base (seat :: seats) session =
      (result.map (entry :: ·), after) := by
  have hfits : ¬ (seat :: seats).length < 1 := by simp
  have hbase : withOutputs base [entry] = base.insert entry.key (.text entry.output) := rfl
  simp only [runGroups, if_neg hfits, List.take_succ_cons, List.take_zero, List.drop_succ_cons,
    List.drop_zero, runAtOnce_singleton, h, Except.map, hbase, hrest]
  cases result <;> rfl

end Coordination

/-- How a chain of seats ends, in a coordinated run and in a workflow: with an entry and a success
for every exchange, up to the first that fails. -/
inductive ChainEnds : List (Seat ε) → List (Exchange ε) →
    Except OrchestrationError (List CoordinationEntry) → List StepRecord → Prop
  | done : ChainEnds [] [] (.ok []) []
  | succeeded {seat : Seat ε} {seats : List (Seat ε)} {exchange : Exchange ε}
      {exchanges : List (Exchange ε)}
      {result : Except OrchestrationError (List CoordinationEntry)} {records : List StepRecord}
      {output : String} (caller : exchange.agent = seat.agent.name)
      (answer : exchange.call.answer = .ok output)
      (later : ChainEnds seats exchanges result records) :
      ChainEnds (seat :: seats) (exchange :: exchanges)
        (result.map (⟨seat.key, seat.agent.name, output⟩ :: ·))
        (seat.record (.success output) :: records)
  | failed {seat : Seat ε} {seats : List (Seat ε)} {exchange : Exchange ε}
      {source : EndpointError} (caller : exchange.agent = seat.agent.name)
      (answer : exchange.call.answer = .error source) :
      ChainEnds (seat :: seats) [exchange] (.error (.endpoint seat.agent.name source))
        (seat.record (.failed (OrchestrationError.endpoint seat.agent.name source).toStepError) ::
          seats.map fun seat => seat.record .skipped)

/-- A step for a seat is recorded under the key of the seat. -/
theorem Seat.resolvedName_step {seat : Seat ε} (hkey : IsStepName seat.key) (task : String)
    (context : Option Context) (index : Nat) :
    (seat.step task context).resolvedName index = seat.key := by
  rw [← seat.name_step task context] at hkey
  rw [WorkflowStep.resolvedName_of_isStepName hkey, seat.name_step]

/-- The steps of seats are skipped under the keys of the seats. -/
theorem Workflow.skipSteps_seats {seats : List (Seat ε)}
    (hnames : ∀ seat ∈ seats, IsStepName seat.key) (runId : RunId) (index : Nat) (task : String)
    (context : Option Context) (listener : Listener) :
    (skipSteps runId index (seats.map (Seat.step task context)) listener).1 =
      seats.map fun seat => seat.record .skipped := by
  induction seats generalizing index listener with
  | nil => rfl
  | cons seat rest ih =>
      obtain ⟨hseat, hrest⟩ := List.forall_mem_cons.1 hnames
      rw [List.map_cons, skipSteps, List.map_cons, Seat.resolvedName_step hseat, ih hrest]
      rfl

/-- Groups of one and steps that fail fast go together. The context that the groups have filled is
what the steps know, with the context that they declare on top. -/
theorem runGroups_and_runSteps (responder : Responder ε σ) (request : CoordinationRequest)
    (hcontexts : request.agentContexts = ∅) {context : Option Context} (limit : Nat)
    (runId : RunId) (index : Nat) {seats : List (Seat ε)} {base known : Context}
    (listener : Listener) {session : Session ε σ}
    (hattends : ∀ seat ∈ seats, Attends session.registry seat)
    (hnames : ∀ seat ∈ seats, IsStepName seat.key)
    (hopen : ∀ seat ∈ seats, context.bind (·.get? seat.key) = none)
    (hknown : known.overlay context = base) :
    ∃ result after exchanges records heard,
      Coordination.runGroups responder request limit (seats.map fun _ => 1) base seats session =
        (result, after) ∧
      Workflow.runSteps responder true runId index (seats.map (Seat.step request.task context))
        known listener session = ⟨records, heard, after⟩ ∧
      session.Conducts responder exchanges after ∧ ChainEnds seats exchanges result records := by
  induction seats generalizing index base known listener session with
  | nil => exact ⟨_, _, _, _, _, rfl, rfl, .refl session, .done⟩
  | cons seat rest ih =>
      obtain ⟨hseat, hattends⟩ := List.forall_mem_cons.1 hattends
      obtain ⟨hkey, hnames⟩ := List.forall_mem_cons.1 hnames
      obtain ⟨hfree, hopen⟩ := List.forall_mem_cons.1 hopen
      have hcontext : known.overlay context = request.contextFor seat.agent.name base := by
        rw [CoordinationRequest.contextFor, hcontexts]
        exact hknown
      obtain ⟨answer, middle, hran, hstep, hconducts⟩ :=
        runSeat_and_runStep responder hseat hcontext
      simp only [List.map_cons, Workflow.runSteps, hstep, Seat.resolvedName_step hkey]
      cases answer with
      | error source =>
          refine ⟨_, _, _, _, _, Coordination.runGroups_of_error hran, rfl, hconducts, ?_⟩
          rw [Workflow.skipSteps_seats hnames]
          exact .failed rfl rfl
      | ok output =>
          -- The output goes into both contexts under a key that the declared context leaves open.
          have hlearned : Context.overlay (known.insert seat.key (.text output)) context =
              base.insert seat.key (.text output) := by
            rw [Context.overlay_insert known hfree, hknown]
          obtain ⟨result, after, exchanges, records, heard, hgroups, hsteps, hlater, hends⟩ :=
            ih (index + 1)
              ((listener.tell (.stepStarted runId index seat.key seat.agent.name)).tell
                (.stepFinished runId index seat.key (.success output)))
              (fun other hother => (hattends other hother).after hconducts) hnames
              hopen hlearned
          refine ⟨_, _, _, _, heard, Coordination.runGroups_of_ok hran hgroups, ?_,
            hconducts.trans hlater, .succeeded rfl rfl hends⟩
          have hgoes : ¬ (true && (StepOutcome.success output).isFailed) = true :=
            Bool.false_ne_true
          rw [StepOutcome.ofAnswer, if_neg hgoes, Workflow.learn]
          simp only [Seat.agent_step, hsteps]
          rfl

/-! ## What the two runs come to -/

namespace ChainEnds

variable {seats : List (Seat ε)} {exchanges : List (Exchange ε)}
  {result : Except OrchestrationError (List CoordinationEntry)} {records : List StepRecord}

/-- Every step is recorded under the key and with the agent of its seat. -/
theorem map_records {β : Type} (h : ChainEnds seats exchanges result records)
    (f : String → String → β) :
    (records.map fun record => f record.name record.agent) =
      seats.map fun seat => f seat.key seat.agent.name := by
  induction h with
  | done => rfl
  | succeeded _ _ _ ih => rw [List.map_cons, List.map_cons, ih, Seat.record]
  | failed _ _ => simp [Seat.record]

/-- The agents of the first seats make the exchanges. -/
theorem callers (h : ChainEnds seats exchanges result records) :
    exchanges.map Exchange.agent <+: seats.map (·.agent.name) := by
  induction h with
  | done => exact List.prefix_rfl
  | succeeded caller _ _ ih =>
      rw [List.map_cons, List.map_cons, caller]
      exact (List.prefix_cons_inj _).2 ih
  | failed caller _ =>
      rw [List.map_cons, List.map_cons, caller]
      exact (List.prefix_cons_inj _).2 List.nil_prefix

/-- A run that succeeds has the answers as its outputs, and the steps have them as their values. -/
theorem of_ok (h : ChainEnds seats exchanges result records) {entries : List CoordinationEntry}
    (hok : result = .ok entries) :
    exchanges.map (·.call.answer) = entries.map (fun entry => .ok entry.output) ∧
      records.map StepRecord.outcome = entries.map fun entry => .success entry.output := by
  induction h generalizing entries with
  | done =>
      obtain rfl : [] = entries := Except.ok.inj hok
      exact ⟨rfl, rfl⟩
  | @succeeded seat seats exchange exchanges result records output _ answer _ ih =>
      cases result with
      | error error => simp [Except.map] at hok
      | ok others =>
          obtain rfl : ⟨seat.key, seat.agent.name, output⟩ :: others = entries :=
            Except.ok.inj hok
          obtain ⟨hanswers, houtcomes⟩ := ih rfl
          constructor
          · rw [List.map_cons, answer, hanswers]
            rfl
          · rw [List.map_cons, houtcomes]
            rfl
  | failed _ _ => simp at hok

/-- A run that fails stops at the first call that fails, as the steps do. -/
theorem of_error (h : ChainEnds seats exchanges result records) {error : OrchestrationError}
    (herror : result = .error error) :
    ∃ outputs : List String, ∃ name source,
      (seats.map (·.agent.name))[outputs.length]? = some name ∧ error = .endpoint name source ∧
      exchanges.map (·.call.answer) = outputs.map .ok ++ [.error source] ∧
      records.map StepRecord.outcome = outputs.map .success ++ .failed error.toStepError ::
        List.replicate (seats.length - (outputs.length + 1)) .skipped := by
  induction h with
  | done => simp at herror
  | @succeeded seat seats exchange exchanges result records output _ answer _ ih =>
      cases result with
      | ok others => simp [Except.map] at herror
      | error source =>
          obtain rfl : source = error := Except.error.inj herror
          obtain ⟨outputs, name, source, hname, herror, hanswers, houtcomes⟩ := ih rfl
          refine ⟨output :: outputs, name, source, hname, herror, ?_, ?_⟩
          · rw [List.map_cons, answer, hanswers]
            rfl
          · rw [List.map_cons, houtcomes, List.length_cons, List.length_cons,
              Nat.add_sub_add_right]
            rfl
  | @failed seat seats exchange source _ answer =>
      obtain rfl := Except.error.inj herror
      refine ⟨[], seat.agent.name, source, rfl, rfl, ?_, ?_⟩
      · rw [List.map_cons, answer]
        rfl
      · simp [Seat.record, Function.comp_def, List.map_const']

end ChainEnds

/-- How a coordinated chain of agents and the workflow of the same steps agree when both come down
to the same exchanges. -/
structure ChainAgrees (names : List String) (exchanges : List (Exchange ε))
    (result : Except OrchestrationError CoordinationReport) (steps : List StepRecord) :
    Prop where
  names_eq : steps.map StepRecord.name = resultKeys names
  agents_eq : steps.map StepRecord.agent = names
  callers : exchanges.map Exchange.agent <+: names
  succeeds : ∀ report, result = .ok report →
    exchanges.map (·.call.answer) = report.entries.map (fun entry => .ok entry.output) ∧
    steps.map StepRecord.outcome = report.entries.map fun entry => .success entry.output
  fails : ∀ error, result = .error error → ∃ outputs : List String, ∃ name source,
    names[outputs.length]? = some name ∧ error = .endpoint name source ∧
    exchanges.map (·.call.answer) = outputs.map .ok ++ [.error source] ∧
    steps.map StepRecord.outcome = outputs.map .success ++ .failed ⟨.endpoint, error.message⟩ ::
      List.replicate (names.length - (outputs.length + 1)) .skipped

/-- Chains of seats that end in one way agree. -/
theorem ChainEnds.agrees {registry : Registry ε} {names : List String} {seats : List (Seat ε)}
    (hseats : SeatsFor registry names seats) {exchanges : List (Exchange ε)}
    {result : Except OrchestrationError (List CoordinationEntry)} {records : List StepRecord}
    (h : ChainEnds seats exchanges result records) (strategy : Strategy) (task : String) :
    ChainAgrees names exchanges (result.map fun entries => ⟨strategy, task, entries⟩)
      records where
  names_eq := (h.map_records fun name _ => name).trans hseats.keys_eq
  agents_eq := (h.map_records fun _ agent => agent).trans hseats.names_eq
  callers := hseats.names_eq ▸ h.callers
  succeeds report hreport := by
    cases result with
    | error error => simp [Except.map] at hreport
    | ok entries =>
        obtain rfl : ⟨strategy, task, entries⟩ = report := Except.ok.inj hreport
        exact h.of_ok rfl
  fails error herror := by
    cases result with
    | ok entries => simp [Except.map] at herror
    | error source =>
        obtain rfl : source = error := Except.error.inj herror
        obtain ⟨outputs, name, source, hname, rfl, hanswers, houtcomes⟩ := h.of_error rfl
        rw [hseats.names_eq] at hname
        rw [hseats.length] at houtcomes
        exact ⟨outputs, name, source, hname, rfl, hanswers, houtcomes⟩

/-- The steps of a chain are those for its seats. -/
theorem SeatsFor.chain_steps {registry : Registry ε} {names : List String}
    {seats : List (Seat ε)} (h : SeatsFor registry names seats) (name description task : String)
    (context : Option Context) :
    (Workflow.chain name description task names context).steps =
      seats.map (Seat.step task context) := by
  rw [Workflow.chain, ← h.keys_eq, ← h.names_eq, List.zipWith_map, List.zipWith_self]
  rfl

/-- The steps for seats are named by their keys. -/
theorem Workflow.namesFrom_seats {seats : List (Seat ε)}
    (hnames : ∀ seat ∈ seats, IsStepName seat.key) (index : Nat) (task : String)
    (context : Option Context) :
    namesFrom index (seats.map (Seat.step task context)) = seats.map Seat.key := by
  induction seats generalizing index with
  | nil => rfl
  | cons seat rest ih =>
      obtain ⟨hseat, hrest⟩ := List.forall_mem_cons.1 hnames
      rw [List.map_cons, namesFrom, List.map_cons, Seat.resolvedName_step hseat, ih hrest]

/-- The steps of a chain have the keys of the results as their names. -/
theorem SeatsFor.chain_stepNames {registry : Registry ε} {names : List String}
    {seats : List (Seat ε)} (h : SeatsFor registry names seats) (name description task : String)
    (context : Option Context) :
    (Workflow.chain name description task names context).stepNames = resultKeys names := by
  rw [Workflow.stepNames, h.chain_steps, Workflow.namesFrom_seats fun seat hmem =>
    h.isStepName hmem, h.keys_eq]

/-- The groups of a chain have one agent each. -/
theorem CoordinationRequest.groupSizes_chain (task : String) (names : List String)
    (context : Option Context) :
    (CoordinationRequest.chain task names context).groupSizes = .ok (names.map fun _ => 1) := by
  have hfull : ∀ group ∈ names.map fun name => [name], group ≠ [] := by simp
  have hflatten : (names.map fun name => [name]).flatten = names := by
    rw [← List.flatMap_def, List.flatMap_singleton']
  rw [groupSizes_of_flatten rfl hfull hflatten, List.map_map]
  rfl

namespace Session

/-- A coordinated chain of agents and a workflow that fails fast, with a step for each of them,
make the same calls and leave the same session, when the context hides no result. If the chain
succeeds, so do all steps, with its outputs; if it fails at one agent, the steps before succeed,
the step of that agent fails with the same error, and all steps behind it are skipped. -/
theorem coordinate_chain_agrees (responder : Responder ε σ) (session : Session ε σ)
    {names : List String} (hsome : names ≠ [])
    (hregistered : ∀ name ∈ names, (session.registry.find? name).isSome = true)
    {context : Option Context}
    (hopen : ∀ key ∈ resultKeys names, context.bind (·.get? key) = none)
    (name description task : String) (stamp : RunStamp) (listener : Listener) :
    ∃ result after report heard exchanges,
      session.coordinate responder (.chain task names context) = (result, after) ∧
      (Workflow.chain name description task names context).run responder stamp listener session =
        (.ok report, heard, after) ∧
      session.Conducts responder exchanges after ∧
      ChainAgrees names exchanges result report.steps := by
  obtain ⟨taken, htaken, hseats⟩ := exists_seats hsome hregistered
  have hnames : ∀ seat ∈ taken, IsStepName seat.key :=
    fun seat hmem => hseats.isStepName hmem
  have hkeys : ∀ seat ∈ taken, context.bind (·.get? seat.key) = none := fun seat hmem =>
    hopen seat.key (hseats.keys_eq ▸ List.mem_map_of_mem hmem)
  have hattends : ∀ seat ∈ taken, Attends session.registry seat := fun seat hmem =>
    ⟨[], hseats.found seat hmem⟩
  let workflow := Workflow.chain name description task names context
  have hsteps : workflow.steps = taken.map (Seat.step task context) :=
    hseats.chain_steps name description task context
  have hdistinct : workflow.stepNames.Nodup := by
    rw [hseats.chain_stepNames]
    exact nodup_resultKeys names
  obtain ⟨result, after, exchanges, records, heard, hgroups, hran, hconducts, hends⟩ :=
    runGroups_and_runSteps responder (.chain task names context) rfl
      session.parallelLimit stamp.runId 0
      (listener.tell (.workflowStarted stamp.runId name workflow.steps.length)) hattends hnames
      hkeys (Context.empty_overlay context)
  have hsizes : names.map (fun _ => 1) = taken.map fun _ => 1 := by
    rw [← hseats.names_eq, List.map_map]
    rfl
  have hcoordinated : Coordination.run responder (.chain task names context)
      session.parallelLimit taken session = (result, after) := by
    rw [Coordination.run, CoordinationRequest.groupSizes_chain, hsizes]
    exact hgroups
  have hprogress : workflow.progress responder stamp listener session =
      ⟨records, heard, after⟩ := by
    rw [hsteps] at hran
    rw [Workflow.progress, hsteps]
    exact hran
  have hrun := Workflow.run_of_nodup responder hdistinct stamp listener session
  rw [hprogress] at hrun
  exact ⟨_, after, workflow.reportOf stamp records, _, exchanges,
    coordinate_of_run htaken hcoordinated, hrun, hconducts, hends.agrees hseats _ _⟩

/-- Two agents, none of which has been called. -/
def uncalledPair : Session Unit Nat :=
  ["a", "b"].foldl (fun session name => (session.addAgent name "" "" none).2) (.start () 0)

/-- A context whose one name is that of an agent, and not the key of a result. -/
def sharedNote : Context := Dictionary.ofList [("a", .text "note")]

/-- An endpoint that counts its calls and does not answer the second. -/
def losesSecond : Responder Unit Nat :=
  fun _ _ _ count => (if count = 1 then .error (.timeout 30) else .ok "done", count + 1)

/-- The second of three calls gets no answer: the coordinated chain fails there, and the workflow
skips its third step. -/
theorem coordinate_chain_agrees_broken :
    (∀ name ∈ ["a", "b", "a"], (uncalledPair.registry.find? name).isSome = true) ∧
    (∀ key ∈ resultKeys ["a", "b", "a"], (some sharedNote).bind (·.get? key) = none) ∧
    ∃ result after report heard exchanges,
      uncalledPair.coordinate losesSecond
        (.chain "Review" ["a", "b", "a"] (some sharedNote)) = (result, after) ∧
      (Workflow.chain "reviews" "" "Review" ["a", "b", "a"] (some sharedNote)).run losesSecond
        ⟨default, default, default⟩ .absent uncalledPair = (.ok report, heard, after) ∧
      uncalledPair.Conducts losesSecond exchanges after ∧
      result = .error (.endpoint "b" (.timeout 30)) ∧
      report.steps.map StepRecord.name = ["a#0", "b", "a#2"] ∧
      ∃ value, report.steps.map StepRecord.outcome = [.success value, .failed ⟨.endpoint,
        "Endpoint call failed for agent 'b': Request timed out after 30s"⟩, .skipped] := by
  have hregistered : ∀ name ∈ ["a", "b", "a"],
      (uncalledPair.registry.find? name).isSome = true := by decide
  have hopen : ∀ key ∈ resultKeys ["a", "b", "a"],
      (some sharedNote).bind (·.get? key) = none := by decide
  have hgenerated : resultKeys ["a", "b", "a"] = ["a#0", "b", "a#2"] := by decide
  obtain ⟨result, after, report, heard, exchanges, hcoordinated, hran, hconducts, hagrees⟩ :=
    coordinate_chain_agrees losesSecond uncalledPair (List.cons_ne_nil _ _) hregistered hopen
      "reviews" "" "Review" ⟨default, default, default⟩ .absent
  have hresult : result = .error (.endpoint "b" (.timeout 30)) :=
    (congrArg Prod.fst hcoordinated).symm
  obtain ⟨outputs, name, source, hname, herror, -, houtcomes⟩ := hagrees.fails _ hresult
  obtain ⟨rfl, rfl⟩ := OrchestrationError.endpoint.inj herror
  have hone : ∃ value, outputs = [value] := by
    match outputs with
    | [] => simp at hname
    | [value] => exact ⟨value, rfl⟩
    | [_, _] => simp at hname
    | _ :: _ :: _ :: _ => simp at hname
  obtain ⟨value, rfl⟩ := hone
  exact ⟨hregistered, hopen, result, after, report, heard, exchanges, hcoordinated, hran,
    hconducts, hresult, hagrees.names_eq.trans hgenerated, value, houtcomes⟩

end Session

end Ensemble
