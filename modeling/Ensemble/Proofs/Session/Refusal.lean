/-
# Mistakes are refused before anything happens

To name an agent that is not registered, or to ask for something that does not hold together, is a
mistake of the caller, unlike a call that fails. All activities of a session find out before they
make their first call: nobody is called or told anything, and the session stays as it is. A request
for several agents names the first one that is missing, whatever else may be wrong with it.
-/

import Ensemble.Proofs.Agent.Registry
import Ensemble.Proofs.Coordination.Failure
import Ensemble.Workflow.Run

namespace Ensemble

variable {ε σ : Type}

namespace OrchestrationError

/-- An error that is the caller's. -/
def IsMistake (error : OrchestrationError) : Prop :=
  error.kind = .agentNotFound ∨ error.kind = .invalidStrategy

/-- A call that failed is nobody's mistake. -/
theorem IsFailedCall.not_isMistake {error : OrchestrationError} (h : error.IsFailedCall) :
    ¬ error.IsMistake := by
  obtain ⟨agent, source, rfl⟩ := h
  rintro (hmissing | hinvalid)
  · exact ErrorKind.noConfusion hmissing
  · exact ErrorKind.noConfusion hinvalid

end OrchestrationError

/-! ## Agents that are missing -/

namespace Registry

/-- The first of some names that no agent has. -/
def firstMissing? (registry : Registry ε) (names : List String) : Option String :=
  names.find? fun name => !registry.has name

theorem firstMissing?_cons_of_some {registry : Registry ε} {name : String} {agent : Agent ε}
    (h : registry.find? name = some agent) (rest : List String) :
    registry.firstMissing? (name :: rest) = registry.firstMissing? rest := by
  apply List.find?_cons_of_neg
  simp [has_eq_isSome, h]

theorem firstMissing?_cons_of_none {registry : Registry ε} {name : String}
    (h : registry.find? name = none) (rest : List String) :
    registry.firstMissing? (name :: rest) = some name := by
  apply List.find?_cons_of_pos
  simp [has_eq_isSome, h]

/-- To require an agent that is missing is a mistake. -/
theorem require_isMistake {registry : Registry ε} {name : String} {error : OrchestrationError}
    (h : registry.require name = .error error) : error.IsMistake := by
  rw [require] at h
  split at h
  next => simp at h
  next =>
    obtain rfl := Except.error.inj h
    exact Or.inl rfl

end Registry

namespace Session

/-- Seats cannot be taken exactly when an agent is missing, and the error names the first. -/
theorem takeSeats_eq_error_iff {registry : Registry ε} {pairs : List (String × String)}
    {error : OrchestrationError} :
    takeSeats registry pairs = .error error ↔
      ∃ name, registry.firstMissing? (pairs.map Prod.fst) = some name ∧
        error = .agentNotFound name := by
  induction pairs with
  | nil => simp [takeSeats, Registry.firstMissing?]
  | cons pair rest ih =>
      rw [takeSeats, List.map_cons]
      cases hfind : registry.find? pair.1 with
      | none =>
          simp only [Registry.require, hfind, Registry.firstMissing?_cons_of_none hfind,
            Except.error.injEq, Option.some.injEq, exists_eq_left']
          exact eq_comm
      | some agent =>
          simp only [Registry.require, hfind, Registry.firstMissing?_cons_of_some hfind]
          rw [← ih]
          cases takeSeats registry rest <;> simp [Except.map]

theorem seats_eq_error_iff {registry : Registry ε} {names : List String} (hsome : names ≠ [])
    {error : OrchestrationError} :
    seats registry names = .error error ↔
      ∃ name, registry.firstMissing? names = some name ∧ error = .agentNotFound name := by
  have hnames : (names.zip (resultKeys names)).map Prod.fst = names :=
    List.map_fst_zip (Nat.le_of_eq (length_resultKeys names).symm)
  rw [seats, if_neg (by simpa using hsome), takeSeats_eq_error_iff, hnames]

/-- When there are no seats, the caller made a mistake. -/
theorem seats_isMistake {registry : Registry ε} {names : List String} {error : OrchestrationError}
    (h : seats registry names = .error error) : error.IsMistake := by
  by_cases hnil : names = []
  · subst hnil
    obtain rfl : .invalidStrategy noAgents = error := Except.error.inj h
    exact Or.inr rfl
  · obtain ⟨name, -, rfl⟩ := (seats_eq_error_iff hnil).1 h
    exact Or.inl rfl

end Session

/-- Groups that do not fit are an invalid strategy. -/
theorem CoordinationRequest.groupSizes_error {request : CoordinationRequest}
    {error : OrchestrationError} (h : request.groupSizes = .error error) :
    ∃ reason, error = .invalidStrategy reason := by
  rw [groupSizes] at h
  split at h
  next => simp at h
  next =>
    split at h
    next => exact ⟨_, (Except.error.inj h).symm⟩
    next =>
      split at h
      next => simp at h
      next => exact ⟨_, (Except.error.inj h).symm⟩

/-! ## What collaborations come to -/

/-- What comes of contributions when the call to combine them gets an answer. -/
def Collaboration.ofAnswer (contributions : CoordinationReport) (synthesizer : String) :
    Except EndpointError String → Except OrchestrationError Collaboration
  | .ok synthesis => .ok ⟨contributions, synthesizer, synthesis⟩
  | .error source => .error (.synthesisFailed synthesizer contributions source)

theorem Collaboration.ofAnswer_inj {contributions others : CoordinationReport}
    {name other : String} {answer given : Except EndpointError String}
    (h : ofAnswer contributions name answer = ofAnswer others other given) :
    contributions = others ∧ name = other ∧ answer = given := by
  cases answer <;> cases given <;> simp_all [ofAnswer]

/-- A synthesis that failed is neither the caller's mistake nor a contributor's failed call. -/
theorem Collaboration.ofAnswer_ne_error {error : OrchestrationError}
    (h : error.IsMistake ∨ error.IsFailedCall) (contributions : CoordinationReport)
    (name : String) (answer : Except EndpointError String) :
    ofAnswer contributions name answer ≠ .error error := by
  intro hanswer
  cases answer with
  | ok synthesis => simp [ofAnswer] at hanswer
  | error source =>
      obtain rfl := Except.error.inj hanswer
      rcases h with (hmissing | hinvalid) | ⟨agent, other, hcall⟩
      · exact ErrorKind.noConfusion hmissing
      · exact ErrorKind.noConfusion hinvalid
      · exact OrchestrationError.noConfusion hcall

namespace Session

variable {responder : Responder ε σ} {task : String} {names : List String}
  {context : Option Context} {synthesizer : Option String} {combiner : Agent ε}
  {session middle after : Session ε σ} {contributions : CoordinationReport}
  {error : OrchestrationError}

/-- When there is no agent to combine the contributions, the caller made a mistake. -/
theorem synthesizerOf_isMistake {registry : Registry ε}
    (h : synthesizerOf registry names synthesizer = .error error) : error.IsMistake := by
  cases synthesizer with
  | some name => exact Registry.require_isMistake h
  | none =>
      cases names with
      | nil =>
          obtain rfl : .invalidStrategy noAgents = error := Except.error.inj h
          exact Or.inr rfl
      | cons name rest => exact Registry.require_isMistake h

/-- Without an agent to combine the contributions nothing happens. -/
theorem collaborate_of_unchosen
    (h : synthesizerOf session.registry names synthesizer = .error error) :
    session.collaborate responder task names context synthesizer = (.error error, session) := by
  simp only [collaborate, h]

/-- When the contributions fail, nobody is asked to combine them. -/
theorem collaborate_of_error
    (hchosen : synthesizerOf session.registry names synthesizer = .ok combiner)
    (h : session.coordinate responder (collaborationRequest task names context) =
      (.error error, after)) :
    session.collaborate responder task names context synthesizer = (.error error, after) := by
  simp only [collaborate, hchosen, h]

/-- When all have contributed, one agent is asked once to combine the contributions, and they are
kept whatever it answers. -/
theorem collaborate_of_ok
    (hchosen : synthesizerOf session.registry names synthesizer = .ok combiner)
    (h : session.coordinate responder (collaborationRequest task names context) =
      (.ok contributions, middle)) :
    ∃ answer after,
      middle.Conducts responder
        [.ofTask combiner (synthesisTask task contributions) context answer] after ∧
      session.collaborate responder task names context synthesizer =
        (Collaboration.ofAnswer contributions combiner.name answer, after) := by
  obtain ⟨last, hexecuted, hconducts⟩ := middle.conducts_execute responder combiner
    (synthesisTask task contributions) context
  refine ⟨_, last, hconducts, ?_⟩
  simp only [collaborate, hchosen, h, hexecuted]
  cases middle.answerTo responder combiner _ <;> rfl

end Session

/-! ## Activities that are refused -/

namespace Session

variable {responder : Responder ε σ} {request : CoordinationRequest} {task : String}
  {names : List String} {context : Option Context} {synthesizer : Option String}
  {session after : Session ε σ} {error : OrchestrationError}

theorem execute_error {agent : Agent ε}
    (h : session.execute responder agent task context none = (.error error, after)) :
    error.IsFailedCall := by
  obtain ⟨last, hexecuted, -⟩ := session.conducts_execute responder agent task context
  rw [hexecuted] at h
  obtain ⟨hresult, -⟩ := Prod.mk.inj h
  cases hanswer : session.answerTo responder agent ⟨.task, task, task, context, none⟩ with
  | ok output => simp [hanswer, Except.mapError] at hresult
  | error source =>
      rw [hanswer] at hresult
      exact ⟨agent.name, source, (Except.error.inj hresult).symm⟩

/-- A coordinated task that fails has no seats for its agents, or its run fails. -/
theorem coordinate_unseated_or_run
    (h : session.coordinate responder request = (.error error, after)) :
    (seats session.registry request.agentNames = .error error ∧ after = session) ∨
      ∃ taken, SeatsFor session.registry request.agentNames taken ∧
        Coordination.run responder request session.parallelLimit taken session =
          (.error error, after) := by
  rw [coordinate] at h
  split at h
  next other hseats =>
    obtain ⟨herror, rfl⟩ := Prod.mk.inj h
    obtain rfl := Except.error.inj herror
    exact Or.inl ⟨hseats, rfl⟩
  next taken htaken =>
    split at h
    next other last hrun =>
      obtain ⟨herror, rfl⟩ := Prod.mk.inj h
      obtain rfl := Except.error.inj herror
      exact Or.inr ⟨taken, seats_ok htaken, hrun⟩
    next => simp at h

/-- A coordinated task fails because its agents have no seats or its groups do not fit, in which
case nothing happens, or because of a call. -/
theorem coordinate_error (h : session.coordinate responder request = (.error error, after)) :
    ((seats session.registry request.agentNames = .error error ∨
      request.groupSizes = .error error) ∧ after = session) ∨ error.IsFailedCall := by
  rcases coordinate_unseated_or_run h with ⟨hseats, hafter⟩ | ⟨taken, hseats, hrun⟩
  · exact Or.inl ⟨Or.inl hseats, hafter⟩
  · rcases Coordination.run_error hseats.length hrun with hcall | ⟨hgroups, hafter⟩
    · exact Or.inr hcall
    · exact Or.inl ⟨Or.inr hgroups, hafter⟩

/-- A coordinated task fails with a mistake of the caller or a failed call. -/
theorem coordinate_error_kind
    (h : session.coordinate responder request = (.error error, after)) :
    error.IsMistake ∨ error.IsFailedCall := by
  rcases coordinate_error h with ⟨hseats | hgroups, -⟩ | hcall
  · exact Or.inl (seats_isMistake hseats)
  · obtain ⟨reason, rfl⟩ := CoordinationRequest.groupSizes_error hgroups
    exact Or.inl (Or.inr rfl)
  · exact Or.inr hcall

theorem assign_mistake {name : String}
    (h : session.assign responder name task context = (.error error, after))
    (hmistake : error.IsMistake) : after = session := by
  rw [assign] at h
  split at h
  next => exact absurd hmistake (execute_error h).not_isMistake
  next => exact (Prod.mk.inj h).2.symm

theorem coordinate_mistake
    (h : session.coordinate responder request = (.error error, after))
    (hmistake : error.IsMistake) : after = session := by
  rcases coordinate_error h with ⟨-, hafter⟩ | hcall
  · exact hafter
  · exact absurd hmistake hcall.not_isMistake

theorem collaborate_mistake
    (h : session.collaborate responder task names context synthesizer = (.error error, after))
    (hmistake : error.IsMistake) : after = session := by
  cases hchosen : synthesizerOf session.registry names synthesizer with
  | error other =>
      rw [collaborate_of_unchosen hchosen] at h
      exact (Prod.mk.inj h).2.symm
  | ok combiner =>
      rcases hcoordinated : session.coordinate responder (collaborationRequest task names context)
        with ⟨result, middle⟩
      cases result with
      | error other =>
          rw [collaborate_of_error hchosen hcoordinated] at h
          obtain ⟨herror, rfl⟩ := Prod.mk.inj h
          obtain rfl := Except.error.inj herror
          exact coordinate_mistake hcoordinated hmistake
      | ok contributions =>
          obtain ⟨answer, last, -, hcollaborated⟩ := collaborate_of_ok hchosen hcoordinated
          rw [hcollaborated] at h
          exact absurd (Prod.mk.inj h).1
            (Collaboration.ofAnswer_ne_error (Or.inl hmistake) contributions combiner.name answer)

/-- A workflow that is refused leaves its listener and the session as they are. -/
theorem run_refused {workflow : Workflow} {stamp : RunStamp} {listener heard : Listener}
    (h : workflow.run responder stamp listener session = (.error error, heard, after)) :
    heard = listener ∧ after = session := by
  rw [Workflow.run] at h
  split at h
  next =>
    obtain ⟨-, hrest⟩ := Prod.mk.inj h
    exact ⟨(Prod.mk.inj hrest).1.symm, (Prod.mk.inj hrest).2.symm⟩
  next => simp at h

/-- A coordinated task for some agents is refused for a missing one exactly when one is missing,
and the error names the first in the order of the request. -/
theorem coordinate_agentNotFound_iff (responder : Responder ε σ) (session : Session ε σ)
    (hsome : request.agentNames ≠ []) (name : String) :
    (∃ after, session.coordinate responder request = (.error (.agentNotFound name), after)) ↔
      session.registry.firstMissing? request.agentNames = some name := by
  constructor
  · rintro ⟨after, h⟩
    rcases coordinate_error h with ⟨hseats | hgroups, -⟩ | ⟨agent, source, hcall⟩
    · obtain ⟨missing, hmissing, herror⟩ := (seats_eq_error_iff hsome).1 hseats
      rw [hmissing, OrchestrationError.agentNotFound.inj herror]
    · obtain ⟨reason, hreason⟩ := CoordinationRequest.groupSizes_error hgroups
      exact OrchestrationError.noConfusion hreason
    · exact OrchestrationError.noConfusion hcall
  · intro hmissing
    have hseats := (seats_eq_error_iff hsome).2 ⟨name, hmissing, rfl⟩
    exact ⟨session, by simp only [coordinate, hseats]⟩

/-- An activity that is refused for a mistake of the caller has called nobody, told nobody anything
and changed nothing. Of the agents that a coordinated task names and that are missing, the first is
reported, before anything else that may be wrong with the request. -/
theorem mistakes_change_nothing (responder : Responder ε σ) (session : Session ε σ) :
    (∀ name task context error after,
      session.assign responder name task context = (.error error, after) →
      error.IsMistake → after = session) ∧
    (∀ request error after, session.coordinate responder request = (.error error, after) →
      error.IsMistake → after = session) ∧
    (∀ task names context synthesizer error after,
      session.collaborate responder task names context synthesizer = (.error error, after) →
      error.IsMistake → after = session) ∧
    (∀ (workflow : Workflow) stamp listener error heard after,
      workflow.run responder stamp listener session = (.error error, heard, after) →
      error.IsMistake → heard = listener ∧ after = session) ∧
    ∀ request : CoordinationRequest, request.agentNames ≠ [] →
      (∀ name, (∃ after,
        session.coordinate responder request = (.error (.agentNotFound name), after)) ↔
        session.registry.firstMissing? request.agentNames = some name) ∧
      ∀ reason after,
        session.coordinate responder request = (.error (.invalidStrategy reason), after) →
        ∀ name ∈ request.agentNames, session.registry.has name = true := by
  refine ⟨?_, ?_, ?_, ?_, ?_⟩
  · intro name task context error after
    exact assign_mistake
  · intro request error after
    exact coordinate_mistake
  · intro task names context synthesizer error after
    exact collaborate_mistake
  · intro workflow stamp listener error heard after hran _
    exact run_refused hran
  · intro request hsome
    refine ⟨coordinate_agentNotFound_iff responder session hsome, ?_⟩
    intro reason after h name hname
    cases hmissing : session.registry.firstMissing? request.agentNames with
    | none => simpa using List.find?_eq_none.1 hmissing name hname
    | some missing =>
        obtain ⟨last, hrefused⟩ :=
          (coordinate_agentNotFound_iff responder session hsome missing).2 hmissing
        rw [h] at hrefused
        simp at hrefused

/-- A request that names two agents who are not registered and whose groups do not fit. -/
def misdirected : CoordinationRequest :=
  (CoordinationRequest.new "Review" ["a", "x", "b", "y"] .hybrid).withGroups [[], ["b"]]

/-- Two agents are missing and a group is empty: the first missing agent is reported. -/
theorem mistakes_change_nothing_misdirected :
    ∃ error after, (staffed ["a", "b"]).coordinate (fun _ _ _ _ => (.ok "done", ())) misdirected =
        (.error error, after) ∧
      error = .agentNotFound "x" ∧ error.IsMistake ∧ misdirected.agentNames ≠ [] ∧
      after = staffed ["a", "b"] ∧
      (staffed ["a", "b"]).registry.firstMissing? misdirected.agentNames = some "x" := by
  obtain ⟨-, hcoordinate, -, -, hfirst⟩ :=
    mistakes_change_nothing (fun _ _ _ _ => (.ok "done", ())) (staffed ["a", "b"])
  have hsome : misdirected.agentNames ≠ [] := List.cons_ne_nil _ _
  have hmissing : (staffed ["a", "b"]).registry.firstMissing? misdirected.agentNames =
      some "x" := by decide
  obtain ⟨after, hran⟩ := ((hfirst misdirected hsome).1 "x").2 hmissing
  have hmistake : (OrchestrationError.agentNotFound "x").IsMistake := Or.inl rfl
  exact ⟨_, after, hran, rfl, hmistake, hsome, hcoordinate _ _ _ hran hmistake, hmissing⟩

end Session

end Ensemble
