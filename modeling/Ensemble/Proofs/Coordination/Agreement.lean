/-
# When nothing flows between agents

Agents that run one after another with the shared context, all at once, or as the only group of a
hybrid run see nothing of each other's outputs. When endpoints answer by the prompt alone, the
three strategies come to the same: the outputs in the order of the agents, or the error of the
first agent in that order whose call fails. Neither the limit on calls under way nor the order in
which they finish has a say in it.
-/

import Ensemble.Proofs.Coordination.Alignment
import Ensemble.Proofs.Coordination.Schedule

namespace Ensemble

variable {ε σ : Type}

namespace Coordination

variable {responder : Responder ε σ}
  {answer : ε → String → Option (List UInt8) → Except EndpointError String}

/-! ## One result for all strategies -/

/-- A seat comes to what its answer makes of it. -/
theorem runSeat_of_answers (hanswers : responder.Answers answer) (request : CoordinationRequest)
    (base : Context) (seat : Seat ε) (session : Session ε σ) :
    (runSeat responder request base seat session).1 = seat.outcome answer request base := by
  rw [runSeat_eq, Seat.ask_of_answers hanswers]
  rfl

theorem runInTurn_of_answers (hanswers : responder.Answers answer)
    (request : CoordinationRequest) (base : Context) (seats : List (Seat ε))
    (session : Session ε σ) :
    (runInTurn responder request base seats session).1 =
      collect (seats.map (Seat.outcome answer request base)) := by
  induction seats generalizing session with
  | nil => rfl
  | cons seat rest ih =>
      have hseat := runSeat_of_answers hanswers request base seat session
      rw [List.map_cons, ← hseat, runInTurn]
      split
      next error after hran =>
        rw [hran]
        rfl
      next entry after hran =>
        have hrest := ih after
        rw [hran, collect, ← hrest]
        split
        next error last hlast =>
          rw [hlast]
          rfl
        next entries last hlast =>
          rw [hlast]
          rfl

theorem runAtOnce_of_answers (hanswers : responder.Answers answer)
    (request : CoordinationRequest) (base : Context) (limit : Nat) (seats : List (Seat ε))
    (session : Session ε σ) :
    (runAtOnce responder request base limit seats session).1 =
      collect (seats.map (Seat.outcome answer request base)) := by
  obtain ⟨last, hreaches, hends, -⟩ :=
    Window.leads_runAtOnce responder request base limit seats session
  exact (Window.settles hanswers request base (by omega) seats session).unique last _ hreaches
    hends

/-- A single group of all seats is a run of all seats at once. -/
theorem runGroups_whole (responder : Responder ε σ) (request : CoordinationRequest)
    (base : Context) (limit : Nat) (seats : List (Seat ε)) (session : Session ε σ) :
    runGroups responder request limit [seats.length] base seats session =
      runAtOnce responder request base limit seats session := by
  rw [runGroups, if_neg (Nat.lt_irrefl _), List.take_length]
  rcases runAtOnce responder request base limit seats session with ⟨result, after⟩
  cases result with
  | error error => rfl
  | ok entries => simp [runGroups]

/-- Whatever the strategy, a run in which nothing flows between agents collects what their seats
come to. -/
theorem run_of_answers (hanswers : responder.Answers answer) (request : CoordinationRequest)
    (hsome : request.agentNames ≠ [])
    (hwhole : request.strategy = .hybrid → request.grouping = some ⟨[request.agentNames]⟩)
    (limit : Nat) {seats : List (Seat ε)} (hfits : seats.length = request.agentNames.length)
    (session : Session ε σ) :
    (run responder request limit seats session).1 =
      collect (seats.map (Seat.outcome answer request request.sharedContext)) := by
  rw [run]
  split
  next => exact runInTurn_of_answers hanswers _ _ _ _
  next => exact runAtOnce_of_answers hanswers _ _ _ _ _
  next hhybrid =>
    have hsizes : request.groupSizes = .ok [seats.length] := by
      rw [request.groupSizes_of_flatten (hwhole hhybrid) (by simpa using hsome) (by simp), hfits]
      rfl
    rw [hsizes]
    simp only [runGroups_whole]
    exact runAtOnce_of_answers hanswers _ _ _ _ _

/-! ## What the result is -/

variable {seats : List (Seat ε)} {answerOf : Seat ε → Except EndpointError String}

/-- Seats that come to entries were all answered. -/
theorem collect_entryOf_ok {entries : List CoordinationEntry}
    (h : collect (seats.map fun seat => seat.entryOf (answerOf seat)) = .ok entries) :
    entries.map CoordinationEntry.key = seats.map Seat.key ∧
      entries.map CoordinationEntry.agent = seats.map (·.agent.name) ∧
      seats.map answerOf = entries.map fun entry => .ok entry.output := by
  induction seats generalizing entries with
  | nil =>
      obtain rfl : [] = entries := Except.ok.inj h
      exact ⟨rfl, rfl, rfl⟩
  | cons seat rest ih =>
      rw [List.map_cons] at h
      cases hanswer : answerOf seat with
      | error source => simp [hanswer, Seat.entryOf, collect] at h
      | ok output =>
          rw [hanswer, Seat.entryOf, collect] at h
          cases hrest : collect (rest.map fun seat => seat.entryOf (answerOf seat)) with
          | error error => simp [hrest, Except.map] at h
          | ok others =>
              rw [hrest] at h
              obtain rfl : ⟨seat.key, seat.agent.name, output⟩ :: others = entries :=
                Except.ok.inj h
              obtain ⟨hkeys, hagents, hanswers⟩ := ih hrest
              simp only [List.map_cons, hkeys, hagents, hanswers, hanswer, and_self]

/-- Seats that come to an error come to that of the first one that was not answered. -/
theorem collect_entryOf_error {error : OrchestrationError}
    (h : collect (seats.map fun seat => seat.entryOf (answerOf seat)) = .error error) :
    ∃ outputs : List String, ∃ name source,
      (seats.map (·.agent.name))[outputs.length]? = some name ∧ error = .endpoint name source ∧
      (seats.map answerOf).take (outputs.length + 1) = outputs.map .ok ++ [.error source] := by
  induction seats with
  | nil => simp [collect] at h
  | cons seat rest ih =>
      rw [List.map_cons] at h
      cases hanswer : answerOf seat with
      | error source =>
          rw [hanswer, Seat.entryOf, collect] at h
          obtain rfl := Except.error.inj h
          exact ⟨[], seat.agent.name, source, rfl, rfl, by simp [hanswer]⟩
      | ok output =>
          rw [hanswer, Seat.entryOf, collect] at h
          cases hrest : collect (rest.map fun seat => seat.entryOf (answerOf seat)) with
          | ok others => simp [hrest, Except.map] at h
          | error error' =>
              rw [hrest] at h
              obtain rfl : error' = error := Except.error.inj h
              obtain ⟨outputs, name, source, hname, herror, hanswers⟩ := ih hrest
              exact ⟨output :: outputs, name, source, hname, herror, by simp [hanswer, hanswers]⟩

end Coordination

/-- A result that is decided by the answers to agents of some names, in their order: the outputs,
or the error of the first one whose call fails. -/
structure FirstFailureDecides (names : List String) (answers : List (Except EndpointError String))
    (result : Except OrchestrationError (List CoordinationEntry)) : Prop where
  succeeds : ∀ entries, result = .ok entries →
    entries.map CoordinationEntry.key = resultKeys names ∧
    entries.map CoordinationEntry.agent = names ∧
    answers = entries.map fun entry => .ok entry.output
  fails : ∀ error, result = .error error → ∃ outputs : List String, ∃ name source,
    names[outputs.length]? = some name ∧ error = .endpoint name source ∧
    answers.take (outputs.length + 1) = outputs.map .ok ++ [.error source]

theorem firstFailureDecides_collect {registry : Registry ε} {names : List String}
    {seats : List (Seat ε)} (hseats : SeatsFor registry names seats)
    (answerOf : Seat ε → Except EndpointError String) :
    FirstFailureDecides names (seats.map answerOf)
      (Coordination.collect (seats.map fun seat => seat.entryOf (answerOf seat))) where
  succeeds entries hentries := by
    obtain ⟨hkeys, hagents, hanswers⟩ := Coordination.collect_entryOf_ok hentries
    exact ⟨hkeys.trans hseats.keys_eq, hagents.trans hseats.names_eq, hanswers⟩
  fails error herror := hseats.names_eq ▸ Coordination.collect_entryOf_error herror

namespace Session

/-- When endpoints answer by the prompt alone and nothing flows between agents, the strategies come
to the same entries or the same error, which is that of the first agent in the order of the
request whose call fails. No limit, not even zero, and no order in which calls finish changes
that. -/
theorem coordinate_strategies_agree {responder : Responder ε σ}
    {answer : ε → String → Option (List UInt8) → Except EndpointError String}
    (hanswers : responder.Answers answer) (session : Session ε σ) (request : CoordinationRequest)
    (hsome : request.agentNames ≠ [])
    (hregistered : ∀ name ∈ request.agentNames, (session.registry.find? name).isSome = true) :
    ∃ taken result, SeatsFor session.registry request.agentNames taken ∧
      FirstFailureDecides request.agentNames
        (taken.map (Seat.answer answer request request.sharedContext)) result ∧
      (∀ limit strategy grouping,
        (strategy = .hybrid → grouping = some ⟨[request.agentNames]⟩) → ∃ after,
        ({ session with parallelLimit := limit } : Session ε σ).coordinate responder
            { request with strategy := strategy, grouping := grouping } =
          (result.map fun entries => ⟨strategy, request.task, entries⟩, after)) ∧
      ∀ limit, (Window.opening taken session).Settles responder request request.sharedContext
        (max limit 1) result := by
  obtain ⟨taken, htaken, hseats⟩ := exists_seats hsome hregistered
  refine ⟨taken, _, hseats, firstFailureDecides_collect hseats _, ?_,
    fun limit => Window.settles hanswers _ _ (by omega) _ _⟩
  intro limit strategy grouping hwhole
  have hrun := Coordination.run_of_answers hanswers
    { request with strategy := strategy, grouping := grouping } hsome hwhole limit
    hseats.length { session with parallelLimit := limit }
  exact ⟨_, coordinate_of_run htaken (Prod.ext hrun rfl)⟩

/-- Three agents, of which only the first has an endpoint that is up. -/
def oneWorking : Session String Unit :=
  [("a", "up"), ("b", "down"), ("c", "down")].foldl
    (fun session agent => (session.addAgent agent.1 "" "" (some agent.2)).2) (.start "up" ())

/-- Only the endpoint that is up answers. -/
def answerOfUp (endpoint : String) (_ : String) (_ : Option (List UInt8)) :
    Except EndpointError String :=
  if endpoint = "up" then .ok "done" else .error (.timeout 30)

/-- Endpoints of which only one is up, without a state. -/
def onlyUp : Responder String Unit :=
  fun endpoint prompt image world => (answerOfUp endpoint prompt image, world)

/-- Two of three agents get no answer. All strategies report the first of them, also when zero
calls may be under way, and so does every schedule. -/
theorem coordinate_strategies_agree_oneWorking :
    (∀ name ∈ ["a", "b", "c"], (oneWorking.registry.find? name).isSome = true) ∧
    ∃ taken result, SeatsFor oneWorking.registry ["a", "b", "c"] taken ∧
      result = .error (.endpoint "b" (.timeout 30)) ∧
      (∃ after, ({ oneWorking with parallelLimit := 0 } : Session String Unit).coordinate onlyUp
        (.new "Review" ["a", "b", "c"] .parallel) =
          (result.map fun entries => ⟨.parallel, "Review", entries⟩, after)) ∧
      (∃ after, ({ oneWorking with parallelLimit := 2 } : Session String Unit).coordinate onlyUp
        ((CoordinationRequest.new "Review" ["a", "b", "c"] .hybrid).withGroups [["a", "b", "c"]]) =
          (result.map fun entries => ⟨.hybrid, "Review", entries⟩, after)) ∧
      (Window.opening taken oneWorking).Settles onlyUp
        (.new "Review" ["a", "b", "c"] .sequential) ∅ 1 result := by
  have hregistered : ∀ name ∈ ["a", "b", "c"],
      (oneWorking.registry.find? name).isSome = true := by decide
  have hanswers : onlyUp.Answers answerOfUp := fun _ _ _ _ => rfl
  obtain ⟨taken, result, hseats, -, hagree, hsettles⟩ := coordinate_strategies_agree hanswers
    oneWorking (.new "Review" ["a", "b", "c"] .sequential) (List.cons_ne_nil _ _) hregistered
  have hresult : result = .error (.endpoint "b" (.timeout 30)) := by
    obtain ⟨after, hran⟩ := hagree 4 .sequential none (by decide)
    have hfirst : result.map (fun entries => (⟨.sequential, "Review", entries⟩ :
        CoordinationReport)) = .error (.endpoint "b" (.timeout 30)) :=
      (congrArg Prod.fst hran).symm
    cases result with
    | ok entries => simp [Except.map] at hfirst
    | error error => exact congrArg _ (Except.error.inj hfirst)
  exact ⟨hregistered, taken, result, hseats, hresult, hagree 0 .parallel none (by decide),
    hagree 2 .hybrid (some ⟨[["a", "b", "c"]]⟩) (fun _ => rfl), hsettles 0⟩

end Session

end Ensemble
