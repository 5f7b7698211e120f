/-
# Where sequential runs halt

The calls of a sequential run are known beforehand, all but their answers: each asks the agent of
its position to do the task as it was given, with the agent's own context on top of the shared one,
and with nothing of what other agents answered. Whatever the endpoints do, the run halts at the
first of these calls that fails. The answers before it are noted, one for each position, in the
histories of the agents that gave them; a history keeps the newest of its notes, so many as its cap
allows. Nothing else is left of the run.
-/

import Ensemble.Proofs.Session.Refusal

namespace Ensemble

variable {ε σ : Type}

/-! ## Exchanges that are known beforehand -/

/-- The answers of calls of which only the last one fails. -/
def failingAfter (outputs : List String) (source : EndpointError) :
    List (Except EndpointError String) :=
  outputs.map .ok ++ [.error source]

namespace CoordinationRequest

variable (request : CoordinationRequest)

/-- The exchange in which an agent does the task of a request, with its own context on top of the
shared one. -/
def exchangeOf (agent : Agent ε) (answer : Except EndpointError String) : Exchange ε :=
  .ofTask agent request.task (some (request.contextFor agent.name request.sharedContext)) answer

/-- The exchanges of the first of some agents, one for each of the given answers. -/
def exchangesInTurn (agents : List (Agent ε)) (answers : List (Except EndpointError String)) :
    List (Exchange ε) :=
  List.zipWith request.exchangeOf agents answers

/-- What the agent with a name notes of a run in which the first of some agents have the given
outputs: one entry for each position of its own. -/
def notesInTurn (names outputs : List String) (name : String) : List HistoryEntry :=
  ((names.zip outputs).filter fun done => done.1 == name).map fun done =>
    ⟨.task, request.task, done.2⟩

theorem exchangesInTurn_failing (agent : Agent ε) (rest : List (Agent ε))
    (source : EndpointError) :
    request.exchangesInTurn (agent :: rest) (failingAfter [] source) =
      [request.exchangeOf agent (.error source)] := by
  rw [exchangesInTurn, failingAfter, List.map_nil, List.nil_append, List.zipWith_cons_cons,
    List.zipWith_nil_right]

theorem exchangesInTurn_cons (agent : Agent ε) (rest : List (Agent ε)) (output : String)
    (outputs : List String) (source : EndpointError) :
    request.exchangesInTurn (agent :: rest) (failingAfter (output :: outputs) source) =
      request.exchangeOf agent (.ok output) ::
        request.exchangesInTurn rest (failingAfter outputs source) := rfl

theorem length_exchangesInTurn {agents : List (Agent ε)} {outputs : List String}
    (h : outputs.length < agents.length) (source : EndpointError) :
    (request.exchangesInTurn agents (failingAfter outputs source)).length =
      outputs.length + 1 := by
  rw [exchangesInTurn, failingAfter, List.length_zipWith, List.length_append, List.length_map,
    List.length_singleton]
  omega

@[simp] theorem notesInTurn_nil (names : List String) (name : String) :
    request.notesInTurn names [] name = [] := by
  rw [notesInTurn, List.zip_nil_right]
  rfl

theorem notesInTurn_cons (first output : String) (names outputs : List String) (name : String) :
    request.notesInTurn (first :: names) (output :: outputs) name =
      (if first = name then [⟨.task, request.task, output⟩] else []) ++
        request.notesInTurn names outputs name := by
  rw [notesInTurn, List.zip_cons_cons, List.filter_cons]
  by_cases hfirst : first = name
  · rw [if_pos (beq_iff_eq.2 hfirst), if_pos hfirst]
    rfl
  · rw [if_neg (mt beq_iff_eq.1 hfirst), if_neg hfirst]
    rfl

/-- An agent notes something for each of its positions, and for no other. -/
theorem length_notesInTurn (names outputs : List String) (name : String) :
    (request.notesInTurn names outputs name).length = (names.take outputs.length).count name := by
  induction outputs generalizing names with
  | nil => simp
  | cons output outputs ih =>
      cases names with
      | nil => rfl
      | cons first rest =>
          rw [notesInTurn_cons, List.length_append, ih, List.length_cons, List.take_succ_cons,
            List.count_cons, Nat.add_comm]
          by_cases hfirst : first = name <;> simp [hfirst]

/-- An answer is noted by the agent that gave it. -/
theorem entriesFor_exchangeOf_ok (agent : Agent ε) (output name : String) :
    Exchange.entriesFor name [request.exchangeOf agent (.ok output)] =
      if agent.name = name then [⟨.task, request.task, output⟩] else [] := by
  by_cases hname : agent.name = name
  · rw [if_pos hname, Exchange.entriesFor]
    exact List.filterMap_cons_some (if_pos hname)
  · rw [if_neg hname, Exchange.entriesFor]
    exact List.filterMap_cons_none (if_neg hname)

/-- A failure is noted by nobody. -/
theorem entriesFor_exchangeOf_error (agent : Agent ε) (source : EndpointError) (name : String) :
    Exchange.entriesFor name [request.exchangeOf agent (.error source)] = [] :=
  List.filterMap_cons_none (ite_self none)

/-- The exchanges of a run that ends with a failure leave the outputs before it in the
histories. -/
theorem entriesFor_exchangesInTurn (agents : List (Agent ε)) (outputs : List String)
    (source : EndpointError) (name : String) :
    Exchange.entriesFor name (request.exchangesInTurn agents (failingAfter outputs source)) =
      request.notesInTurn (agents.map Agent.name) outputs name := by
  induction outputs generalizing agents with
  | nil =>
      cases agents with
      | nil => rfl
      | cons agent rest =>
          rw [exchangesInTurn_failing, entriesFor_exchangeOf_error, notesInTurn_nil]
  | cons output outputs ih =>
      cases agents with
      | nil => rfl
      | cons agent rest =>
          rw [exchangesInTurn_cons, ← List.singleton_append, Exchange.entriesFor_append,
            entriesFor_exchangeOf_ok, ih rest, List.map_cons, notesInTurn_cons]

end CoordinationRequest

/-! ## Seats in turn -/

namespace Coordination

variable {responder : Responder ε σ} {request : CoordinationRequest} {session after : Session ε σ}
  {world : σ}

/-- A seat comes to what its agent is answered, whose endpoint is left as the answer leaves it. -/
theorem runSeat_of_answer {seat : Seat ε} {answer : Except EndpointError String}
    (h : responder seat.agent.endpoint (seat.agent.prompt request.task
      (some (request.contextFor seat.agent.name request.sharedContext))) none session.world =
        (answer, world)) :
    ∃ after, runSeat responder request request.sharedContext seat session =
        (seat.entryOf answer, after) ∧
      session.Conducts responder [request.exchangeOf seat.agent answer] after ∧
      after.world = world := by
  obtain ⟨after, hexecuted, hconducts⟩ := session.conducts_execute responder seat.agent
    request.task (some (request.contextFor seat.agent.name request.sharedContext))
  have hanswer : session.answerTo responder seat.agent ⟨.task, request.task, request.task,
      some (request.contextFor seat.agent.name request.sharedContext), none⟩ = answer := by
    rw [Session.answerTo, h]
  rw [hanswer] at hexecuted hconducts
  refine ⟨after, ?_, hconducts, ?_⟩
  · rw [runSeat, hexecuted]
    cases answer <;> rfl
  · cases hconducts.answered with
    | call hfirst hlater =>
        cases hlater
        exact (Prod.mk.inj (hfirst.symm.trans h)).2

/-- Seats in turn halt at the first call that fails, and come to its error. -/
theorem runInTurn_of_failure {seats : List (Seat ε)} {outputs : List String} {failing : Seat ε}
    {source : EndpointError} (hposition : seats[outputs.length]? = some failing)
    (hanswered : Answered responder session.world
      ((request.exchangesInTurn (seats.map Seat.agent) (failingAfter outputs source)).map
        Exchange.call) world) :
    ∃ after, runInTurn responder request request.sharedContext seats session =
        (.error (.endpoint failing.agent.name source), after) ∧
      session.Conducts responder
        (request.exchangesInTurn (seats.map Seat.agent) (failingAfter outputs source)) after ∧
      after.world = world := by
  -- Each output is the turn of one seat, which leaves the failing seat one position further up.
  induction outputs generalizing seats session with
  | nil =>
      cases seats with
      | nil => cases hposition
      | cons seat rest =>
          obtain rfl : seat = failing := Option.some.inj hposition
          rw [List.map_cons, request.exchangesInTurn_failing] at hanswered ⊢
          cases hanswered with
          | call hcall hlater =>
              cases hlater
              obtain ⟨after, hseat, hconducts, hworld⟩ := runSeat_of_answer hcall
              refine ⟨after, ?_, hconducts, hworld⟩
              rw [runInTurn, hseat]
              rfl
  | cons output outputs ih =>
      cases seats with
      | nil => cases hposition
      | cons seat rest =>
          rw [List.map_cons, request.exchangesInTurn_cons] at hanswered ⊢
          cases hanswered with
          | call hcall hlater =>
              obtain ⟨middle, hseat, hfirst, rfl⟩ := runSeat_of_answer hcall
              obtain ⟨after, hrest, hconducts, hworld⟩ := ih hposition hlater
              refine ⟨after, ?_, hfirst.trans hconducts, hworld⟩
              have hentry : runSeat responder request request.sharedContext seat session =
                  (.ok ⟨seat.key, seat.agent.name, output⟩, middle) := hseat
              simp only [runInTurn, hentry, hrest]

/-- Turns that all had the shared context, and the failing call behind them, are the first
exchanges of their seats. -/
theorem exchanges_of_turns {turns : List (Turn ε)}
    (hbases : ∀ turn ∈ turns, turn.base = request.sharedContext) (failing : Seat ε)
    (source : EndpointError) (behind : List (Seat ε)) :
    turns.map (Turn.exchange request) ++
        [failing.brokenExchange request request.sharedContext source] =
      request.exchangesInTurn ((turns.map Turn.seat ++ [failing] ++ behind).map Seat.agent)
        (failingAfter (turns.map Turn.output) source) := by
  induction turns with
  | nil =>
      exact (request.exchangesInTurn_failing failing.agent (behind.map Seat.agent) source).symm
  | cons turn rest ih =>
      obtain ⟨hbase, hrest⟩ := List.forall_mem_cons.1 hbases
      have hexchange : turn.exchange request =
          request.exchangeOf turn.seat.agent (.ok turn.output) := by
        rw [Turn.exchange, hbase]
        rfl
      rw [List.map_cons, List.cons_append, hexchange, ih hrest]
      rfl

/-- When seats in turn fail, it is in this way. -/
theorem failure_of_runInTurn {seats : List (Seat ε)} {error : OrchestrationError}
    (h : runInTurn responder request request.sharedContext seats session =
      (.error error, after)) :
    ∃ outputs failing source, error = .endpoint failing.agent.name source ∧
      seats[outputs.length]? = some failing ∧
      Answered responder session.world
        ((request.exchangesInTurn (seats.map Seat.agent) (failingAfter outputs source)).map
          Exchange.call) after.world := by
  obtain ⟨turns, failing, source, herror, hbreaks⟩ := runInTurn_error h
  obtain ⟨behind, rfl⟩ := hbreaks.seats_eq
  have hanswered := hbreaks.conducts.answered
  rw [exchanges_of_turns hbreaks.bases failing source behind] at hanswered
  refine ⟨turns.map Turn.output, failing, source, herror, ?_, hanswered⟩
  rw [List.length_map, List.append_assoc, ← List.length_map Turn.seat, List.getElem?_append_right
    (Nat.le_refl _), Nat.sub_self]
  rfl

end Coordination

/-- The seats of some names hold the agents that are found under these names. -/
theorem SeatsFor.agents_eq {registry : Registry ε} {names : List String} {agents : List (Agent ε)}
    {seats : List (Seat ε)} (h : SeatsFor registry names seats)
    (hresolved : names.map registry.find? = agents.map some) : seats.map Seat.agent = agents := by
  have hfound : seats.map (fun seat => registry.find? seat.agent.name) =
      seats.map fun seat => some seat.agent :=
    List.map_congr_left h.found
  have hsome : (seats.map Seat.agent).map some = agents.map some := by
    rw [← hresolved, ← h.names_eq, List.map_map, List.map_map]
    exact hfound.symm
  exact (List.map_inj_right fun _ _ => Option.some.inj).1 hsome

/-- At the position of a name is the seat of its agent. -/
theorem SeatsFor.getElem?_name {registry : Registry ε} {names : List String}
    {seats : List (Seat ε)} (h : SeatsFor registry names seats) (position : Nat) :
    names[position]? = seats[position]?.map (·.agent.name) := by
  rw [← h.names_eq, List.getElem?_map]

/-! ## Requests -/

namespace Session

variable {responder : Responder ε σ} {request : CoordinationRequest} {agents : List (Agent ε)}
  {session before after : Session ε σ} {outputs : List String} {name : String}
  {source : EndpointError} {world : σ}

/-- The agents of a request are asked in turn from a session on: those before a position answer,
and the call for the position is the first to fail. -/
structure FailsFirst (responder : Responder ε σ) (request : CoordinationRequest)
    (agents : List (Agent ε)) (session : Session ε σ) (outputs : List String) (name : String)
    (source : EndpointError) (world : σ) : Prop where
  position : request.agentNames[outputs.length]? = some name
  answered : Answered responder session.world
    ((request.exchangesInTurn agents (failingAfter outputs source)).map Exchange.call) world

/-- From one session to another the agents of a request were asked in turn, up to the first call
that failed. Each agent that answered has an entry for each position at which it did, of which its
history keeps the newest; everything else is as before. -/
structure Halts (responder : Responder ε σ) (request : CoordinationRequest)
    (agents : List (Agent ε)) (before : Session ε σ) (outputs : List String)
    (source : EndpointError) (after : Session ε σ) : Prop where
  conducts : before.Conducts responder
    (request.exchangesInTurn agents (failingAfter outputs source)) after
  calls_made : after.calls.length = before.calls.length + (outputs.length + 1)
  noted : ∀ name agent, before.registry.find? name = some agent →
    ∃ history : History, after.registry.find? name = some { agent with history := history } ∧
      history.cap = agent.history.cap ∧
      history.entries = newest agent.history.cap
        (agent.history.entries ++ request.notesInTurn request.agentNames outputs name)
  count : ∀ name, (request.notesInTurn request.agentNames outputs name).length =
    (request.agentNames.take outputs.length).count name
  whole : ∀ name agent, before.registry.find? name = some agent →
    agent.history.entries.length + (request.agentNames.take outputs.length).count name ≤
      agent.history.cap →
    (after.registry.find? name).map (·.history.entries) = some
      (agent.history.entries ++ request.notesInTurn request.agentNames outputs name)
  others : ∀ name ∉ request.agentNames.take outputs.length,
    after.registry.find? name = before.registry.find? name

theorem Halts.of_conducts (hnames : agents.map Agent.name = request.agentNames)
    (hposition : outputs.length < request.agentNames.length)
    (h : before.Conducts responder
      (request.exchangesInTurn agents (failingAfter outputs source)) after) :
    Halts responder request agents before outputs source after := by
  have hnotes : ∀ name, Exchange.entriesFor name
      (request.exchangesInTurn agents (failingAfter outputs source)) =
        request.notesInTurn request.agentNames outputs name := fun name => by
    rw [request.entriesFor_exchangesInTurn, hnames]
  have hcount := fun name => request.length_notesInTurn request.agentNames outputs name
  have hfound : ∀ name agent, before.registry.find? name = some agent →
      after.registry.find? name = some { agent with
        history := agent.history.pushAll
          (request.notesInTurn request.agentNames outputs name) } := by
    intro name agent hagent
    obtain rfl := Registry.name_of_find? hagent
    rw [h.find?, hagent, Option.map_some, Agent.noted, hnotes]
  refine ⟨h, ?_, ?_, hcount, ?_, ?_⟩
  · have hlength : outputs.length < agents.length := by
      rw [← hnames, List.length_map] at hposition
      exact hposition
    rw [h.calls, List.length_append, List.length_map, request.length_exchangesInTurn hlength]
  · intro name agent hagent
    exact ⟨_, hfound name agent hagent, History.cap_pushAll _ _, History.entries_pushAll _ _⟩
  · intro name agent hagent hroom
    rw [hfound name agent hagent, Option.map_some, History.entries_pushAll,
      newest_of_length_le (by rwa [List.length_append, hcount])]
  · intro name hname
    apply h.find?_of_silent
    rw [hnotes, ← List.length_eq_zero_iff, hcount, List.count_eq_zero]
    exact hname

/-- A sequential task halts at the first call that fails. -/
theorem coordinate_of_failsFirst (hsequential : request.strategy = .sequential)
    (hresolved : request.agentNames.map session.registry.find? = agents.map some)
    (h : FailsFirst responder request agents session outputs name source world) :
    ∃ after, session.coordinate responder request = (.error (.endpoint name source), after) ∧
      Halts responder request agents session outputs source after ∧ after.world = world := by
  have hsome : request.agentNames ≠ [] := by
    intro hnil
    have hposition := h.position
    rw [hnil] at hposition
    cases hposition
  have hregistered : ∀ name ∈ request.agentNames, (session.registry.find? name).isSome = true := by
    intro name hmem
    have hfound : session.registry.find? name ∈ agents.map some :=
      hresolved ▸ List.mem_map_of_mem hmem
    obtain ⟨agent, -, hagent⟩ := List.mem_map.1 hfound
    rw [← hagent]
    rfl
  obtain ⟨taken, htaken, hseats⟩ := exists_seats hsome hregistered
  have hagents := hseats.agents_eq hresolved
  obtain ⟨failing, hfailing, hname⟩ : ∃ failing, taken[outputs.length]? = some failing ∧
      failing.agent.name = name := by
    rw [← Option.map_eq_some_iff, ← hseats.getElem?_name]
    exact h.position
  have hanswered := h.answered
  rw [← hagents] at hanswered
  obtain ⟨after, hran, hconducts, hworld⟩ := Coordination.runInTurn_of_failure hfailing hanswered
  have hrun : Coordination.run responder request session.parallelLimit taken session =
      (.error (.endpoint name source), after) := by
    rw [Coordination.run, hsequential, ← hname]
    exact hran
  have hnames : agents.map Agent.name = request.agentNames := by
    rw [← hagents, List.map_map]
    exact hseats.names_eq
  have hposition : outputs.length < request.agentNames.length :=
    (List.getElem?_eq_some_iff.1 h.position).1
  rw [hagents] at hconducts
  exact ⟨after, coordinate_of_run htaken hrun, .of_conducts hnames hposition hconducts, hworld⟩

/-- A sequential task that fails with a call fails with the first call that does. -/
theorem failsFirst_of_coordinate (hsequential : request.strategy = .sequential)
    (hresolved : request.agentNames.map session.registry.find? = agents.map some)
    (h : session.coordinate responder request = (.error (.endpoint name source), after)) :
    ∃ outputs, FailsFirst responder request agents session outputs name source after.world := by
  have hcall : (OrchestrationError.endpoint name source).IsFailedCall := ⟨name, source, rfl⟩
  rcases coordinate_unseated_or_run h with ⟨hunseated, -⟩ | ⟨taken, hseats, hrun⟩
  · exact absurd (seats_isMistake hunseated) hcall.not_isMistake
  · rw [Coordination.run, hsequential] at hrun
    obtain ⟨outputs, failing, source, herror, hfailing, hanswered⟩ :=
      Coordination.failure_of_runInTurn hrun
    obtain ⟨rfl, rfl⟩ := OrchestrationError.endpoint.inj herror
    rw [hseats.agents_eq hresolved] at hanswered
    exact ⟨outputs, by rw [hseats.getElem?_name, hfailing]; rfl, hanswered⟩

/-- A sequential task whose agents are all registered halts at the first call that fails, with the
error of the agent at that position; the calls that were made are those up to it, and each answer
before it is noted once by its agent, whose history keeps the newest. It fails with a call in no
other way. -/
theorem coordinate_halts (responder : Responder ε σ) (session : Session ε σ)
    {request : CoordinationRequest} (hsequential : request.strategy = .sequential)
    {agents : List (Agent ε)}
    (hresolved : request.agentNames.map session.registry.find? = agents.map some) :
    (∀ outputs name source world,
      FailsFirst responder request agents session outputs name source world →
      ∃ after, session.coordinate responder request = (.error (.endpoint name source), after) ∧
        Halts responder request agents session outputs source after ∧ after.world = world) ∧
    ∀ name source after,
      session.coordinate responder request = (.error (.endpoint name source), after) →
      ∃ outputs, FailsFirst responder request agents session outputs name source after.world ∧
        Halts responder request agents session outputs source after := by
  refine ⟨?_, ?_⟩
  · intro outputs name source world h
    exact coordinate_of_failsFirst hsequential hresolved h
  · intro name source after h
    obtain ⟨outputs, hfails⟩ := failsFirst_of_coordinate hsequential hresolved h
    obtain ⟨last, hran, hhalts, -⟩ := coordinate_of_failsFirst hsequential hresolved hfails
    rw [h] at hran
    obtain rfl := (Prod.mk.inj hran).2
    exact ⟨outputs, hfails, hhalts⟩

/-- Three agents, none of which has been called. -/
def uncalledTrio : Session Unit Nat :=
  ["a", "b", "c"].foldl (fun session name => (session.addAgent name "" "" none).2) (.start () 0)

/-- An endpoint that answers twice, and not the third time. -/
def answersTwice : Responder Unit Nat := fun _ _ _ count =>
  (match count with
    | 0 => .ok "one"
    | 1 => .ok "two"
    | _ => .error (.timeout 30), count + 1)

/-- The agent that answers at the first position fails at the third: the first is noted, and the
agent behind is as before. -/
theorem coordinate_halts_repeated :
    ∃ after, uncalledTrio.coordinate answersTwice (.new "Review" ["a", "b", "a", "c"] .sequential) =
        (.error (.endpoint "a" (.timeout 30)), after) ∧
      after.calls.length = 3 ∧
      (after.registry.find? "a").map (·.history.entries) = some [⟨.task, "Review", "one"⟩] ∧
      after.registry.find? "c" = uncalledTrio.registry.find? "c" := by
  have hresolved : ["a", "b", "a", "c"].map uncalledTrio.registry.find? =
      (["a", "b", "a", "c"].map fun name => Agent.new name "" "" ()).map some := rfl
  have hsequential :
      (CoordinationRequest.new "Review" ["a", "b", "a", "c"] .sequential).strategy =
        .sequential := rfl
  obtain ⟨hhalts, -⟩ := coordinate_halts answersTwice uncalledTrio hsequential hresolved
  obtain ⟨after, hran, hafter, -⟩ := hhalts ["one", "two"] "a" (.timeout 30) 3
    ⟨rfl, .call rfl (.call rfl (.call rfl (.done 3)))⟩
  exact ⟨after, hran, hafter.calls_made, hafter.whole "a" _ rfl (by decide),
    hafter.others "c" (by decide)⟩

/-- A history of one entry has lost the first of two answers when the run halts. -/
theorem coordinate_halts_forgetting :
    ∃ after, (uncalledTrio.capHistory "a" 1).coordinate answersTwice
          (.new "Review" ["a", "a", "b"] .sequential) =
        (.error (.endpoint "b" (.timeout 30)), after) ∧
      after.calls.map Call.answer = [.ok "one", .ok "two", .error (.timeout 30)] ∧
      (after.registry.find? "a").map (·.history.entries) = some [⟨.task, "Review", "two"⟩] :=
  ⟨_, rfl, rfl, rfl⟩

end Session

end Ensemble
