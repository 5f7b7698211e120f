/-
# Reports line up with requests

The report of a coordinated task has one entry for each agent that the request names, at the same
position, whatever the strategy. Each entry is the answer of one call of that agent, which the
agent notes in its history; an agent that is not named is neither called nor changed.
-/

import Mathlib.Data.List.Forall2
import Ensemble.Proofs.Coordination.ResultKeys
import Ensemble.Proofs.Coordination.Turns
import Ensemble.Session.Coordinate

namespace Ensemble

variable {ε σ : Type}

/-! ## Groups and seats -/

theorem Grouping.sum_standardSizes (count : Nat) : (standardSizes count).sum = count := by
  match count with
  | 0 => rfl
  | 1 => rfl
  | count + 2 =>
      simp only [standardSizes, List.sum_cons, List.sum_nil]
      omega

/-- The groups of a hybrid request cover its agents. -/
theorem CoordinationRequest.sum_groupSizes {request : CoordinationRequest} {sizes : List Nat}
    (h : request.groupSizes = .ok sizes) : sizes.sum = request.agentNames.length := by
  rw [groupSizes] at h
  split at h
  next =>
    rw [← Except.ok.inj h, Grouping.sum_standardSizes]
  next grouping _ =>
    split at h
    next => simp at h
    next =>
      split at h
      next hflatten => rw [← Except.ok.inj h, ← hflatten, List.length_flatten]
      next => simp at h

/-- Groups that are not empty and list the agents in order are accepted with their sizes. -/
theorem CoordinationRequest.groupSizes_of_flatten {request : CoordinationRequest}
    {groups : List (List String)} (hgrouping : request.grouping = some ⟨groups⟩)
    (hfull : ∀ group ∈ groups, group ≠ []) (hflatten : groups.flatten = request.agentNames) :
    request.groupSizes = .ok (groups.map List.length) := by
  have hnone : groups.findIdx? List.isEmpty = none := by
    rw [List.findIdx?_eq_none_iff]
    exact fun group hgroup => List.isEmpty_eq_false_iff.2 (hfull group hgroup)
  simp only [groupSizes, hgrouping, hnone, hflatten, if_true]

/-- The seats hold the registered agents of some names, each with the key of its position. -/
structure SeatsFor (registry : Registry ε) (names : List String) (seats : List (Seat ε)) :
    Prop where
  names_eq : seats.map (·.agent.name) = names
  keys_eq : seats.map Seat.key = resultKeys names
  found : ∀ seat ∈ seats, registry.find? seat.agent.name = some seat.agent

theorem SeatsFor.length {registry : Registry ε} {names : List String} {seats : List (Seat ε)}
    (h : SeatsFor registry names seats) : seats.length = names.length := by
  rw [← h.names_eq, List.length_map]

theorem Registry.require_eq_ok_iff {registry : Registry ε} {name : String} {agent : Agent ε} :
    registry.require name = .ok agent ↔ registry.find? name = some agent := by
  rw [require]
  cases registry.find? name <;> simp

namespace Session

/-- Seats that are taken for names and keys hold the registered agents of these names. -/
theorem takeSeats_ok {registry : Registry ε} {pairs : List (String × String)}
    {taken : List (Seat ε)} (h : takeSeats registry pairs = .ok taken) :
    taken.map (fun seat => (seat.agent.name, seat.key)) = pairs ∧
      ∀ seat ∈ taken, registry.find? seat.agent.name = some seat.agent := by
  induction pairs generalizing taken with
  | nil =>
      obtain rfl : [] = taken := Except.ok.inj h
      simp
  | cons pair rest ih =>
      rw [takeSeats] at h
      split at h
      next => simp at h
      next agent hagent =>
        cases hrest : takeSeats registry rest with
        | error error => simp [hrest, Except.map] at h
        | ok others =>
            rw [hrest] at h
            obtain rfl : ⟨pair.2, agent⟩ :: others = taken := Except.ok.inj h
            obtain ⟨hpairs, hfound⟩ := ih hrest
            have hfind := Registry.require_eq_ok_iff.1 hagent
            have hname := Registry.name_of_find? hfind
            refine ⟨?_, List.forall_mem_cons.2 ⟨?_, hfound⟩⟩
            · rw [List.map_cons, hpairs, hname]
            · rw [hname, hfind]

theorem seats_ok {registry : Registry ε} {names : List String} {taken : List (Seat ε)}
    (h : seats registry names = .ok taken) : SeatsFor registry names taken := by
  rw [seats] at h
  split at h
  next => simp at h
  next =>
    obtain ⟨hpairs, hfound⟩ := takeSeats_ok h
    have hlength := length_resultKeys names
    refine ⟨?_, ?_, hfound⟩
    · have hnames : (names.zip (resultKeys names)).map Prod.fst = names :=
        List.map_fst_zip (by omega)
      rw [← hpairs, List.map_map] at hnames
      exact hnames
    · have hkeys : (names.zip (resultKeys names)).map Prod.snd = resultKeys names :=
        List.map_snd_zip (by omega)
      rw [← hpairs, List.map_map] at hkeys
      exact hkeys

/-- Seats are found for names that are all registered. -/
theorem exists_takeSeats {registry : Registry ε} {pairs : List (String × String)}
    (h : ∀ pair ∈ pairs, (registry.find? pair.1).isSome = true) :
    ∃ taken, takeSeats registry pairs = .ok taken := by
  induction pairs with
  | nil => exact ⟨[], rfl⟩
  | cons pair rest ih =>
      obtain ⟨hpair, hrest⟩ := List.forall_mem_cons.1 h
      obtain ⟨agent, hagent⟩ := Option.isSome_iff_exists.1 hpair
      obtain ⟨others, hothers⟩ := ih hrest
      refine ⟨⟨pair.2, agent⟩ :: others, ?_⟩
      rw [takeSeats, Registry.require_eq_ok_iff.2 hagent, hothers]
      rfl

/-- Some names that are all registered have seats. -/
theorem exists_seats {registry : Registry ε} {names : List String} (hsome : names ≠ [])
    (hregistered : ∀ name ∈ names, (registry.find? name).isSome = true) :
    ∃ taken, seats registry names = .ok taken ∧ SeatsFor registry names taken := by
  have hpairs : ∀ pair ∈ names.zip (resultKeys names),
      (registry.find? pair.1).isSome = true :=
    fun pair hpair => hregistered pair.1 (List.of_mem_zip hpair).1
  obtain ⟨taken, htaken⟩ := exists_takeSeats hpairs
  have hseats : seats registry names = .ok taken := by
    rw [seats, if_neg (by simpa using hsome), htaken]
  exact ⟨taken, hseats, seats_ok hseats⟩

/-- A request whose agents have seats comes to what its run comes to. -/
theorem coordinate_of_run {responder : Responder ε σ} {request : CoordinationRequest}
    {session after : Session ε σ} {taken : List (Seat ε)}
    {result : Except OrchestrationError (List CoordinationEntry)}
    (hseats : seats session.registry request.agentNames = .ok taken)
    (hrun : Coordination.run responder request session.parallelLimit taken session =
      (result, after)) :
    session.coordinate responder request =
      (result.map fun entries => ⟨request.strategy, request.task, entries⟩, after) := by
  simp only [coordinate, hseats, hrun]
  cases result <;> rfl

/-- A task that is coordinated is run by the seats of its agents. -/
theorem coordinate_ok {responder : Responder ε σ} {request : CoordinationRequest}
    {session after : Session ε σ} {report : CoordinationReport}
    (h : session.coordinate responder request = (.ok report, after)) :
    ∃ taken, SeatsFor session.registry request.agentNames taken ∧
      Coordination.run responder request session.parallelLimit taken session =
        (.ok report.entries, after) := by
  rw [coordinate] at h
  split at h
  next => simp at h
  next taken htaken =>
    split at h
    next => simp at h
    next entries last hrun =>
      obtain ⟨hreport, rfl⟩ := Prod.mk.inj h
      cases hreport
      exact ⟨taken, seats_ok htaken, hrun⟩

end Session

/-! ## Turns of a whole run -/

/-- A run of any strategy that succeeds takes one turn for each seat. -/
theorem Coordination.run_ok {responder : Responder ε σ} {request : CoordinationRequest}
    {limit : Nat} {seats : List (Seat ε)} {session after : Session ε σ}
    {entries : List CoordinationEntry} (hfits : seats.length = request.agentNames.length)
    (h : run responder request limit seats session = (.ok entries, after)) :
    ∃ turns, Takes responder request session seats turns entries after := by
  rw [run] at h
  split at h
  next =>
    obtain ⟨turns, hturns, -⟩ := runInTurn_ok h
    exact ⟨turns, hturns⟩
  next =>
    obtain ⟨turns, hturns, -⟩ := runAtOnce_ok h
    exact ⟨turns, hturns⟩
  next =>
    split at h
    next => simp at h
    next sizes hsizes =>
      obtain ⟨turns, hturns, -, -⟩ := runGroups_ok h
      rw [request.sum_groupSizes hsizes, ← hfits, List.take_length] at hturns
      exact ⟨turns, hturns⟩

/-- Turns at the seats of some names have the keys of their positions. -/
theorem SeatsFor.keys_of_turns {registry : Registry ε} {names : List String}
    {seats : List (Seat ε)} {turns : List (Turn ε)} (h : SeatsFor registry names seats)
    (hturns : turns.map Turn.seat = seats) :
    (turns.map Turn.entry).map CoordinationEntry.key = resultKeys names := by
  rw [← h.keys_eq, ← hturns, List.map_map, List.map_map]
  rfl

/-- Turns at the seats of some names have the agents that were named. -/
theorem SeatsFor.agents_of_turns {registry : Registry ε} {names : List String}
    {seats : List (Seat ε)} {turns : List (Turn ε)} (h : SeatsFor registry names seats)
    (hturns : turns.map Turn.seat = seats) :
    (turns.map Turn.entry).map CoordinationEntry.agent = names := by
  rw [← h.names_eq, ← hturns, List.map_map, List.map_map]
  rfl

namespace Coordination.Takes

variable {registry : Registry ε} {names : List String} {responder : Responder ε σ}
  {request : CoordinationRequest} {before after : Session ε σ} {seats : List (Seat ε)}
  {turns : List (Turn ε)} {entries : List CoordinationEntry}

/-- The entries have the keys of their positions. -/
theorem keys_eq (h : Takes responder request before seats turns entries after)
    (hseats : SeatsFor registry names seats) :
    entries.map CoordinationEntry.key = resultKeys names :=
  h.entries_eq ▸ hseats.keys_of_turns h.seats_eq

/-- The entries have the agents that were named. -/
theorem agents_eq (h : Takes responder request before seats turns entries after)
    (hseats : SeatsFor registry names seats) :
    entries.map CoordinationEntry.agent = names :=
  h.entries_eq ▸ hseats.agents_of_turns h.seats_eq

end Coordination.Takes

/-- What the agent with a name notes in its history when the task leads to these entries. -/
def CoordinationRequest.notesFor (request : CoordinationRequest)
    (entries : List CoordinationEntry) (name : String) : List HistoryEntry :=
  (entries.filter fun entry => entry.agent == name).map fun entry =>
    ⟨.task, request.task, entry.output⟩

/-- An agent notes as many calls as there are entries of its name. -/
theorem CoordinationRequest.length_notesFor (request : CoordinationRequest)
    (entries : List CoordinationEntry) (name : String) :
    (request.notesFor entries name).length =
      (entries.map CoordinationEntry.agent).count name := by
  rw [notesFor, List.length_map, ← List.countP_eq_length_filter, List.count_eq_countP,
    List.countP_map]
  rfl

/-- The exchanges of turns leave their entries in the histories. -/
theorem Turn.entriesFor_exchanges (request : CoordinationRequest) (turns : List (Turn ε))
    (name : String) :
    Exchange.entriesFor name (turns.map (Turn.exchange request)) =
      request.notesFor (turns.map Turn.entry) name := by
  induction turns with
  | nil => rfl
  | cons turn rest ih =>
      rw [List.map_cons, ← List.singleton_append, Exchange.entriesFor_append, ih, List.map_cons]
      by_cases hname : turn.seat.agent.name = name
      · simp [Exchange.entriesFor, Turn.exchange, Exchange.ofTask, Exchange.of, Exchange.note?,
          CoordinationRequest.notesFor, Turn.entry, hname]
      · simp [Exchange.entriesFor, Turn.exchange, Exchange.ofTask, Exchange.of,
          CoordinationRequest.notesFor, Turn.entry, hname]

namespace Session

/-- The entries of a report have the keys and the agents of the request. -/
theorem coordinate_entries {responder : Responder ε σ} {request : CoordinationRequest}
    {session after : Session ε σ} {report : CoordinationReport}
    (h : session.coordinate responder request = (.ok report, after)) :
    report.entries.map CoordinationEntry.key = resultKeys request.agentNames ∧
      report.entries.map CoordinationEntry.agent = request.agentNames := by
  obtain ⟨taken, hseats, hrun⟩ := coordinate_ok h
  obtain ⟨turns, hturns⟩ := Coordination.run_ok hseats.length hrun
  exact ⟨hturns.keys_eq hseats, hturns.agents_eq hseats⟩

/-- The report of a coordinated task and the exchanges that were conducted for it line up with the
request, position by position. Agents note their own calls and nothing else changes. -/
structure Aligned (responder : Responder ε σ) (request : CoordinationRequest)
    (before after : Session ε σ) (report : CoordinationReport) (exchanges : List (Exchange ε)) :
    Prop where
  conducts : before.Conducts responder exchanges after
  length : report.entries.length = request.agentNames.length
  keys : report.entries.map CoordinationEntry.key = resultKeys request.agentNames
  agents : report.entries.map CoordinationEntry.agent = request.agentNames
  callers : exchanges.map Exchange.agent = request.agentNames
  answers : exchanges.map (·.call.answer) = report.entries.map fun entry => .ok entry.output
  calls : ∀ exchange ∈ exchanges, ∃ agent context,
    before.registry.find? exchange.agent = some agent ∧
    exchange = .ofTask agent request.task (some context) exchange.call.answer
  noted : List.Forall₂
    (fun agent later => agent.Notes (request.notesFor report.entries agent.name) later)
    before.registry.agents after.registry.agents
  count : ∀ name, (request.notesFor report.entries name).length = request.agentNames.count name
  others : ∀ name ∉ request.agentNames, after.registry.find? name = before.registry.find? name

/-- The turns that the seats of a request take line up with the request. -/
theorem aligned_of_takes {responder : Responder ε σ} {request : CoordinationRequest}
    {session after : Session ε σ} {report : CoordinationReport} {taken : List (Seat ε)}
    {turns : List (Turn ε)} (hseats : SeatsFor session.registry request.agentNames taken)
    (hturns : Coordination.Takes responder request session taken turns report.entries after) :
    Aligned responder request session after report (turns.map (Turn.exchange request)) := by
  have hkeys := hturns.keys_eq hseats
  have hagents := hturns.agents_eq hseats
  have hcount : ∀ name,
      (request.notesFor report.entries name).length = request.agentNames.count name :=
    fun name => by rw [request.length_notesFor, hagents]
  have hnotes : ∀ name, Exchange.entriesFor name (turns.map (Turn.exchange request)) =
      request.notesFor report.entries name :=
    fun name => by rw [Turn.entriesFor_exchanges, hturns.entries_eq]
  refine ⟨hturns.conducts, ?_, hkeys, hagents, ?_, ?_, ?_, ?_, hcount, ?_⟩
  · rw [hturns.length_entries, ← hturns.length_seats, hseats.length]
  · rw [← hagents, ← hturns.entries_eq, List.map_map, List.map_map]
    rfl
  · rw [← hturns.entries_eq, List.map_map, List.map_map]
    rfl
  · intro exchange hmem
    obtain ⟨turn, hturn, rfl⟩ := List.mem_map.1 hmem
    have hseat : turn.seat ∈ taken := hturns.seats_eq ▸ List.mem_map_of_mem hturn
    exact ⟨turn.seat.agent, _, hseats.found turn.seat hseat, rfl⟩
  · rw [hturns.conducts.agents, List.forall₂_map_right_iff, List.forall₂_same]
    intro agent _
    rw [← hnotes]
    exact agent.notes_noted _
  · intro name hname
    have hnone : request.notesFor report.entries name = [] := by
      rw [← List.length_eq_zero_iff, hcount, List.count_eq_zero]
      exact hname
    exact hturns.conducts.find?_of_silent ((hnotes name).trans hnone)

/-- Whatever the strategy, the report of a task that is coordinated successfully has for each
position of the request the key, the agent and the answer of the one call that was made there. An
agent that is not named makes no call and stays as it is. -/
theorem coordinate_aligned {responder : Responder ε σ} {request : CoordinationRequest}
    {session after : Session ε σ} {report : CoordinationReport}
    (h : session.coordinate responder request = (.ok report, after)) :
    ∃ exchanges, Aligned responder request session after report exchanges := by
  obtain ⟨taken, hseats, hrun⟩ := coordinate_ok h
  obtain ⟨turns, hturns⟩ := Coordination.run_ok hseats.length hrun
  exact ⟨_, aligned_of_takes hseats hturns⟩

/-- A session with agents of some names, all answered alike. -/
def staffed (names : List String) : Session Unit Unit :=
  names.foldl (fun session name => (session.addAgent name "" "" none).2) (.start () ())

theorem coordinate_aligned_repeated :
    ∃ report after,
      (staffed ["a", "b", "c"]).coordinate (fun _ _ _ _ => (.ok "done", ()))
        (.new "Review" ["a", "b", "a"] .parallel) = (.ok report, after) ∧
      report.entries.map CoordinationEntry.key = ["a#0", "b", "a#2"] ∧
      report.entries.map CoordinationEntry.agent = ["a", "b", "a"] ∧
      after.registry.find? "c" = (staffed ["a", "b", "c"]).registry.find? "c" := by
  obtain ⟨report, after, hran⟩ : ∃ report after,
      (staffed ["a", "b", "c"]).coordinate (fun _ _ _ _ => (.ok "done", ()))
        (.new "Review" ["a", "b", "a"] .parallel) = (.ok report, after) := ⟨_, _, rfl⟩
  obtain ⟨exchanges, haligned⟩ := coordinate_aligned hran
  have hgenerated : resultKeys ["a", "b", "a"] = ["a#0", "b", "a#2"] := by decide
  exact ⟨report, after, hran, haligned.keys.trans hgenerated, haligned.agents,
    haligned.others "c" (by decide)⟩

end Session

end Ensemble
