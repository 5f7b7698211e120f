/-
# Schedules of bounded runs

Seats that run at once have calls under way at the same time, though no more than a limit, and
these calls finish in any order. A `Window` is what such a run looks like from outside, and a step
of it starts the next seat's call, lets some call finish, or takes the oldest call when that has
succeeded. A step does a third of a seat's work, so a run cannot go on for ever, and it is never
stuck unless the limit is zero. The order in which calls finish is one of many schedules; that
`runWindow` lets every call finish at once is another.
-/

import Mathlib.Logic.Relation
import Ensemble.Proofs.Coordination.Turns

namespace Ensemble

variable {ε σ : Type}

namespace Seat

variable (responder : Responder ε σ) (request : CoordinationRequest) (base : Context)

/-- The agent at a seat is asked: its prompt is sent. -/
def ask (seat : Seat ε) (session : Session ε σ) : Except EndpointError String × Session ε σ :=
  session.send responder seat.agent.endpoint
    (seat.agent.prompt request.task (some (request.contextFor seat.agent.name base))) none

/-- The agent at a seat notes an answer that it got for a task. -/
def note (seat : Seat ε) (task : String) (answer : Except EndpointError String)
    (session : Session ε σ) : Session ε σ :=
  match answer with
  | .ok output => session.record seat.agent.name ⟨.task, task, output⟩
  | .error _ => session

end Seat

/-- To run a seat is to ask its agent and to note the answer. -/
theorem Coordination.runSeat_eq (responder : Responder ε σ) (request : CoordinationRequest)
    (base : Context) (seat : Seat ε) (session : Session ε σ) :
    runSeat responder request base seat session =
      (seat.entryOf (seat.ask responder request base session).1,
        seat.note request.task (seat.ask responder request base session).1
          (seat.ask responder request base session).2) := by
  simp only [runSeat, Session.execute, Session.carryOut, Seat.ask]
  rcases session.send responder seat.agent.endpoint
    (seat.agent.prompt request.task (some (request.contextFor seat.agent.name base))) none with
    ⟨answer, sent⟩
  cases answer <;> rfl

/-- A call that has started: its seat, the answer to it, and whether that has come in. -/
structure SeatCall (ε : Type) where
  seat : Seat ε
  answer : Except EndpointError String
  finished : Bool

/-- What a call comes to when its answer has come in. -/
def SeatCall.result (call : SeatCall ε) : Except OrchestrationError CoordinationEntry :=
  call.seat.entryOf call.answer

/-- How many steps are left for a call at most: its answer may have to come in, and it may be
taken. -/
def SeatCall.work (call : SeatCall ε) : Nat := if call.finished then 1 else 2

/-- A bounded run on its way: the entries that were taken, the calls that have started and were
not taken, in the order of their seats, and the seats that wait. -/
structure Window (ε σ : Type) where
  taken : List CoordinationEntry
  calls : List (SeatCall ε)
  waiting : List (Seat ε)
  session : Session ε σ

namespace Window

/-- A window in which all seats wait. -/
def opening (seats : List (Seat ε)) (session : Session ε σ) : Window ε σ :=
  ⟨[], [], seats, session⟩

/-- What can happen in a window. -/
inductive Step (responder : Responder ε σ) (request : CoordinationRequest) (base : Context)
    (limit : Nat) : Window ε σ → Window ε σ → Prop
  | start {taken : List CoordinationEntry} {calls : List (SeatCall ε)} {seat : Seat ε}
      {waiting : List (Seat ε)} {session : Session ε σ} (room : calls.length < limit) :
      Step responder request base limit ⟨taken, calls, seat :: waiting, session⟩
        ⟨taken, calls ++ [⟨seat, (seat.ask responder request base session).1, false⟩], waiting,
          (seat.ask responder request base session).2⟩
  | finish {taken : List CoordinationEntry} (before : List (SeatCall ε)) {seat : Seat ε}
      {answer : Except EndpointError String} {behind : List (SeatCall ε)}
      {waiting : List (Seat ε)} {session : Session ε σ} :
      Step responder request base limit
        ⟨taken, before ++ ⟨seat, answer, false⟩ :: behind, waiting, session⟩
        ⟨taken, before ++ ⟨seat, answer, true⟩ :: behind, waiting,
          seat.note request.task answer session⟩
  | take {taken : List CoordinationEntry} {seat : Seat ε} {output : String}
      {calls : List (SeatCall ε)} {waiting : List (Seat ε)} {session : Session ε σ} :
      Step responder request base limit
        ⟨taken, ⟨seat, .ok output, true⟩ :: calls, waiting, session⟩
        ⟨taken ++ [⟨seat.key, seat.agent.name, output⟩], calls, waiting, session⟩

/-- What happens in a window, from one state to a later one. -/
def Reaches (responder : Responder ε σ) (request : CoordinationRequest) (base : Context)
    (limit : Nat) : Window ε σ → Window ε σ → Prop :=
  Relation.ReflTransGen (Step responder request base limit)

/-- A run is over when everything is taken, or when the oldest call has failed. -/
inductive Ends : Window ε σ → Except OrchestrationError (List CoordinationEntry) → Prop
  | completed {taken : List CoordinationEntry} {session : Session ε σ} :
      Ends ⟨taken, [], [], session⟩ (.ok taken)
  | failed {taken : List CoordinationEntry} {seat : Seat ε} {source : EndpointError}
      {calls : List (SeatCall ε)} {waiting : List (Seat ε)} {session : Session ε σ} :
      Ends ⟨taken, ⟨seat, .error source, true⟩ :: calls, waiting, session⟩
        (.error (.endpoint seat.agent.name source))

variable {responder : Responder ε σ} {request : CoordinationRequest} {base : Context}
  {limit : Nat} {window next : Window ε σ}

/-! ## Every run comes to an end -/

/-- How many steps are left at most. -/
def work (window : Window ε σ) : Nat :=
  (window.calls.map SeatCall.work).sum + 3 * window.waiting.length

/-- Every step leaves one step less. -/
theorem Step.work_eq (h : Step responder request base limit window next) :
    next.work + 1 = window.work := by
  cases h with
  | start room =>
      simp only [work, SeatCall.work, List.map_append, List.sum_append, List.map_cons,
        List.map_nil, List.sum_cons, List.sum_nil, List.length_cons, Bool.false_eq_true, if_false]
      omega
  | finish before =>
      simp only [work, SeatCall.work, List.map_append, List.sum_append, List.map_cons,
        List.sum_cons, Bool.false_eq_true, if_true, if_false]
      omega
  | take =>
      simp only [work, SeatCall.work, List.map_cons, List.sum_cons, if_true]
      omega

/-- A run that is not over can go on, if at least one call may be under way. -/
theorem ends_or_step (responder : Responder ε σ) (request : CoordinationRequest)
    (base : Context) {limit : Nat} (hlimit : 0 < limit) (window : Window ε σ) :
    (∃ result, window.Ends result) ∨ ∃ next, Step responder request base limit window next := by
  obtain ⟨taken, calls, waiting, session⟩ := window
  match calls, waiting with
  | [], [] => exact Or.inl ⟨_, .completed⟩
  | [], _ :: _ => exact Or.inr ⟨_, .start hlimit⟩
  | ⟨_, .error _, true⟩ :: _, _ => exact Or.inl ⟨_, .failed⟩
  | ⟨_, .ok _, true⟩ :: _, _ => exact Or.inr ⟨_, .take⟩
  | ⟨_, _, false⟩ :: _, _ => exact Or.inr ⟨_, .finish []⟩

/-- If no call may be under way, seats wait for ever: the run is not over and cannot go on. -/
theorem stuck_of_limit_zero (responder : Responder ε σ) (request : CoordinationRequest)
    (base : Context) {seats : List (Seat ε)} (hsome : seats ≠ []) (session : Session ε σ) :
    ¬ ((∃ result, (opening seats session).Ends result) ∨
      ∃ next, Step responder request base 0 (opening seats session) next) := by
  generalize hopening : opening seats session = window
  have hcalls : window.calls = [] := hopening ▸ rfl
  have hwaiting : window.waiting ≠ [] := hopening ▸ hsome
  rintro (⟨result, hends⟩ | ⟨next, hstep⟩)
  · cases hends with
    | completed => exact hwaiting rfl
    | failed => exact List.cons_ne_nil _ _ hcalls
  · cases hstep with
    | start room => exact Nat.not_lt_zero _ room
    | finish => exact List.append_ne_nil_of_right_ne_nil _ (List.cons_ne_nil _ _) hcalls
    | take => exact List.cons_ne_nil _ _ hcalls

/-! ## The run of `runWindow` is a schedule -/

/-- Some schedule leads from a window to a result and a session. -/
def Leads (responder : Responder ε σ) (request : CoordinationRequest) (base : Context)
    (limit : Nat) (window : Window ε σ) (ran : Entries ε σ) : Prop :=
  ∃ last, Reaches responder request base limit window last ∧ last.Ends ran.1 ∧
    last.session = ran.2

theorem Leads.head {ran : Entries ε σ} (hstep : Step responder request base limit window next)
    (h : Leads responder request base limit next ran) :
    Leads responder request base limit window ran := by
  obtain ⟨last, hreaches, hends, hsession⟩ := h
  exact ⟨last, .head hstep hreaches, hends, hsession⟩

/-- What entries that were taken and the rest of a run come to. -/
def behind (taken : List CoordinationEntry) (ran : Entries ε σ) : Entries ε σ :=
  (ran.1.map (taken ++ ·), ran.2)

@[simp] theorem behind_error (taken : List CoordinationEntry) (error : OrchestrationError)
    (session : Session ε σ) : behind taken (.error error, session) = (.error error, session) := rfl

@[simp] theorem behind_ok (taken entries : List CoordinationEntry) (session : Session ε σ) :
    behind taken (.ok entries, session) = (.ok (taken ++ entries), session) := rfl

variable {taken : List CoordinationEntry} {calls : List (SeatCall ε)} {seat : Seat ε}
  {seats : List (Seat ε)} {session : Session ε σ}

/-- A seat's call may start and finish before anything else happens. -/
theorem Leads.call {ran : Entries ε σ} (hroom : calls.length < limit)
    (h : ∀ call : SeatCall ε, call.finished = true →
      call.result = (Coordination.runSeat responder request base seat session).1 →
      Leads responder request base limit ⟨taken, calls ++ [call], seats,
        (Coordination.runSeat responder request base seat session).2⟩ ran) :
    Leads responder request base limit ⟨taken, calls, seat :: seats, session⟩ ran := by
  rw [Coordination.runSeat_eq] at h
  exact .head (.start hroom)
    (.head (.finish calls) (h ⟨seat, (seat.ask responder request base session).1, true⟩ rfl rfl))

/-- Calls that have finished are taken up to the first that failed. -/
theorem leads_collect (responder : Responder ε σ) (request : CoordinationRequest)
    (base : Context) (limit : Nat) (hfinished : ∀ call ∈ calls, call.finished = true)
    (taken : List CoordinationEntry) (session : Session ε σ) :
    Leads responder request base limit ⟨taken, calls, [], session⟩
      (behind taken (Coordination.collect (calls.map SeatCall.result), session)) := by
  induction calls generalizing taken with
  | nil => exact ⟨_, .refl, by simpa [Coordination.collect] using .completed, rfl⟩
  | cons call calls ih =>
      obtain ⟨hcall, hrest⟩ := List.forall_mem_cons.1 hfinished
      obtain ⟨seat, answer, finished⟩ := call
      obtain rfl : finished = true := hcall
      cases answer with
      | error source => exact ⟨_, .refl, .failed, rfl⟩
      | ok output =>
          have hlater := ih hrest (taken ++ [⟨seat.key, seat.agent.name, output⟩])
          refine .head .take ?_
          rw [List.map_cons, SeatCall.result, Seat.entryOf, Coordination.collect]
          cases hcollect : Coordination.collect (calls.map SeatCall.result) with
          | error error => simpa [hcollect, Except.map] using hlater
          | ok entries => simpa [hcollect, Except.map] using hlater

/-- What `runWindow` comes to is what some schedule leads to: one in which every call finishes
before the next one starts. -/
theorem leads_runWindow (responder : Responder ε σ) (request : CoordinationRequest)
    (base : Context) {limit : Nat} (hlimit : 0 < limit) (seats : List (Seat ε))
    {calls : List (SeatCall ε)} (hfinished : ∀ call ∈ calls, call.finished = true)
    (hroom : calls.length ≤ limit) (taken : List CoordinationEntry) (session : Session ε σ) :
    Leads responder request base limit ⟨taken, calls, seats, session⟩
      (behind taken (Coordination.runWindow responder request base limit
        (calls.map SeatCall.result) seats session)) := by
  induction seats generalizing calls taken session with
  | nil =>
      rw [Coordination.runWindow]
      exact leads_collect responder request base limit hfinished taken session
  | cons seat seats ih =>
      -- Whether or not a call is taken first, the seat's call joins the window at its end.
      have hjoin : ∀ {calls : List (SeatCall ε)} (taken : List CoordinationEntry),
          (∀ call ∈ calls, call.finished = true) → calls.length < limit →
          Leads responder request base limit ⟨taken, calls, seat :: seats, session⟩
            (behind taken (Coordination.runWindow responder request base limit
              (calls.map SeatCall.result ++
                [(Coordination.runSeat responder request base seat session).1]) seats
              (Coordination.runSeat responder request base seat session).2)) := by
        intro calls taken hfinished hlt
        refine .call hlt fun call hcall hresult => ?_
        have hall : ∀ other ∈ calls ++ [call], other.finished = true := by
          simpa [or_imp, forall_and, hcall] using hfinished
        have hlater := ih hall (by rw [List.length_append]; exact hlt) taken
          (Coordination.runSeat responder request base seat session).2
        rwa [List.map_append, List.map_cons, List.map_nil, hresult] at hlater
      cases calls with
      | nil =>
          rw [List.map_nil, Coordination.runWindow]
          exact hjoin taken hfinished hlimit
      | cons first calls =>
          rw [List.map_cons, Coordination.runWindow.eq_def]
          simp only [List.length_cons, List.length_map]
          split
          next hlt => exact hjoin taken hfinished hlt
          next =>
            obtain ⟨hfirst, hrest⟩ := List.forall_mem_cons.1 hfinished
            obtain ⟨caller, answer, finished⟩ := first
            obtain rfl : finished = true := hfirst
            cases answer with
            | error source => exact ⟨_, .refl, .failed, rfl⟩
            | ok output =>
                have hlater := hjoin (taken ++ [⟨caller.key, caller.agent.name, output⟩]) hrest
                  hroom
                refine .head .take ?_
                simp only [SeatCall.result, Seat.entryOf]
                split
                next hran => simpa [hran] using hlater
                next hran => simpa [hran] using hlater

/-- What `runAtOnce` comes to is what some schedule leads to. -/
theorem leads_runAtOnce (responder : Responder ε σ) (request : CoordinationRequest)
    (base : Context) (limit : Nat) (seats : List (Seat ε)) (session : Session ε σ) :
    Leads responder request base (max limit 1) (opening seats session)
      (Coordination.runAtOnce responder request base limit seats session) := by
  have hlimit : 0 < max limit 1 := by omega
  have hnone : ∀ call ∈ ([] : List (SeatCall ε)), call.finished = true :=
    fun _ hmem => absurd hmem List.not_mem_nil
  have hleads := leads_runWindow responder request base hlimit seats hnone (Nat.zero_le _) []
    session
  have hbehind : ∀ ran : Entries ε σ, behind [] ran = ran := by
    rintro ⟨result, after⟩
    cases result <;> rfl
  rwa [hbehind] at hleads

end Window

/-! ## All schedules come to the same -/

/-- What a call at a seat is answered when answers depend on the prompt alone. -/
def Seat.answer (answer : ε → String → Option (List UInt8) → Except EndpointError String)
    (request : CoordinationRequest) (base : Context) (seat : Seat ε) :
    Except EndpointError String :=
  answer seat.agent.endpoint
    (seat.agent.prompt request.task (some (request.contextFor seat.agent.name base))) none

/-- What a seat comes to when answers depend on the prompt alone. -/
def Seat.outcome (answer : ε → String → Option (List UInt8) → Except EndpointError String)
    (request : CoordinationRequest) (base : Context) (seat : Seat ε) :
    Except OrchestrationError CoordinationEntry :=
  seat.entryOf (seat.answer answer request base)

/-- Whatever happened before, the agent at a seat gets the same answer. -/
theorem Seat.ask_of_answers {responder : Responder ε σ}
    {answer : ε → String → Option (List UInt8) → Except EndpointError String}
    (hanswers : responder.Answers answer) (request : CoordinationRequest) (base : Context)
    (seat : Seat ε) (session : Session ε σ) :
    (seat.ask responder request base session).1 = seat.answer answer request base :=
  hanswers _ _ _ _

namespace Coordination

@[simp] theorem collect_map_ok (entries : List CoordinationEntry) :
    collect (entries.map .ok) = .ok entries := by
  induction entries with
  | nil => rfl
  | cons entry entries ih => simp [collect, ih, Except.map]

/-- An error behind entries is what is collected. -/
theorem collect_append_error (entries : List CoordinationEntry) (error : OrchestrationError)
    (rest : List (Except OrchestrationError CoordinationEntry)) :
    collect (entries.map .ok ++ .error error :: rest) = .error error := by
  induction entries with
  | nil => rfl
  | cons entry entries ih =>
      rw [List.map_cons, List.cons_append, collect, ih]
      rfl

end Coordination

namespace Window

variable {responder : Responder ε σ}
  {answer : ε → String → Option (List UInt8) → Except EndpointError String}
  {request : CoordinationRequest} {base : Context} {limit : Nat} {window next : Window ε σ}
  {result : Except OrchestrationError (List CoordinationEntry)}

/-- What the seats of a window come to, in their order. -/
def results (answer : ε → String → Option (List UInt8) → Except EndpointError String)
    (request : CoordinationRequest) (base : Context) (window : Window ε σ) :
    List (Except OrchestrationError CoordinationEntry) :=
  window.taken.map .ok ++ (window.calls.map SeatCall.result ++
    window.waiting.map (Seat.outcome answer request base))

/-- No step changes what the seats come to. -/
theorem Step.results_eq (hanswers : responder.Answers answer)
    (h : Step responder request base limit window next) :
    next.results answer request base = window.results answer request base := by
  cases h with
  | start room =>
      simp [results, SeatCall.result, Seat.outcome, Seat.ask_of_answers hanswers]
  | finish => simp [results, SeatCall.result]
  | take => simp [results, SeatCall.result, Seat.entryOf]

theorem Reaches.results_eq (hanswers : responder.Answers answer)
    (h : Reaches responder request base limit window next) :
    next.results answer request base = window.results answer request base := by
  induction h with
  | refl => rfl
  | tail _ hstep ih => exact (hstep.results_eq hanswers).trans ih

/-- A run that is over comes to the entries of all seats, or to the first error among them. -/
theorem Ends.eq_collect (h : window.Ends result)
    (answer : ε → String → Option (List UInt8) → Except EndpointError String)
    (request : CoordinationRequest) (base : Context) :
    result = Coordination.collect (window.results answer request base) := by
  cases h with
  | completed => simp [results]
  | failed =>
      exact (Coordination.collect_append_error _ _ _).symm

/-- All schedules from a window lead to one result: none goes on for ever, none is stuck before it
is over, and all that are over come to it. -/
structure Settles (responder : Responder ε σ) (request : CoordinationRequest) (base : Context)
    (limit : Nat) (window : Window ε σ)
    (result : Except OrchestrationError (List CoordinationEntry)) : Prop where
  finite : Acc (fun next window => Step responder request base limit window next) window
  ongoing : ∀ last, Reaches responder request base limit window last →
    (∃ ended, last.Ends ended) ∨ ∃ next, Step responder request base limit last next
  unique : ∀ last ended, Reaches responder request base limit window last → last.Ends ended →
    ended = result

theorem wellFounded_step (responder : Responder ε σ) (request : CoordinationRequest)
    (base : Context) (limit : Nat) :
    WellFounded fun next window : Window ε σ => Step responder request base limit window next :=
  Subrelation.wf (fun hstep => Nat.le_of_eq (Step.work_eq hstep))
    (InvImage.wf (work : Window ε σ → Nat) Nat.lt_wfRel.wf)

/-- When answers depend on the prompt alone, the order in which calls finish does not matter. -/
theorem settles (hanswers : responder.Answers answer) (request : CoordinationRequest)
    (base : Context) (hlimit : 0 < limit) (seats : List (Seat ε)) (session : Session ε σ) :
    (opening seats session).Settles responder request base limit
      (Coordination.collect (seats.map (Seat.outcome answer request base))) where
  finite := (wellFounded_step responder request base limit).apply _
  ongoing last _ := ends_or_step responder request base hlimit last
  unique last ended hreaches hends := by
    rw [hends.eq_collect answer request base, hreaches.results_eq hanswers]
    rfl

end Window

end Ensemble
