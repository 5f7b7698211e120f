/-
# Runs that fail

A coordinated task fails in one of two ways: its groups do not fit its agents, which is found out
before anything happens, or a call of one of its agents fails. Seats that run one after another
break off there: the seats before the failing one took their turns, its own call is the last that
is made, and nobody behind it is asked.
-/

import Ensemble.Proofs.Coordination.Alignment
import Ensemble.Proofs.Coordination.Schedule

namespace Ensemble

variable {ε σ : Type}

/-- An error that comes of a call which got no answer. -/
def OrchestrationError.IsFailedCall (error : OrchestrationError) : Prop :=
  ∃ agent source, error = .endpoint agent source

/-- The exchange of a seat whose call fails, with the common context that its agent saw. -/
def Seat.brokenExchange (request : CoordinationRequest) (base : Context) (seat : Seat ε)
    (source : EndpointError) : Exchange ε :=
  .ofTask seat.agent request.task (some (request.contextFor seat.agent.name base)) (.error source)

namespace Coordination

/-! ## Seats in turn -/

/-- From one session to another the first of some seats took the given turns, all with one common
context, and the call of the next one failed. -/
structure Breaks (responder : Responder ε σ) (request : CoordinationRequest) (base : Context)
    (before : Session ε σ) (seats : List (Seat ε)) (turns : List (Turn ε)) (failing : Seat ε)
    (source : EndpointError) (after : Session ε σ) : Prop where
  seats_eq : turns.map Turn.seat ++ [failing] <+: seats
  bases : ∀ turn ∈ turns, turn.base = base
  conducts : before.Conducts responder
    (turns.map (Turn.exchange request) ++ [failing.brokenExchange request base source]) after

variable {responder : Responder ε σ} {request : CoordinationRequest} {base : Context}
  {limit : Nat} {seat : Seat ε} {seats : List (Seat ε)} {session after : Session ε σ}
  {error : OrchestrationError}

/-- A seat whose call fails makes that call and comes to its error. -/
theorem runSeat_error (h : runSeat responder request base seat session = (.error error, after)) :
    ∃ source, error = .endpoint seat.agent.name source ∧
      session.Conducts responder [seat.brokenExchange request base source] after := by
  obtain ⟨last, hexecuted, hconducts⟩ := session.conducts_execute responder seat.agent
    request.task (some (request.contextFor seat.agent.name base))
  simp only [runSeat, hexecuted] at h
  cases hanswer : session.answerTo responder seat.agent
      ⟨.task, request.task, request.task, some (request.contextFor seat.agent.name base), none⟩ with
  | ok output => simp [hanswer, Except.mapError] at h
  | error source =>
      rw [hanswer] at h hconducts
      obtain ⟨herror, rfl⟩ := Prod.mk.inj h
      exact ⟨source, (Except.error.inj herror).symm, hconducts⟩

/-- A seat that takes its turn comes before those that break off. -/
theorem Breaks.cons {turn : Turn ε} {middle : Session ε σ} {turns : List (Turn ε)}
    {failing : Seat ε} {source : EndpointError} (hbase : turn.base = base)
    (hfirst : Takes responder request session [turn.seat] [turn] [turn.entry] middle)
    (h : Breaks responder request base middle seats turns failing source after) :
    Breaks responder request base session (turn.seat :: seats) (turn :: turns) failing source
      after where
  seats_eq := (List.prefix_cons_inj _).2 h.seats_eq
  bases := List.forall_mem_cons.2 ⟨hbase, h.bases⟩
  conducts := hfirst.conducts.trans h.conducts

/-- Seats in turn that fail break off at the first call that fails, and come to its error. -/
theorem runInTurn_error
    (h : runInTurn responder request base seats session = (.error error, after)) :
    ∃ turns failing source, error = .endpoint failing.agent.name source ∧
      Breaks responder request base session seats turns failing source after := by
  induction seats generalizing session with
  | nil => simp [runInTurn] at h
  | cons seat rest ih =>
      rw [runInTurn] at h
      split at h
      next other middle hseat =>
        obtain ⟨herror, rfl⟩ := Prod.mk.inj h
        obtain rfl := Except.error.inj herror
        obtain ⟨source, rfl, hconducts⟩ := runSeat_error hseat
        refine ⟨[], seat, source, rfl, ?_, by simp, hconducts⟩
        exact List.prefix_append [seat] rest
      next entry middle hseat =>
        split at h
        next other last hrest =>
          obtain ⟨herror, rfl⟩ := Prod.mk.inj h
          obtain rfl := Except.error.inj herror
          obtain ⟨turn, rfl, hbase, rfl, htakes⟩ := runSeat_ok hseat
          obtain ⟨turns, failing, source, rfl, hbreaks⟩ := ih hrest
          exact ⟨turn :: turns, failing, source, rfl, hbreaks.cons hbase htakes⟩
        next => simp at h

/-! ## All strategies -/

/-- Seats that run at once fail with a call. -/
theorem runAtOnce_error
    (h : runAtOnce responder request base limit seats session = (.error error, after)) :
    error.IsFailedCall := by
  obtain ⟨last, -, hends, -⟩ :=
    Window.leads_runAtOnce responder request base limit seats session
  rw [h] at hends
  cases hends with
  | failed => exact ⟨_, _, rfl⟩

/-- Groups that fit the seats fail with a call. -/
theorem runGroups_error {sizes : List Nat} (hfits : sizes.sum ≤ seats.length)
    (h : runGroups responder request limit sizes base seats session = (.error error, after)) :
    error.IsFailedCall := by
  induction sizes generalizing base seats session with
  | nil => simp [runGroups] at h
  | cons size sizes ih =>
      rw [List.sum_cons] at hfits
      rw [runGroups, if_neg (by omega)] at h
      split at h
      next other middle hgroup =>
        obtain ⟨herror, -⟩ := Prod.mk.inj h
        obtain rfl := Except.error.inj herror
        exact runAtOnce_error hgroup
      next entries middle hgroup =>
        split at h
        next other last hothers =>
          obtain ⟨herror, rfl⟩ := Prod.mk.inj h
          obtain rfl := Except.error.inj herror
          apply ih _ hothers
          rw [List.length_drop]
          omega
        next => simp at h

/-- A run with a seat for every agent of its request fails with a call, or because of its groups
before anything happens. -/
theorem run_error (hseats : seats.length = request.agentNames.length)
    (h : run responder request limit seats session = (.error error, after)) :
    error.IsFailedCall ∨ (request.groupSizes = .error error ∧ after = session) := by
  rw [run] at h
  split at h
  next =>
    obtain ⟨turns, failing, source, rfl, -⟩ := runInTurn_error h
    exact Or.inl ⟨_, _, rfl⟩
  next => exact Or.inl (runAtOnce_error h)
  next =>
    split at h
    next other hother =>
      obtain ⟨herror, rfl⟩ := Prod.mk.inj h
      obtain rfl := Except.error.inj herror
      exact Or.inr ⟨hother, rfl⟩
    next sizes hsizes =>
      have hfits : sizes.sum ≤ seats.length := by
        rw [request.sum_groupSizes hsizes, hseats]
      exact Or.inl (runGroups_error hfits h)

end Coordination

end Ensemble
