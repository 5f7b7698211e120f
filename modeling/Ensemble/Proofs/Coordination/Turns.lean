/-
# Turns of a coordinated task

A turn is one seat's call that succeeded: the common context that its agent saw, and the output.
A run that succeeds is made of one turn for each seat, in the order of the seats, whatever the
strategy: the entries are read off the turns, and the exchanges that took place are theirs. Each
strategy is treated by its own recursion; what is known about the common context of a turn is
kept beside.
-/

import Mathlib.Algebra.Ring.Nat
import Ensemble.Coordination.Run
import Ensemble.Proofs.Session.Exchange

namespace Ensemble

variable {ε σ : Type}

/-- The entry or the error that the answer to a seat's call makes. -/
def Seat.entryOf (seat : Seat ε) : Except EndpointError String →
    Except OrchestrationError CoordinationEntry
  | .ok output => .ok ⟨seat.key, seat.agent.name, output⟩
  | .error source => .error (.endpoint seat.agent.name source)

/-- A seat whose call succeeded, with the common context and the output. -/
structure Turn (ε : Type) where
  seat : Seat ε
  base : Context
  output : String

namespace Turn

/-- The entry that a turn contributes to the report. -/
def entry (turn : Turn ε) : CoordinationEntry :=
  ⟨turn.seat.key, turn.seat.agent.name, turn.output⟩

/-- The exchange of a turn. -/
def exchange (request : CoordinationRequest) (turn : Turn ε) : Exchange ε :=
  .ofTask turn.seat.agent request.task
    (some (request.contextFor turn.seat.agent.name turn.base)) (.ok turn.output)

end Turn

namespace Coordination

/-- From one session to another the seats took exactly the given turns, in their order, and the
turns make the entries. -/
structure Takes (responder : Responder ε σ) (request : CoordinationRequest)
    (before : Session ε σ) (seats : List (Seat ε)) (turns : List (Turn ε))
    (entries : List CoordinationEntry) (after : Session ε σ) : Prop where
  seats_eq : turns.map Turn.seat = seats
  entries_eq : turns.map Turn.entry = entries
  conducts : before.Conducts responder (turns.map (Turn.exchange request)) after

namespace Takes

variable {responder : Responder ε σ} {request : CoordinationRequest}
  {before middle after : Session ε σ}

theorem nil (session : Session ε σ) : Takes responder request session [] [] [] session :=
  ⟨rfl, rfl, .refl session⟩

/-- Turns follow on turns. -/
theorem append {seats seats' : List (Seat ε)} {turns turns' : List (Turn ε)}
    {entries entries' : List CoordinationEntry}
    (hfirst : Takes responder request before seats turns entries middle)
    (hsecond : Takes responder request middle seats' turns' entries' after) :
    Takes responder request before (seats ++ seats') (turns ++ turns') (entries ++ entries')
      after where
  seats_eq := by rw [List.map_append, hfirst.seats_eq, hsecond.seats_eq]
  entries_eq := by rw [List.map_append, hfirst.entries_eq, hsecond.entries_eq]
  conducts := by
    rw [List.map_append]
    exact hfirst.conducts.trans hsecond.conducts

theorem cons {turn : Turn ε} {seats : List (Seat ε)} {turns : List (Turn ε)}
    {entries : List CoordinationEntry}
    (hfirst : Takes responder request before [turn.seat] [turn] [turn.entry] middle)
    (hrest : Takes responder request middle seats turns entries after) :
    Takes responder request before (turn.seat :: seats) (turn :: turns) (turn.entry :: entries)
      after :=
  hfirst.append hrest

variable {seats : List (Seat ε)} {turns : List (Turn ε)} {entries : List CoordinationEntry}

theorem length_seats (h : Takes responder request before seats turns entries after) :
    seats.length = turns.length := by
  rw [← h.seats_eq, List.length_map]

theorem length_entries (h : Takes responder request before seats turns entries after) :
    entries.length = turns.length := by
  rw [← h.entries_eq, List.length_map]

end Takes

variable {responder : Responder ε σ} {request : CoordinationRequest} {base : Context}
  {limit : Nat} {seats : List (Seat ε)} {session after : Session ε σ}
  {entries : List CoordinationEntry}

/-- A seat whose call succeeds takes a turn. -/
theorem runSeat_ok {seat : Seat ε} {entry : CoordinationEntry}
    (h : runSeat responder request base seat session = (.ok entry, after)) :
    ∃ turn : Turn ε, turn.seat = seat ∧ turn.base = base ∧ turn.entry = entry ∧
      Takes responder request session [turn.seat] [turn] [turn.entry] after := by
  let assignment : Session.Assignment :=
    ⟨.task, request.task, request.task, some (request.contextFor seat.agent.name base), none⟩
  obtain ⟨hresult, hconducts⟩ := session.conducts_carryOut responder seat.agent assignment
  simp only [runSeat, Session.execute] at h
  rcases hcarried : session.carryOut responder seat.agent assignment with ⟨result, last⟩
  rw [hcarried] at h hresult hconducts
  cases hanswer : session.answerTo responder seat.agent assignment with
  | ok output =>
      rw [hanswer] at hresult hconducts
      obtain rfl : result = .ok output := hresult
      obtain ⟨hentry, rfl⟩ := Prod.mk.inj h
      exact ⟨⟨seat, base, output⟩, rfl, rfl, Except.ok.inj hentry, rfl, rfl, hconducts⟩
  | error source =>
      rw [hanswer] at hresult
      obtain rfl : result = .error (.endpoint seat.agent.name source) := hresult
      simp at h

/-- One seat after another takes a turn, all with the same common context. -/
theorem runInTurn_ok (h : runInTurn responder request base seats session = (.ok entries, after)) :
    ∃ turns, Takes responder request session seats turns entries after ∧
      ∀ turn ∈ turns, turn.base = base := by
  induction seats generalizing session entries with
  | nil =>
      obtain ⟨hentries, rfl⟩ := Prod.mk.inj h
      cases hentries
      exact ⟨[], .nil session, by simp⟩
  | cons seat rest ih =>
      rw [runInTurn] at h
      split at h
      next => simp at h
      next entry middle hseat =>
        split at h
        next => simp at h
        next others last hrest =>
          obtain ⟨hentries, rfl⟩ := Prod.mk.inj h
          cases hentries
          obtain ⟨turn, rfl, hbase, rfl, htakes⟩ := runSeat_ok hseat
          obtain ⟨turns, hturns, hbases⟩ := ih hrest
          exact ⟨turn :: turns, htakes.cons hturns, List.forall_mem_cons.2 ⟨hbase, hbases⟩⟩

/-- Results are collected only if there is no error among them. -/
theorem collect_ok {results : List (Except OrchestrationError CoordinationEntry)}
    (h : collect results = .ok entries) : results = entries.map .ok := by
  induction results generalizing entries with
  | nil =>
      obtain rfl : [] = entries := Except.ok.inj h
      rfl
  | cons first rest ih =>
      cases first with
      | error error => simp [collect] at h
      | ok entry =>
          rw [collect] at h
          cases hrest : collect rest with
          | error error => simp [hrest, Except.map] at h
          | ok others =>
              rw [hrest] at h
              obtain rfl : entry :: others = entries := Except.ok.inj h
              rw [ih hrest, List.map_cons]

/-- What a window comes to that succeeds: the results that have started are entries, and each
waiting seat takes a turn, in order, with the same common context. -/
def WindowTakes (responder : Responder ε σ) (request : CoordinationRequest) (base : Context)
    (started : List (Except OrchestrationError CoordinationEntry)) (seats : List (Seat ε))
    (before : Session ε σ) (entries : List CoordinationEntry) (after : Session ε σ) : Prop :=
  ∃ begun turns others, started = begun.map .ok ∧ entries = begun ++ others ∧
    Takes responder request before seats turns others after ∧ ∀ turn ∈ turns, turn.base = base

variable {started : List (Except OrchestrationError CoordinationEntry)}

/-- A seat whose call joined the window takes its turn before the seats that wait behind it. -/
theorem WindowTakes.join {seat : Seat ε}
    (h : WindowTakes responder request base
      (started ++ [(runSeat responder request base seat session).1]) seats
      (runSeat responder request base seat session).2 entries after) :
    WindowTakes responder request base started (seat :: seats) session entries after := by
  obtain ⟨begun, turns, others, hbegun, hentries, hturns, hbases⟩ := h
  obtain ⟨earlier, last, rfl, hearlier, hlast⟩ := List.append_eq_map_iff.1 hbegun
  obtain ⟨entry, rfl, hentry⟩ := List.map_eq_singleton_iff.1 hlast
  have hseat : runSeat responder request base seat session =
      (.ok entry, (runSeat responder request base seat session).2) :=
    Prod.ext hentry.symm rfl
  obtain ⟨turn, rfl, hbase, rfl, htakes⟩ := runSeat_ok hseat
  rw [List.append_assoc, List.singleton_append] at hentries
  exact ⟨earlier, turn :: turns, turn.entry :: others, hearlier.symm, hentries,
    htakes.cons hturns, List.forall_mem_cons.2 ⟨hbase, hbases⟩⟩

/-- A result that is taken from the front of the window comes first. -/
theorem WindowTakes.take (h : WindowTakes responder request base started seats session entries
    after) (entry : CoordinationEntry) :
    WindowTakes responder request base (.ok entry :: started) seats session (entry :: entries)
      after := by
  obtain ⟨begun, turns, others, hbegun, hentries, hturns, hbases⟩ := h
  exact ⟨entry :: begun, turns, others, by rw [hbegun, List.map_cons],
    by rw [hentries, List.cons_append], hturns, hbases⟩

/-- Seats take their turns in order however many calls may be under way. -/
theorem runWindow_ok
    (h : runWindow responder request base limit started seats session = (.ok entries, after)) :
    WindowTakes responder request base started seats session entries after := by
  induction seats generalizing started session entries with
  | nil =>
      rw [runWindow] at h
      obtain ⟨hcollect, rfl⟩ := Prod.mk.inj h
      exact ⟨entries, [], [], collect_ok hcollect, by simp, .nil session, by simp⟩
  | cons seat rest ih =>
      -- Whether or not a result is taken first, the seat's call joins the window at its end.
      cases started with
      | nil =>
          rw [runWindow] at h
          have hjoined := ih h
          rw [← List.nil_append [_]] at hjoined
          exact hjoined.join
      | cons first started =>
          rw [runWindow.eq_def] at h
          simp only at h
          split at h
          next => exact (ih h).join
          next =>
            cases first with
            | error error => simp at h
            | ok entry =>
                simp only at h
                split at h
                next => simp at h
                next later last hlater =>
                  obtain ⟨hentries, rfl⟩ := Prod.mk.inj h
                  cases hentries
                  exact (ih hlater).join.take entry

/-- All seats at once take a turn each, all with the same common context. -/
theorem runAtOnce_ok
    (h : runAtOnce responder request base limit seats session = (.ok entries, after)) :
    ∃ turns, Takes responder request session seats turns entries after ∧
      ∀ turn ∈ turns, turn.base = base := by
  obtain ⟨begun, turns, others, hbegun, rfl, hturns, hbases⟩ := runWindow_ok h
  obtain rfl : begun = [] := List.map_eq_nil_iff.1 hbegun.symm
  exact ⟨turns, hturns, hbases⟩

/-- The position at which a group of the given sizes starts. -/
def groupStart (sizes : List Nat) (group : Nat) : Nat := (sizes.take group).sum

/-- A position lies in a group of the given sizes. -/
def InGroup (sizes : List Nat) (group position : Nat) : Prop :=
  groupStart sizes group ≤ position ∧ position < groupStart sizes (group + 1)

@[simp] theorem groupStart_zero (sizes : List Nat) : groupStart sizes 0 = 0 := by
  simp [groupStart]

@[simp] theorem groupStart_cons_succ (size : Nat) (sizes : List Nat) (group : Nat) :
    groupStart (size :: sizes) (group + 1) = size + groupStart sizes group := by
  simp [groupStart]

theorem withOutputs_append (context : Context) (first second : List CoordinationEntry) :
    withOutputs context (first ++ second) = withOutputs (withOutputs context first) second := by
  simp [withOutputs, Dictionary.insertAll]

/-- Groups that succeed are a first group that succeeds, and the others after it. -/
theorem runGroups_cons_ok {size : Nat} {sizes : List Nat}
    (h : runGroups responder request limit (size :: sizes) base seats session =
      (.ok entries, after)) :
    size ≤ seats.length ∧ ∃ first others middle, entries = first ++ others ∧
      runAtOnce responder request base limit (seats.take size) session = (.ok first, middle) ∧
      runGroups responder request limit sizes (withOutputs base first) (seats.drop size) middle =
        (.ok others, after) := by
  rw [runGroups] at h
  split at h
  next => simp at h
  next hfits =>
    split at h
    next => simp at h
    next first middle hfirst =>
      split at h
      next => simp at h
      next others last hothers =>
        obtain ⟨hentries, rfl⟩ := Prod.mk.inj h
        cases hentries
        exact ⟨Nat.le_of_not_lt hfits, first, others, middle, rfl, hfirst, hothers⟩

/-- The common context of every turn holds the outputs of exactly the groups before its own. -/
def BasesFollow (sizes : List Nat) (base : Context) (turns : List (Turn ε))
    (entries : List CoordinationEntry) : Prop :=
  ∀ group position turn, InGroup sizes group position → turns[position]? = some turn →
    turn.base = withOutputs base (entries.take (groupStart sizes group))

theorem BasesFollow.nil (base : Context) : BasesFollow [] base ([] : List (Turn ε)) [] := by
  simp [BasesFollow]

/-- A first group sees no outputs, and the groups behind it see its own. -/
theorem BasesFollow.cons {size : Nat} {sizes : List Nat} {turns later : List (Turn ε)}
    {first others : List CoordinationEntry} (hlength : turns.length = size)
    (hfirst : first.length = size) (hbases : ∀ turn ∈ turns, turn.base = base)
    (h : BasesFollow sizes (withOutputs base first) later others) :
    BasesFollow (size :: sizes) base (turns ++ later) (first ++ others) := by
  intro group position turn hgroup hturn
  obtain ⟨hstart, hend⟩ := hgroup
  cases group with
  | zero =>
      rw [groupStart_cons_succ, groupStart_zero] at hend
      rw [List.getElem?_append_left (by omega)] at hturn
      rw [hbases turn (List.mem_of_getElem? hturn)]
      rfl
  | succ group =>
      rw [groupStart_cons_succ] at hstart hend
      rw [List.getElem?_append_right (by omega), hlength] at hturn
      have hbefore := h group (position - size) turn ⟨by omega, by omega⟩ hturn
      rw [hbefore, groupStart_cons_succ, ← hfirst, List.take_length_add_append,
        withOutputs_append]

/-- Groups take the turns of their seats, one group after another, and the common context of a
turn holds the outputs of exactly the groups before. -/
theorem runGroups_ok {sizes : List Nat}
    (h : runGroups responder request limit sizes base seats session = (.ok entries, after)) :
    ∃ turns, Takes responder request session (seats.take sizes.sum) turns entries after ∧
      sizes.sum ≤ seats.length ∧ BasesFollow sizes base turns entries := by
  induction sizes generalizing base seats session entries with
  | nil =>
      obtain ⟨hentries, rfl⟩ := Prod.mk.inj h
      cases hentries
      exact ⟨[], .nil session, Nat.zero_le _, .nil base⟩
  | cons size sizes ih =>
      obtain ⟨hfits, first, others, middle, rfl, hfirst, hothers⟩ := runGroups_cons_ok h
      obtain ⟨turns, hturns, hbases⟩ := runAtOnce_ok hfirst
      obtain ⟨later, hlater, hsum, hfollow⟩ := ih hothers
      have hlength : turns.length = size := by
        rw [← hturns.length_seats, List.length_take, Nat.min_eq_left hfits]
      have hentries : first.length = size := hturns.length_entries.trans hlength
      refine ⟨turns ++ later, ?_, ?_, hfollow.cons hlength hentries hbases⟩
      · rw [List.sum_cons, List.take_add]
        exact hturns.append hlater
      · rw [List.length_drop] at hsum
        rw [List.sum_cons]
        omega

end Coordination

end Ensemble
