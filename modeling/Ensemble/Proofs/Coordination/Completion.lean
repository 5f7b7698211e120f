/-
# Bounded runs that are completed

The calls of seats that run at once finish in any order. Whatever the order is, a run that is
completed has made one call for every seat, in the order of the seats, and its entries are the
answers to these calls. Only the histories tell in which order the answers came in: an agent with
several seats notes its calls in that order. Groups that are completed one after another come to
the same, and what an agent sees of the groups before its own does not depend on the order either.
-/

import Ensemble.Proofs.Coordination.Alignment
import Ensemble.Proofs.Coordination.Schedule

namespace Ensemble

variable {ε σ : Type}

/-- The exchange of a call that has started. -/
def SeatCall.exchange (request : CoordinationRequest) (base : Context) (call : SeatCall ε) :
    Exchange ε :=
  .ofTask call.seat.agent request.task (some (request.contextFor call.seat.agent.name base))
    call.answer

/-- To note an answer is to change histories only. -/
theorem Seat.note_eq (request : CoordinationRequest) (base : Context) (call : SeatCall ε)
    (session : Session ε σ) :
    let noted := call.seat.note request.task call.answer session
    noted = { session with registry := noted.registry } ∧
      noted.registry.agents =
        session.registry.agents.map (Agent.noted [call.exchange request base]) := by
  obtain ⟨seat, answer, finished⟩ := call
  cases answer with
  | ok output =>
      have hnote : (SeatCall.exchange request base ⟨seat, .ok output, finished⟩).note? =
          some ⟨.task, request.task, output⟩ := rfl
      exact ⟨rfl, List.map_congr_left fun agent _ => (Agent.noted_of_ok hnote agent).symm⟩
  | error source =>
      refine ⟨rfl, ?_⟩
      rw [Agent.noted_of_error rfl, List.map_id]
      rfl

/-- Calls that came to entries are turns. -/
theorem SeatCall.exists_turns (request : CoordinationRequest) (base : Context)
    {calls : List (SeatCall ε)} {entries : List CoordinationEntry}
    (h : calls.map SeatCall.result = entries.map .ok) :
    ∃ turns : List (Turn ε), turns.map Turn.seat = calls.map SeatCall.seat ∧
      turns.map Turn.entry = entries ∧
      turns.map (Turn.exchange request) = calls.map (SeatCall.exchange request base) ∧
      ∀ turn ∈ turns, turn.base = base := by
  induction calls generalizing entries with
  | nil =>
      obtain rfl := List.map_eq_nil_iff.1 h.symm
      exact ⟨[], rfl, rfl, rfl, by simp⟩
  | cons call calls ih =>
      obtain ⟨entry, entries, rfl, hentry, hentries⟩ := List.map_eq_cons_iff.1 h.symm
      obtain ⟨turns, hseats, hmade, hexchanges, hbases⟩ := ih hentries.symm
      obtain ⟨seat, answer, finished⟩ := call
      cases answer with
      | error source => cases hentry
      | ok output =>
          refine ⟨⟨seat, base, output⟩ :: turns, ?_, ?_, ?_, List.forall_mem_cons.2 ⟨rfl, hbases⟩⟩
          · rw [List.map_cons, hseats, List.map_cons]
          · rw [List.map_cons, hmade, Except.ok.inj hentry]
            rfl
          · rw [List.map_cons, hexchanges, List.map_cons]
            rfl

namespace Window

variable {responder : Responder ε σ} {request : CoordinationRequest} {base : Context}
  {limit : Nat} {before : Session ε σ} {seats : List (Seat ε)} {window next : Window ε σ}

/-- How a window came about. In the order of the seats calls were made for the first of them, each
answered in the state that those before it left; some were taken, and the others are in the window.
Those that have finished were noted, in an order of their own, and nothing else was changed. -/
structure Since (responder : Responder ε σ) (request : CoordinationRequest) (base : Context)
    (before : Session ε σ) (seats : List (Seat ε)) (made gone : List (SeatCall ε))
    (noted : List (Exchange ε)) (window : Window ε σ) : Prop where
  made_eq : made = gone ++ window.calls
  seats_eq : made.map SeatCall.seat ++ window.waiting = seats
  results_eq : gone.map SeatCall.result = window.taken.map .ok
  finished : ∀ call ∈ gone, call.finished = true
  calls : window.session.calls =
    before.calls ++ (made.map (SeatCall.exchange request base)).map Exchange.call
  answered : Answered responder before.world
    ((made.map (SeatCall.exchange request base)).map Exchange.call) window.session.world
  noted_perm : noted.Perm ((made.filter SeatCall.finished).map (SeatCall.exchange request base))
  agents : window.session.registry.agents = before.registry.agents.map (Agent.noted noted)
  defaultEndpoint : window.session.defaultEndpoint = before.defaultEndpoint
  parallelLimit : window.session.parallelLimit = before.parallelLimit

theorem since_opening (responder : Responder ε σ) (request : CoordinationRequest) (base : Context)
    (seats : List (Seat ε)) (session : Session ε σ) :
    (opening seats session).Since responder request base session seats [] [] [] where
  made_eq := rfl
  seats_eq := rfl
  results_eq := rfl
  finished := by simp
  calls := (List.append_nil session.calls).symm
  answered := .done _
  noted_perm := .refl _
  agents := by simp [opening]
  defaultEndpoint := rfl
  parallelLimit := rfl

/-- Whatever happens in a window, it is known how it came about. -/
theorem Step.since (h : Step responder request base limit window next)
    {made gone : List (SeatCall ε)} {noted : List (Exchange ε)}
    (hsince : window.Since responder request base before seats made gone noted) :
    ∃ made gone noted, next.Since responder request base before seats made gone noted := by
  cases h with
  | @start taken calls seat waiting session room =>
      let call : SeatCall ε := ⟨seat, (seat.ask responder request base session).1, false⟩
      refine ⟨made ++ [call], gone, noted, ?_, ?_, hsince.results_eq, hsince.finished, ?_, ?_, ?_,
        hsince.agents, hsince.defaultEndpoint, hsince.parallelLimit⟩
      · rw [hsince.made_eq, List.append_assoc]
      · rw [← hsince.seats_eq, List.map_append, List.append_assoc]
        rfl
      · rw [List.map_append, List.map_append, ← List.append_assoc, ← hsince.calls]
        rfl
      · rw [List.map_append, List.map_append]
        exact hsince.answered.append (.call rfl (.done _))
      · rw [List.filter_append]
        simpa [call] using hsince.noted_perm
  | @finish taken front seat answer behind waiting session =>
      -- The call is noted last, wherever its seat is.
      let call : SeatCall ε := ⟨seat, answer, true⟩
      obtain ⟨hkept, hagents⟩ := Seat.note_eq request base call session
      have hmade : made = gone ++ front ++ ⟨seat, answer, false⟩ :: behind := by
        rw [hsince.made_eq, List.append_assoc]
      have hexchanges : (gone ++ front ++ call :: behind).map (SeatCall.exchange request base) =
          made.map (SeatCall.exchange request base) := by
        simp only [hmade, List.map_append, List.map_cons]
        rfl
      have hfinished : ((gone ++ front ++ call :: behind).filter SeatCall.finished).Perm
          (made.filter SeatCall.finished ++ [call]) := by
        simp only [hmade, List.filter_append, List.filter_cons, call, if_true,
          Bool.false_eq_true, if_false]
        exact List.perm_middle.trans (List.perm_append_singleton _ _).symm
      refine ⟨gone ++ front ++ call :: behind, gone, noted ++ [call.exchange request base], ?_, ?_,
        hsince.results_eq, hsince.finished, ?_, ?_, ?_, ?_,
        (congrArg Session.defaultEndpoint hkept).trans hsince.defaultEndpoint,
        (congrArg Session.parallelLimit hkept).trans hsince.parallelLimit⟩
      · rw [List.append_assoc]
      · simp only [← hsince.seats_eq, hmade, List.map_append, List.map_cons, call]
      · rw [hexchanges]
        exact (congrArg Session.calls hkept).trans hsince.calls
      · rw [hexchanges]
        exact (congrArg Session.world hkept).symm ▸ hsince.answered
      · have hall := hfinished.map (SeatCall.exchange request base)
        rw [List.map_append] at hall
        exact (hsince.noted_perm.append_right _).trans hall.symm
      · refine hagents.trans ?_
        rw [hsince.agents, List.map_map]
        exact List.map_congr_left fun agent _ => (agent.noted_append _ _).symm
  | @take taken seat output calls waiting session =>
      refine ⟨made, gone ++ [⟨seat, .ok output, true⟩], noted, ?_, hsince.seats_eq, ?_, ?_,
        hsince.calls, hsince.answered, hsince.noted_perm, hsince.agents, hsince.defaultEndpoint,
        hsince.parallelLimit⟩
      · rw [hsince.made_eq, List.append_assoc]
        rfl
      · rw [List.map_append, hsince.results_eq, List.map_append]
        rfl
      · exact List.forall_mem_append.2 ⟨hsince.finished, by simp⟩

theorem Reaches.since (h : Reaches responder request base limit window next)
    {made gone : List (SeatCall ε)} {noted : List (Exchange ε)}
    (hsince : window.Since responder request base before seats made gone noted) :
    ∃ made gone noted, next.Since responder request base before seats made gone noted := by
  induction h with
  | refl => exact ⟨made, gone, noted, hsince⟩
  | tail _ hstep ih =>
      obtain ⟨made, gone, noted, hsince⟩ := ih
      exact hstep.since hsince

end Window

/-! ## Completed runs -/

namespace Coordination

/-- From one session to another the seats took the given turns, whose calls were made in their
order. What their agents noted may have come in in another order. -/
structure Completes (responder : Responder ε σ) (request : CoordinationRequest)
    (before : Session ε σ) (seats : List (Seat ε)) (turns : List (Turn ε))
    (entries : List CoordinationEntry) (after : Session ε σ) : Prop where
  seats_eq : turns.map Turn.seat = seats
  entries_eq : turns.map Turn.entry = entries
  calls : after.calls = before.calls ++ (turns.map (Turn.exchange request)).map Exchange.call
  answered : Answered responder before.world
    ((turns.map (Turn.exchange request)).map Exchange.call) after.world
  agents : ∃ noted, noted.Perm (turns.map (Turn.exchange request)) ∧
    after.registry.agents = before.registry.agents.map (Agent.noted noted)
  defaultEndpoint : after.defaultEndpoint = before.defaultEndpoint
  parallelLimit : after.parallelLimit = before.parallelLimit

variable {responder : Responder ε σ} {request : CoordinationRequest} {base : Context}
  {limit : Nat} {before middle after : Session ε σ} {seats : List (Seat ε)}
  {turns : List (Turn ε)} {entries : List CoordinationEntry}

/-- In whatever order calls finish, a run of seats at once that is completed gives every seat its
turn: its entry has the answer of the one call that was made for it, with the common context. -/
theorem completes_of_reaches {last : Window ε σ}
    (h : (Window.opening seats before).Reaches responder request base limit last)
    (hends : last.Ends (.ok entries)) :
    ∃ turns, Completes responder request before seats turns entries last.session ∧
      ∀ turn ∈ turns, turn.base = base := by
  obtain ⟨made, gone, noted, hsince⟩ :=
    h.since (Window.since_opening responder request base seats before)
  cases hends with
  | completed =>
      obtain rfl : made = gone := hsince.made_eq.trans (List.append_nil gone)
      obtain ⟨turns, hseats, hentries, hexchanges, hbases⟩ :=
        SeatCall.exists_turns request base hsince.results_eq
      have hall : made.filter SeatCall.finished = made := List.filter_eq_self.2 hsince.finished
      have hcalls := hsince.calls
      have hanswered := hsince.answered
      have hperm := hsince.noted_perm
      have hmade := hsince.seats_eq
      rw [hall] at hperm
      rw [← hexchanges] at hcalls hanswered hperm
      rw [List.append_nil] at hmade
      exact ⟨turns, ⟨hseats.trans hmade, hentries, hcalls, hanswered, ⟨noted, hperm, hsince.agents⟩,
        hsince.defaultEndpoint, hsince.parallelLimit⟩, hbases⟩

/-- Turns that were noted in their own order are completed. -/
theorem Takes.completes (h : Takes responder request before seats turns entries after) :
    Completes responder request before seats turns entries after :=
  ⟨h.seats_eq, h.entries_eq, h.conducts.calls, h.conducts.answered, ⟨_, .refl _, h.conducts.agents⟩,
    h.conducts.defaultEndpoint, h.conducts.parallelLimit⟩

namespace Completes

/-- The entries have the keys and the agents of the names that seats were taken for. -/
theorem entries_for {registry : Registry ε} {names : List String}
    (h : Completes responder request before seats turns entries after)
    (hseats : SeatsFor registry names seats) :
    entries.map CoordinationEntry.key = resultKeys names ∧
      entries.map CoordinationEntry.agent = names := by
  rw [← h.entries_eq]
  exact ⟨hseats.keys_of_turns h.seats_eq, hseats.agents_of_turns h.seats_eq⟩

/-- Every agent notes its own calls, and has all of them in the end, as far as its cap allows. -/
theorem notes (h : Completes responder request before seats turns entries after) :
    List.Forall₂ (fun agent later => ∃ notes,
        notes.Perm (request.notesFor entries agent.name) ∧ Agent.Notes notes agent later)
      before.registry.agents after.registry.agents := by
  obtain ⟨noted, hperm, hagents⟩ := h.agents
  rw [hagents, List.forall₂_map_right_iff, List.forall₂_same]
  intro agent _
  refine ⟨_, ?_, agent.notes_noted noted⟩
  rw [← h.entries_eq, ← Turn.entriesFor_exchanges]
  exact hperm.filterMap _

/-- Runs are completed one after another. -/
theorem append {others : List (Seat ε)} {later : List (Turn ε)} {more : List CoordinationEntry}
    (hfirst : Completes responder request before seats turns entries middle)
    (hsecond : Completes responder request middle others later more after) :
    Completes responder request before (seats ++ others) (turns ++ later) (entries ++ more)
      after where
  seats_eq := by rw [List.map_append, hfirst.seats_eq, hsecond.seats_eq]
  entries_eq := by rw [List.map_append, hfirst.entries_eq, hsecond.entries_eq]
  calls := by
    rw [hsecond.calls, hfirst.calls, List.map_append, List.map_append, List.append_assoc]
  answered := by
    rw [List.map_append, List.map_append]
    exact hfirst.answered.append hsecond.answered
  agents := by
    obtain ⟨noted, hperm, hagents⟩ := hfirst.agents
    obtain ⟨notedLater, hpermLater, hagentsLater⟩ := hsecond.agents
    refine ⟨noted ++ notedLater, ?_, ?_⟩
    · rw [List.map_append]
      exact hperm.append hpermLater
    · rw [hagentsLater, hagents, List.map_map]
      exact List.map_congr_left fun agent _ => (agent.noted_append _ _).symm
  defaultEndpoint := hsecond.defaultEndpoint.trans hfirst.defaultEndpoint
  parallelLimit := hsecond.parallelLimit.trans hfirst.parallelLimit

end Completes

/-! ## Groups that are completed -/

/-- Groups of seats are completed one after another. The calls of a group finish in any order, and
the groups behind it see its outputs. -/
inductive GroupsComplete (responder : Responder ε σ) (request : CoordinationRequest)
    (limit : Nat) : List Nat → Context → List (Seat ε) → Session ε σ → List CoordinationEntry →
      Session ε σ → Prop
  | done (base : Context) (seats : List (Seat ε)) (session : Session ε σ) :
      GroupsComplete responder request limit [] base seats session [] session
  | group {size : Nat} {sizes : List Nat} {base : Context} {seats : List (Seat ε)}
      {before after : Session ε σ} {last : Window ε σ} {entries others : List CoordinationEntry}
      (fits : size ≤ seats.length)
      (reaches : (Window.opening (seats.take size) before).Reaches responder request base
        (max limit 1) last)
      (ends : last.Ends (.ok entries))
      (behind : GroupsComplete responder request limit sizes (withOutputs base entries)
        (seats.drop size) last.session others after) :
      GroupsComplete responder request limit (size :: sizes) base seats before (entries ++ others)
        after

/-- Groups that succeed are completed. -/
theorem groupsComplete_of_runGroups {sizes : List Nat}
    (h : runGroups responder request limit sizes base seats before = (.ok entries, after)) :
    GroupsComplete responder request limit sizes base seats before entries after := by
  induction sizes generalizing base seats before entries with
  | nil =>
      obtain ⟨hentries, rfl⟩ := Prod.mk.inj h
      cases hentries
      exact .done base seats before
  | cons size sizes ih =>
      obtain ⟨hfits, first, others, middle, rfl, hfirst, hothers⟩ := runGroups_cons_ok h
      obtain ⟨last, hreaches, hends, hsession⟩ :=
        Window.leads_runAtOnce responder request base limit (seats.take size) before
      rw [hfirst] at hends hsession
      obtain rfl : last.session = middle := hsession
      exact .group hfits hreaches hends (ih hothers)

/-- In whatever order calls finish, groups that are completed give every seat its turn, and the
common context of a turn holds the outputs of exactly the groups before. -/
theorem GroupsComplete.completes {sizes : List Nat}
    (h : GroupsComplete responder request limit sizes base seats before entries after) :
    ∃ turns, Completes responder request before (seats.take sizes.sum) turns entries after ∧
      sizes.sum ≤ seats.length ∧ BasesFollow sizes base turns entries := by
  induction h with
  | done base seats session =>
      exact ⟨[], (Takes.nil session).completes, Nat.zero_le _, .nil base⟩
  | @group size sizes base seats before after last entries others fits reaches ends behind ih =>
      obtain ⟨turns, hturns, hbases⟩ := completes_of_reaches reaches ends
      obtain ⟨later, hlater, hsum, hfollow⟩ := ih
      have hlength : turns.length = size := by
        rw [← List.length_map Turn.seat, hturns.seats_eq, List.length_take, Nat.min_eq_left fits]
      have hentries : entries.length = size := by
        rw [← hturns.entries_eq, List.length_map, hlength]
      refine ⟨turns ++ later, ?_, ?_, hfollow.cons hlength hentries hbases⟩
      · rw [List.sum_cons, List.take_add]
        exact hturns.append hlater
      · rw [List.length_drop] at hsum
        rw [List.sum_cons]
        omega

/-- However their calls finish, groups of all seats that are completed line up with the names that
the seats were taken for. Every seat has made its one call, in order, and the entries have the keys
and the agents of the names and the answers to these calls; what an agent saw are the outputs of the
groups before its own, and it has noted its own answers. -/
theorem GroupsComplete.lines_up {sizes : List Nat} {names : List String}
    (h : GroupsComplete responder request limit sizes base seats before entries after)
    (hall : sizes.sum = seats.length) (hseats : SeatsFor before.registry names seats) :
    ∃ turns, Completes responder request before seats turns entries after ∧
      BasesFollow sizes base turns entries ∧
      entries.map CoordinationEntry.key = resultKeys names ∧
      entries.map CoordinationEntry.agent = names ∧
      List.Forall₂ (fun agent later => ∃ notes,
          notes.Perm (request.notesFor entries agent.name) ∧ Agent.Notes notes agent later)
        before.registry.agents after.registry.agents := by
  obtain ⟨turns, hturns, -, hfollow⟩ := h.completes
  rw [hall, List.take_length] at hturns
  obtain ⟨hkeys, hagents⟩ := hturns.entries_for hseats
  exact ⟨turns, hturns, hfollow, hkeys, hagents, hturns.notes⟩

/-- An agent with two seats. -/
def twoSeats : List (Seat Unit) := [⟨"a#0", .new "a" "" "" ()⟩, ⟨"a#1", .new "a" "" "" ()⟩]

/-- An endpoint that counts its calls. -/
def counting : Responder Unit Nat := fun _ _ _ count => (.ok (toString count), count + 1)

/-- The second call may finish first. The entries are in the order of the seats then, and the notes
of their agent in the other. -/
theorem groupsComplete_reversed :
    ∃ after, GroupsComplete counting (.new "Review" ["a", "a"] .parallel) 2 [2] ∅ twoSeats
        ((Session.start () 0).addAgent "a" "" "" none).2
        [⟨"a#0", "a", "0"⟩, ⟨"a#1", "a", "1"⟩] after ∧
      (after.registry.find? "a").map (·.history.entries) =
        some [⟨.task, "Review", "1"⟩, ⟨.task, "Review", "0"⟩] := by
  have hreaches : ∃ last, (Window.opening twoSeats
      ((Session.start () 0).addAgent "a" "" "" none).2).Reaches counting
        (.new "Review" ["a", "a"] .parallel) ∅ 2 last ∧
      last.Ends (.ok [⟨"a#0", "a", "0"⟩, ⟨"a#1", "a", "1"⟩]) ∧
      (last.session.registry.find? "a").map (·.history.entries) =
        some [⟨.task, "Review", "1"⟩, ⟨.task, "Review", "0"⟩] :=
    ⟨_, .head (.start (by decide)) (.head (.start (by decide)) (.head (.finish [_])
      (.head (.finish []) (.head .take (.head .take .refl))))), .completed, rfl⟩
  obtain ⟨last, hreaches, hends, hnotes⟩ := hreaches
  exact ⟨last.session, .group (Nat.le_refl 2) hreaches hends (.done _ _ _), hnotes⟩

end Coordination

end Ensemble
