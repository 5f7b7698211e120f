/-
# Histories and their logs

Calls that succeed go into a log that nobody trims. A history shows the end of that log: so many of
the oldest entries are dropped, and all the others are there. Whatever happens to a history, the
number of dropped entries never falls, so an entry that was dropped does not come back, not even
when the cap is raised.
-/

import Ensemble.Agent.History

namespace Ensemble

/-- What can happen to a history: a call of its agent succeeds or fails, or the cap is set. -/
inductive HistoryEvent where
  | succeeded (entry : HistoryEntry)
  | failed
  | capped (cap : Nat)
deriving DecidableEq, Repr

/-- What an event adds to the log. -/
def HistoryEvent.entry? : HistoryEvent → Option HistoryEntry
  | succeeded entry => some entry
  | _ => none

namespace History

/-- The history after an event. -/
def after (history : History) : HistoryEvent → History
  | .succeeded entry => history.push entry
  | .failed => history
  | .capped cap => history.withCap cap

/-- What an event is allowed to do. A success makes the history longer by one entry, which is the
newest, unless the history is full; a failure changes nothing; another cap, of at least one, makes
the history as short as it says. In every case the oldest entries go first. -/
inductive Step : History → HistoryEvent → History → Prop
  | succeeded {before after : History} {entry : HistoryEntry} (cap : after.cap = before.cap)
      (length : after.entries.length = min (before.entries.length + 1) before.cap)
      (newest : after.entries <:+ before.entries ++ [entry]) :
      Step before (.succeeded entry) after
  | failed (history : History) : Step history .failed history
  | capped {before after : History} {limit : Nat} (cap : after.cap = max 1 limit)
      (length : after.entries.length = min before.entries.length after.cap)
      (newest : after.entries <:+ before.entries) : Step before (.capped limit) after

/-- Events happen to a history, one after another. -/
inductive Lives : History → List HistoryEvent → History → Prop
  | still (history : History) : Lives history [] history
  | step {before middle after : History} {event : HistoryEvent} {rest : List HistoryEvent}
      (first : Step before event middle) (later : Lives middle rest after) :
      Lives before (event :: rest) after

/-- A history shows a log without so many of its oldest entries. -/
structure Shows (history : History) (log : List HistoryEntry) (dropped : Nat) : Prop where
  dropped_le : dropped ≤ log.length
  entries : history.entries = log.drop dropped

theorem empty_shows : empty.Shows [] 0 := ⟨Nat.le_refl 0, rfl⟩

variable {history before after : History} {event : HistoryEvent} {events : List HistoryEvent}
  {log : List HistoryEntry} {dropped : Nat}

theorem step_after (history : History) (event : HistoryEvent) :
    history.Step event (history.after event) := by
  cases event with
  | succeeded entry =>
      refine .succeeded rfl ?_ (newest_suffix _ _)
      rw [History.after, push, length_newest, List.length_append]
      rfl
  | failed => exact .failed history
  | capped cap => exact .capped (Nat.max_comm cap 1) (length_newest _ _) (newest_suffix _ _)

theorem lives_foldl (events : List HistoryEvent) (history : History) :
    history.Lives events (events.foldl History.after history) := by
  induction events generalizing history with
  | nil => exact .still history
  | cons event rest ih => exact .step (step_after history event) (ih _)

/-- Entries are only added at the end, and only left out at the front. -/
theorem Step.entries_suffix (h : before.Step event after) :
    after.entries <:+ before.entries ++ event.entry?.toList := by
  cases h with
  | succeeded cap length newest => exact newest
  | failed => exact (List.append_nil before.entries).symm ▸ List.suffix_rfl
  | capped cap length newest => exact (List.append_nil before.entries).symm ▸ newest

/-- An event drops further entries of the log, or none. -/
theorem Step.shows (h : before.Step event after) (hshows : before.Shows log dropped) :
    ∃ later, dropped ≤ later ∧ after.Shows (log ++ event.entry?.toList) later := by
  have hsuffix := h.entries_suffix
  rw [hshows.entries, ← List.drop_append_of_le_length hshows.dropped_le] at hsuffix
  obtain ⟨front, hfront⟩ := hsuffix
  have hlength := congrArg List.length hfront
  rw [List.length_append, List.length_drop] at hlength
  have hdropped : dropped ≤ (log ++ event.entry?.toList).length := by
    rw [List.length_append]
    exact Nat.le_add_right_of_le hshows.dropped_le
  refine ⟨dropped + front.length, Nat.le_add_right _ _, by omega, ?_⟩
  rw [← List.drop_drop, ← hfront, List.drop_left]

/-- A history goes on showing its log, and what was dropped never returns. -/
theorem Lives.shows (h : before.Lives events after) (hshows : before.Shows log dropped) :
    ∃ later, dropped ≤ later ∧
      after.Shows (log ++ events.filterMap HistoryEvent.entry?) later := by
  induction h generalizing log dropped with
  | still history => exact ⟨dropped, Nat.le_refl _, by rwa [List.filterMap_nil, List.append_nil]⟩
  | @step before middle after event rest first later ih =>
      obtain ⟨between, hbetween, hmiddle⟩ := first.shows hshows
      obtain ⟨last, hlast, hafter⟩ := ih hmiddle
      have hlog : (event :: rest).filterMap HistoryEvent.entry? =
          event.entry?.toList ++ rest.filterMap HistoryEvent.entry? := by
        cases hentry : event.entry? <;> simp [hentry]
      rw [hlog, ← List.append_assoc]
      exact ⟨last, Nat.le_trans hbetween hlast, hafter⟩

end History

end Ensemble
