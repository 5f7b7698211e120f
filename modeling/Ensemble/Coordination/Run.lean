/-
# Running a coordinated task

The agents of a request take seats, each with the key of its result. The strategies differ in
when a seat's call is made and in what its agent sees; all return entries in the order of the
seats and stop at the first failure in that order.
-/

import Ensemble.Coordination.Groups
import Ensemble.Session.Basic

namespace Ensemble

/-- An agent at one position of a request, and the key of its result. -/
structure Seat (ε : Type) where
  key : String
  agent : Agent ε

/-- The entries of a report, as they come about. -/
abbrev Entries (ε σ : Type) := Result ε σ (List CoordinationEntry)

namespace Coordination

variable {ε σ : Type}

/-- The agent at a seat runs the task of a request, with its own context on top of a common
one. -/
def runSeat (responder : Responder ε σ) (request : CoordinationRequest) (base : Context)
    (seat : Seat ε) (session : Session ε σ) : Result ε σ CoordinationEntry :=
  match session.execute responder seat.agent request.task
      (some (request.contextFor seat.agent.name base)) none with
  | (.ok output, after) => (.ok ⟨seat.key, seat.agent.name, output⟩, after)
  | (.error error, after) => (.error error, after)

/-- One seat after another. -/
def runInTurn (responder : Responder ε σ) (request : CoordinationRequest) (base : Context) :
    List (Seat ε) → Session ε σ → Entries ε σ
  | [], session => (.ok [], session)
  | seat :: rest, session =>
    match runSeat responder request base seat session with
    | (.error error, after) => (.error error, after)
    | (.ok entry, after) =>
      match runInTurn responder request base rest after with
      | (.error error, last) => (.error error, last)
      | (.ok entries, last) => (.ok (entry :: entries), last)

/-- The entries of calls, or the first error. -/
def collect : List (Except OrchestrationError CoordinationEntry) →
    Except OrchestrationError (List CoordinationEntry)
  | [] => .ok []
  | .error error :: _ => .error error
  | .ok entry :: rest => (collect rest).map (entry :: ·)

/-- Calls start in the order of the seats. `started` are the results of calls that have started
and were not taken yet; when they are as many as the limit, the first of them is taken before
the next call starts. -/
def runWindow (responder : Responder ε σ) (request : CoordinationRequest) (base : Context)
    (limit : Nat) : List (Except OrchestrationError CoordinationEntry) → List (Seat ε) →
    Session ε σ → Entries ε σ
  | started, [], session => (collect started, session)
  | [], seat :: rest, session =>
    let result := runSeat responder request base seat session
    runWindow responder request base limit [result.1] rest result.2
  | first :: started, seat :: rest, session =>
    if (first :: started).length < limit then
      let result := runSeat responder request base seat session
      runWindow responder request base limit (first :: started ++ [result.1]) rest result.2
    else
      match first with
      | .error error => (.error error, session)
      | .ok entry =>
        let result := runSeat responder request base seat session
        match runWindow responder request base limit (started ++ [result.1]) rest result.2 with
        | (.error error, last) => (.error error, last)
        | (.ok entries, last) => (.ok (entry :: entries), last)

/-- All seats at once, but no more calls under way than the limit; zero counts as one. -/
def runAtOnce (responder : Responder ε σ) (request : CoordinationRequest) (base : Context)
    (limit : Nat) (seats : List (Seat ε)) (session : Session ε σ) : Entries ε σ :=
  runWindow responder request base (max limit 1) [] seats session

/-- A context with the outputs of entries under their keys. -/
def withOutputs (context : Context) (entries : List CoordinationEntry) : Context :=
  context.insertAll (entries.map fun entry => (entry.key, Datum.text entry.output))

/-- The sentence for seats that the groups do not fit. -/
def otherSeats : String := "resolved agents do not match the hybrid grouping"

/-- One group after another; each sees the outputs of the groups before it. -/
def runGroups (responder : Responder ε σ) (request : CoordinationRequest) (limit : Nat) :
    List Nat → Context → List (Seat ε) → Session ε σ → Entries ε σ
  | [], _, _, session => (.ok [], session)
  | size :: sizes, base, seats, session =>
    if seats.length < size then (.error (.invalidStrategy otherSeats), session)
    else
      match runAtOnce responder request base limit (seats.take size) session with
      | (.error error, after) => (.error error, after)
      | (.ok entries, after) =>
        match runGroups responder request limit sizes (withOutputs base entries)
            (seats.drop size) after with
        | (.error error, last) => (.error error, last)
        | (.ok others, last) => (.ok (entries ++ others), last)

/-- Run a request with its strategy. -/
def run (responder : Responder ε σ) (request : CoordinationRequest) (limit : Nat)
    (seats : List (Seat ε)) (session : Session ε σ) : Entries ε σ :=
  match request.strategy with
  | .sequential => runInTurn responder request request.sharedContext seats session
  | .parallel => runAtOnce responder request request.sharedContext limit seats session
  | .hybrid =>
    match request.groupSizes with
    | .error error => (.error error, session)
    | .ok sizes => runGroups responder request limit sizes request.sharedContext seats session

end Coordination

end Ensemble
